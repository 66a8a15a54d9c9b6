import Protogen.Proofs.Files.Growth

/-!
# Writing below the output directory

A name that could lead out of the output directory is refused before anything is touched. Any
other name is looked up below it, component by component. So a write is refused for its name, or
the tree grows by directories on the way to the file, and then the file is not opened, or filled,
or left with a beginning of its content by a device that fails.
-/

namespace Protogen

namespace Files

/-- The name leads to nothing below the directory it is taken in, or out of it. -/
def Escapes (name : String) : Prop := name = "" ∨ isAbsolute name = true ∨ ".." ∈ pieces name

def Component.isNormal : Component → Bool
  | .normal _ => true
  | _ => false

theorem ofPiece?_eq_parent_iff (piece : String) :
    Component.ofPiece? piece = some .parent ↔ piece = ".." := by
  rw [Component.ofPiece?]
  split
  · rename_i hplain
    rcases hplain with rfl | rfl <;> simp
  · split <;> simp_all

theorem normal_of_ofPiece? {piece : String} {component : Component}
    (h : Component.ofPiece? piece = some component) (hparent : piece ≠ "..") :
    component.isNormal = true := by
  rw [Component.ofPiece?, if_neg hparent] at h
  split at h
  · simp at h
  · obtain rfl := Option.some.inj h
    rfl

theorem not_mem_frontOf {component : Component} (hroot : component ≠ .root)
    (hcurrent : component ≠ .current) (pieces : List String) : component ∉ frontOf pieces := by
  cases pieces with
  | nil => simp [frontOf]
  | cons piece rest =>
      rw [frontOf]
      split
      · simpa using hroot
      · split <;> simp [hcurrent]

theorem parent_mem_components_iff (path : String) :
    .parent ∈ components path ↔ ".." ∈ pieces path := by
  rw [components_eq, List.mem_append, List.mem_filterMap]
  simp [not_mem_frontOf, ofPiece?_eq_parent_iff]

theorem not_escapes_iff (name : String) :
    ¬Escapes name ↔ name ≠ "" ∧ isAbsolute name = false ∧ ".." ∉ pieces name := by
  rw [Escapes, not_or, not_or, Bool.not_eq_true]

theorem staysInside_iff (name : String) : staysInside name = true ↔ ¬Escapes name := by
  rw [Escapes, ← parent_mem_components_iff, staysInside]
  simp [not_or, and_assoc]

/-- Without steps upwards, the pieces of a name are its normal components. -/
theorem filter_components_eq {name : String} (h : ".." ∉ pieces name) :
    (components name).filter Component.isNormal =
      (pieces name).filterMap Component.ofPiece? := by
  have hfront : (frontOf (pieces name)).filter Component.isNormal = [] := by
    refine List.filter_eq_nil_iff.mpr fun component hmem => ?_
    cases component with
    | normal other => exact absurd hmem (not_mem_frontOf (by simp) (by simp) _)
    | root => simp [Component.isNormal]
    | current => simp [Component.isNormal]
    | parent => simp [Component.isNormal]
  rw [components_eq, List.filter_append, hfront, List.nil_append]
  refine List.filter_eq_self.mpr fun component hmem => ?_
  obtain ⟨piece, hpiece, hcomponent⟩ := List.mem_filterMap.mp hmem
  refine normal_of_ofPiece? hcomponent ?_
  rintro rfl
  exact h hpiece

end Files

open Files

theorem Files.OsError.message_ne_outside (cause : OsError) :
    cause.message ≠ FileCause.outside.message := by
  cases cause <;> decide +kernel

namespace GeneratedFile

/-- How a write below an output directory ends. -/
theorem writeBelow_cases (file : GeneratedFile) (out : String) (device : Device) (tree : Tree) :
    (Escapes file.name ∧ file.writeBelow out device tree =
      (tree, .error (.file (file.pathBelow out) .outside))) ∨
    (¬Escapes file.name ∧
      ∃ grown, tree.GrowsBy grown (ancestors (file.pathBelow out)).tail ∧
        ((∃ e cause, ArtifactError.causeMessage e = OsError.message cause ∧
            file.writeBelow out device tree = (grown, .error e)) ∨
          (∃ filled, grown.fillFile fileMode (file.pathBelow out) file.bytes = .ok filled ∧
            file.writeBelow out device tree = (filled, .ok (file.pathBelow out))) ∨
          ∃ room fault filled, device.room? = some (room, fault) ∧ room < file.bytes.length ∧
            grown.fillFile fileMode (file.pathBelow out) (file.bytes.take room) = .ok filled ∧
            file.writeBelow out device tree =
              (filled, .error (.file (file.pathBelow out) (.failed fault))))) := by
  by_cases hescapes : Escapes file.name
  · have hinside : ¬staysInside file.name = true := by simpa [staysInside_iff] using hescapes
    exact .inl ⟨hescapes, by rw [writeBelow, if_neg hinside]⟩
  · have hinside : staysInside file.name = true := (staysInside_iff file.name).mpr hescapes
    have hgrows := tree.growsBy_ancestors device (file.pathBelow out)
    refine .inr ⟨hescapes, _, hgrows, ?_⟩
    rw [writeBelow, if_pos hinside]
    rcases tree.makeDirectories device (ancestors (file.pathBelow out)).tail with ⟨grown, e | ⟨⟩⟩
    · exact .inl ⟨.directory (parent (file.pathBelow out)) e, e, rfl, rfl⟩
    · rcases grown.writeFile_cases device fileMode (file.pathBelow out) file.bytes with
        ⟨cause, hwrite⟩ | ⟨filled, -, -, hfill, hwrite⟩ |
        ⟨room, fault, filled, hdevice, hroom, hfill, hwrite⟩
      · exact .inl ⟨.file (file.pathBelow out) (.failed cause), cause, rfl, by simp only [hwrite]⟩
      · exact .inr (.inl ⟨filled, hfill, by simp only [hwrite]⟩)
      · exact .inr (.inr ⟨room, fault, filled, hdevice, hroom, hfill, by simp only [hwrite]⟩)

end GeneratedFile

end Protogen
