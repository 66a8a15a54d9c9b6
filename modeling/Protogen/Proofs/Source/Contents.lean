import Protogen.Proofs.Source.ModuleTree

/-!
# The contents of a generated file

All structures and enumerations in a tree of items, in the order in which they are
written, each with the names of the modules around it. Every item of the tree but the
modules themselves is in the list as often as it is in the tree, so the list tells how
often something is written.
-/

namespace Protogen

namespace Source

mutual

/-- What an item in the module `above` consists of. -/
def Item.contents (above : List String) : Item → List (List String × Item)
  | .struct docs name members => [(above, .struct docs name members)]
  | .oneof docs name variants => [(above, .oneof docs name variants)]
  | .enum docs name variants => [(above, .enum docs name variants)]
  | .module _ name items => contentsOf (above ++ [name]) items

def contentsOf (above : List String) : List Item → List (List String × Item)
  | [] => []
  | item :: items => item.contents above ++ contentsOf above items

end

def Item.IsModule (item : Item) : Prop := ∃ docs name inner, item = .module docs name inner

theorem contentsOf_append (above : List String) (items more : List Item) :
    contentsOf above (items ++ more) = contentsOf above items ++ contentsOf above more := by
  induction items with
  | nil => rfl
  | cons item items ih => rw [List.cons_append, contentsOf, contentsOf, ih, List.append_assoc]

theorem Item.contents_of_not_module (above : List String) {item : Item} (h : ¬item.IsModule) :
    item.contents above = [(above, item)] := by
  cases item with
  | module docs name inner => exact absurd ⟨docs, name, inner, rfl⟩ h
  | struct | oneof | enum => rfl

/-- Items without modules are their own contents. -/
theorem contentsOf_of_flat (above : List String) (items : List Item)
    (h : ∀ item ∈ items, ¬item.IsModule) : contentsOf above items = items.map (above, ·) := by
  induction items with
  | nil => rfl
  | cons item items ih =>
      obtain ⟨hitem, hitems⟩ := List.forall_mem_cons.mp h
      rw [contentsOf, Item.contents_of_not_module above hitem, ih hitems]
      rfl

theorem Item.mem_contents_of_not_module {path above : List String} {item other : Item}
    (h : ¬other.IsModule) : (path, item) ∈ other.contents above ↔
      ∃ rest, path = above ++ rest ∧ Within [other] rest item ∧ ¬item.IsModule := by
  rw [Item.contents_of_not_module above h, List.mem_singleton, Prod.mk.injEq]
  constructor
  · rintro ⟨rfl, rfl⟩
    exact ⟨[], by simp, .here List.mem_cons_self, h⟩
  · rintro ⟨rest, rfl, hwithin, -⟩
    cases hwithin with
    | here hmem => exact ⟨by simp, List.mem_singleton.mp hmem⟩
    | inside hmem _ => exact absurd ⟨_, _, _, (List.mem_singleton.mp hmem).symm⟩ h

mutual

theorem Item.mem_contents_iff (path : List String) (item : Item) : ∀ (above : List String)
    (other : Item), (path, item) ∈ other.contents above ↔
      ∃ rest, path = above ++ rest ∧ Within [other] rest item ∧ ¬item.IsModule
  | above, .module docs name inner => by
      rw [Item.contents, mem_contentsOf_iff path item (above ++ [name]) inner]
      constructor
      · rintro ⟨rest, rfl, hwithin, hitem⟩
        exact ⟨name :: rest, by simp, .inside List.mem_cons_self hwithin, hitem⟩
      · rintro ⟨rest, rfl, hwithin, hitem⟩
        cases hwithin with
        | here hmem => exact absurd ⟨docs, name, inner, List.mem_singleton.mp hmem⟩ hitem
        | inside hmem hinner =>
            obtain ⟨rfl, rfl, rfl⟩ := Item.module.inj (List.mem_singleton.mp hmem)
            exact ⟨_, by simp, hinner, hitem⟩
  | above, .struct _ _ _ => Item.mem_contents_of_not_module (by simp [Item.IsModule])
  | above, .oneof _ _ _ => Item.mem_contents_of_not_module (by simp [Item.IsModule])
  | above, .enum _ _ _ => Item.mem_contents_of_not_module (by simp [Item.IsModule])

/-- The contents are what stands somewhere in the tree and is no module. -/
theorem mem_contentsOf_iff (path : List String) (item : Item) : ∀ (above : List String)
    (items : List Item), (path, item) ∈ contentsOf above items ↔
      ∃ rest, path = above ++ rest ∧ Within items rest item ∧ ¬item.IsModule
  | above, [] => by simp [contentsOf, Within.not_nil]
  | above, other :: items => by
      have ih := Item.mem_contents_iff path item above other
      have ihs := mem_contentsOf_iff path item above items
      have hsplit (rest : List String) : Within (other :: items) rest item ↔
          Within [other] rest item ∨ Within items rest item := by
        rw [← List.singleton_append, Within.append_iff]
      rw [contentsOf, List.mem_append, ih, ihs]
      simp only [hsplit, or_and_right, and_or_left, exists_or]

end

end Source

end Protogen
