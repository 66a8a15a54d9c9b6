import Protogen.Proofs.Generator.TypePaths
import Protogen.Proofs.PathMapping

/-!
# Paths from other files

A type of another file is referred to by the path that its package is mapped to, with a
module for each name around the type and the converted name of the type below it. The items
of its own file stand in modules of the same names: seen from where the package is mapped
to, every such path leads to the item of the type.
-/

namespace Protogen

namespace Generator

open Descriptor Name PathMapping Request Source

theorem not_mem_dot_of_isIdentifier {name : String} (h : isIdentifier name) :
    name ≠ "" ∧ '.' ∉ name.toList := by
  refine ⟨?_, fun hdot => ?_⟩
  · rintro rfl
    simp [isIdentifier, isIdentifierChars] at h
  · exact absurd (identifierPart_of_isIdentifier name h '.' hdot) (by decide)

/-- A type of another file is referred to by the path that it is mapped to. -/
theorem Context.reference_elsewhere {ctx : Context} {typeName path : String} {info : TypeInfo}
    (h : ctx.types.find? typeName = some info) (hfile : info.file ≠ ctx.fileName)
    (hpath : ctx.mapping.resolve? typeName = some path) (depth : Nat) :
    ctx.reference typeName depth = .ok (.elsewhere path) := by
  rw [reference, TypeIndex.get, h, hpath]
  exact if_neg hfile

/-- If the generation of a file succeeds, every type that the file defines outside of its
map entries is generated in some modules under some name. Wherever the longest mapped path
that covers a generated type is the one for the package of the file, every other file
refers to the type by that path, those modules and that name, and so to its item. -/
theorem mapped_paths_meet_generated_types (file : FileDescriptor) (types : TypeIndex)
    (mapping : PathMapping) (hpackage : IsPlainPackage file.package) (text : String)
    (h : fileText file types mapping = .ok text) :
    ∃ items, fileItems file types mapping = .ok items ∧ text = renderFile file.name items ∧
      (∀ path d, DefinedAt file path d → ∃ modules name,
        GeneratedAs file items path modules name) ∧
      ∀ path modules name, GeneratedAs file items path modules name →
        follow [] (modules ++ [name]) = some (modules, name) ∧
        (∃ item, Within items modules item ∧ item.typeName? = some name) ∧
        ∀ (other : Context) (info : TypeInfo) (root : String) (depth : Nat),
          other.types.find? (fullName file.package path) = some info →
          info.file = file.name → file.name ≠ other.fileName →
          IsLongestCover other.mapping (fullName file.package path) ("." ++ file.package) root →
          other.reference (fullName file.package path) depth =
            .ok (.elsewhere ("::".intercalate (root :: modules ++ [name]))) := by
  obtain ⟨edition, e, -, hitems, htext⟩ := fileText_eq_ok h
  refine ⟨e.items, hitems, htext, fun path d hd => ?_, fun path modules name hgenerated => ?_⟩
  · obtain ⟨declared, hdeclared, hpath⟩ := exists_declared_of_definedAt hd
    exact e.exists_generatedAs hdeclared hpath
  · obtain ⟨hidentifiers, ⟨outer, last, rfl, rfl, rfl⟩, hitem⟩ := e.generatedAs_spec hgenerated
    refine ⟨?_, hitem, fun other info root depth hfind hfile hother hcover => ?_⟩
    · have hmodules : ∀ s ∈ outer.map moduleName, s ≠ "super" :=
        List.forall_mem_map.mpr fun s _ => moduleName_ne_super s
      exact follow_down [] _ _ hmodules
    · have hresolve := resolve?_fullName hpackage (by simp)
        (fun name hname => not_mem_dot_of_isIdentifier (hidentifiers name hname)) hcover
      rw [pathBelow_append_singleton] at hresolve
      exact Context.reference_elsewhere hfind (hfile ▸ hother) hresolve depth

/-- An album that refers to the point of a track finds it where the tracks are mapped to,
although points have a mapping of the same beginning. -/
theorem track_point_from_album :
    let file := trackFile ".tracks.Track.Point"
    let mapping := (PathMapping.standard.insert "tracks" "crate::tracks").insert
      ".tracks.Track.Po" "crate::points"
    let album : Context :=
      ⟨"album.proto", TypeIndex.ofFiles [file], mapping, Comments.ofFile .blank, .proto3⟩
    ∃ text items modules name,
      fileText file (TypeIndex.ofFiles [file]) .empty = .ok text ∧
        GeneratedAs file items ["Track", "Point"] modules name ∧
        album.reference ".tracks.Track.Point" 1 =
          .ok (.elsewhere ("::".intercalate ("crate::tracks" :: modules ++ [name]))) := by
  intro file mapping album
  have hpackage : IsPlainPackage file.package := .inr (by decide)
  have hok : (fileText file (TypeIndex.ofFiles [file]) .empty).isOk = true := by decide +kernel
  obtain ⟨text, htext⟩ := Outcome.exists_of_isOk hok
  obtain ⟨items, -, -, hdefined, hpaths⟩ :=
    mapped_paths_meet_generated_types file _ .empty hpackage text htext
  have hpoint : DefinedAt file ["Track", "Point"] _ :=
    .message (.inside List.mem_cons_self rfl (.here List.mem_cons_self rfl))
  obtain ⟨modules, name, hgenerated⟩ := hdefined _ _ hpoint
  obtain ⟨-, -, hreference⟩ := hpaths _ _ _ hgenerated
  have hname : fullName file.package ["Track", "Point"] = ".tracks.Track.Point" := by
    decide +kernel
  rw [hname] at hreference
  refine ⟨text, items, modules, name, htext, hgenerated, ?_⟩
  exact hreference album ⟨"track.proto", "tracks", ["Track", "Point"], .message, none⟩ _ 1
    (by decide +kernel) rfl (by decide) (by decide +kernel)

end Generator

end Protogen
