import Protogen.Proofs.Generator.Lookup

/-!
# Known types

The check of a request collects the names of all types in a walk that carries the scope along
as a text. The index enters them in a walk of its own, with a path that is joined to the
components of the package at the end. Type by type the two names are the same exactly if the
package is plain. So if all packages are, the check and the generator know the same types,
whatever the types themselves are called.
-/

namespace Protogen

namespace Generator

open Descriptor Request

theorem TypeIndex.mem_names_iff (types : TypeIndex) (name : String) :
    name ∈ types.map Prod.fst ↔ ∃ info, types.find? name = some info := by
  constructor
  · intro h
    obtain ⟨t, ht, rfl⟩ := List.mem_map.mp h
    exact exists_find?_of_mem types t.1 t.2 ht
  · rintro ⟨info, hinfo⟩
    exact List.mem_map.mpr ⟨(name, info), mem_of_find? types name info hinfo, rfl⟩

/-- The check and the index give the types the same names, one by one, exactly if they all come
from plain packages. -/
theorem definedTypes_eq_names_iff (files : List FileDescriptor) :
    definedTypes files = (TypeIndex.ofFiles files).map Prod.fst ↔
      ∀ t ∈ TypeIndex.ofFiles files, IsPlainPackage t.2.package := by
  rw [definedTypes_eq_index, List.map_inj_left]
  refine forall₂_congr fun t ht => ?_
  obtain ⟨hname, -, -⟩ := name_of_mem_ofFiles files t.1 t.2 ht
  rw [← definedName_eq_iff, ← hname]

theorem isPlainPackage_of_mem_ofFiles {files : List FileDescriptor}
    (hplain : ∀ file ∈ files, IsPlainPackage file.package) {t : String × TypeInfo}
    (ht : t ∈ TypeIndex.ofFiles files) : IsPlainPackage t.2.package := by
  obtain ⟨-, -, file, hfile, hpackage⟩ := name_of_mem_ofFiles files t.1 t.2 ht
  rw [hpackage]
  exact hplain file hfile

/-- If all packages are plain, the names that the check of a request collects are those under
which the index finds something, and what it finds is a type that the check gives this name. -/
theorem mem_definedTypes_iff_find? (files : List FileDescriptor)
    (hplain : ∀ file ∈ files, IsPlainPackage file.package) (name : String) :
    (name ∈ definedTypes files ↔ ∃ info, (TypeIndex.ofFiles files).find? name = some info) ∧
      ∀ info, (TypeIndex.ofFiles files).find? name = some info → info.definedName = name := by
  have hnames := (definedTypes_eq_names_iff files).mpr fun t ht =>
    isPlainPackage_of_mem_ofFiles hplain ht
  refine ⟨by rw [hnames, TypeIndex.mem_names_iff], fun info hinfo => ?_⟩
  have hmem := TypeIndex.mem_of_find? _ _ _ hinfo
  obtain ⟨hname, -, -⟩ := name_of_mem_ofFiles files name info hmem
  rw [(definedName_eq_iff info).mpr (isPlainPackage_of_mem_ofFiles hplain hmem), ← hname]

/-- A file in the given package with a message of no name, twice, in which there are an enum
`Kind` and another message of no name. -/
def namelessFile (package : String) : FileDescriptor :=
  let message : MessageDescriptor :=
    ⟨{ MessageBody.blank with enums := [⟨some "Kind", [], none, [], []⟩] },
      [⟨MessageBody.blank, []⟩]⟩
  { FileDescriptor.blank with package? := some package, messages := [message, message] }

/-- Names may be empty and be given twice, in packages as well as outside of them. -/
theorem nameless_kind_known :
    let files := [namelessFile "", namelessFile "tracks.v1"]
    (∀ file ∈ files, IsPlainPackage file.package) ∧
      ".tracks.v1..Kind" ∈ definedTypes files ∧
      ∃ info, (TypeIndex.ofFiles files).find? ".tracks.v1..Kind" = some info ∧
        info.definedName = ".tracks.v1..Kind" := by
  intro files
  have hplain : ∀ file ∈ files, IsPlainPackage file.package :=
    List.forall_mem_cons.mpr ⟨.inl rfl, List.forall_mem_singleton.mpr (.inr (by decide))⟩
  have hdefined : ".tracks.v1..Kind" ∈ definedTypes files := by decide +kernel
  obtain ⟨hknown, hsame⟩ := mem_definedTypes_iff_find? files hplain ".tracks.v1..Kind"
  obtain ⟨info, hinfo⟩ := hknown.mp hdefined
  exact ⟨hplain, hdefined, info, hinfo, hsame info hinfo⟩

end Generator

end Protogen
