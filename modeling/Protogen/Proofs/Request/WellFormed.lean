import Protogen.Proofs.Generator.Index
import Protogen.Proofs.Request.Accepted

/-!
# Well-formed requests

What makes a request self-contained, said without the check: what a file defines, which
scopes lie around a place, what a type name stands for when it is seen from a message.
The check collects names in lists and walks along dots; both come to the same.
-/

namespace Protogen

namespace Request

open Descriptor Generator Link Name

/-- The full names of the messages of a file, at any depth, and of its enums. -/
inductive Defines (file : FileDescriptor) : String → Prop
  | message {path : List String} {m : MessageDescriptor} :
      MessageAt file.messages path m → Defines file (packageScope file.package ++ dotted path)
  | nestedEnum {path : List String} {m : MessageDescriptor} {e : EnumDescriptor} :
      MessageAt file.messages path m → e ∈ m.body.enums →
      Defines file (packageScope file.package ++ dotted (path ++ [e.name]))
  | enum {e : EnumDescriptor} :
      e ∈ file.enums → Defines file (packageScope file.package ++ dotted [e.name])

/-- Some file of the request defines the name. -/
def IsDefined (files : List FileDescriptor) (name : String) : Prop :=
  ∃ file ∈ files, Defines file name

/-- The place lies in the scope, or is the scope itself. -/
def Encloses (scope place : String) : Prop := place = scope ∨ ∃ rest, place = scope ++ "." ++ rest

/-- A type name stands for something: with a dot in front for what it says, otherwise for
something in a scope around the place where it is used. -/
def StandsForType (files : List FileDescriptor) (place name : String) : Prop :=
  if IsAbsolute name then IsDefined files name
  else ∃ scope, Encloses scope place ∧ IsDefined files (scope ++ "." ++ name)

def IsFileOf (q : GeneratorRequest) (name : String) : Prop := ∃ file ∈ q.files, file.name = name

/-- A request that a generator can answer without asking for more. -/
structure WellFormed (q : GeneratorRequest) : Prop where
  asks : q.filesToGenerate ≠ []
  distinct : (q.files.map FileDescriptor.name).Nodup
  present : ∀ name ∈ q.filesToGenerate, IsFileOf q name
  imports : ∀ file ∈ q.files, ∀ d ∈ file.dependencies, IsFileOf q d
  types : ∀ file ∈ q.files, ∀ path m, MessageAt file.messages path m → ∀ f ∈ m.body.fields,
    f.typeName ≠ "" → StandsForType q.files (packageScope file.package ++ dotted path) f.typeName
  links : link q.files = .ok ()

theorem defines_iff_mem_index (file : FileDescriptor) (name : String) :
    Defines file name ↔ ∃ t ∈ fileIndex file, t.2.definedName = name := by
  constructor
  · intro h
    cases h with
    | message hm => exact ⟨_, (mem_fileIndex_iff file _).mpr (.inl ⟨_, _, hm, .inl rfl⟩), rfl⟩
    | nestedEnum hm he =>
        exact ⟨_, (mem_fileIndex_iff file _).mpr (.inl ⟨_, _, hm, .inr ⟨_, he, rfl⟩⟩), rfl⟩
    | enum he => exact ⟨_, (mem_fileIndex_iff file _).mpr (.inr ⟨_, he, rfl⟩), rfl⟩
  · rintro ⟨t, ht, rfl⟩
    rcases (mem_fileIndex_iff file t).mp ht with ⟨path, m, hm, rfl | ⟨e, he, rfl⟩⟩ | ⟨e, he, rfl⟩
    · exact .message hm
    · exact .nestedEnum hm he
    · exact .enum he

/-- The names that the check collects are those that are defined. -/
theorem mem_definedTypes_iff (files : List FileDescriptor) (name : String) :
    name ∈ definedTypes files ↔ IsDefined files name := by
  simp only [definedTypes_eq_index, TypeIndex.ofFiles, List.mem_map, List.mem_flatMap, IsDefined,
    defines_iff_mem_index]
  constructor
  · rintro ⟨t, ⟨file, hfile, ht⟩, hname⟩
    exact ⟨file, hfile, t, ht, hname⟩
  · rintro ⟨file, hfile, t, ht, hname⟩
    exact ⟨t, ⟨file, hfile, ht⟩, hname⟩

/-- What stands before a dot of a text that is given backwards. -/
theorem mem_beforeDots_iff (cs : List Char) (s : String) :
    s ∈ beforeDots cs ↔ ∃ rest : List Char, cs = rest ++ '.' :: s.toList.reverse := by
  induction cs with
  | nil => simp [beforeDots]
  | cons c cs ih =>
      rw [beforeDots]
      constructor
      · intro h
        split at h
        · rename_i hdot
          rcases List.mem_cons.mp h with rfl | h
          · exact ⟨[], by simp [hdot]⟩
          · obtain ⟨rest, rfl⟩ := ih.mp h
            exact ⟨c :: rest, rfl⟩
        · obtain ⟨rest, rfl⟩ := ih.mp h
          exact ⟨c :: rest, rfl⟩
      · rintro ⟨rest, hrest⟩
        cases rest with
        | nil =>
            obtain ⟨rfl, rfl⟩ := List.cons.inj hrest
            simp
        | cons d rest =>
            obtain ⟨rfl, hcs⟩ := List.cons.inj hrest
            have hs := ih.mpr ⟨rest, hcs⟩
            split
            · exact List.mem_cons_of_mem _ hs
            · exact hs

/-- The walk along the dots of a place meets the scopes around it, and at last the
empty one. -/
theorem mem_outerScopes_iff (place scope : String) :
    scope ∈ outerScopes place ↔ Encloses scope place ∨ scope = "" := by
  have hdot : ".".toList = ['.'] := rfl
  have hbefore :
      scope ∈ beforeDots place.toList.reverse ↔ ∃ rest, place = scope ++ "." ++ rest := by
    rw [mem_beforeDots_iff]
    constructor
    · rintro ⟨rest, hrest⟩
      refine ⟨String.ofList rest.reverse, String.toList_inj.mp ?_⟩
      have hplace := congrArg List.reverse hrest
      simpa [hdot] using hplace
    · rintro ⟨rest, rfl⟩
      exact ⟨rest.toList.reverse, by simp [hdot]⟩
  rw [outerScopes, List.cons_append, List.mem_cons, List.mem_append, hbefore, List.mem_singleton,
    Encloses, eq_comm (a := scope), or_assoc]

theorem encloses_empty_of_absolute {place : String} (h : IsAbsolute place) : Encloses "" place := by
  have hdot : ".".toList = ['.'] := rfl
  refine .inr ⟨String.ofList place.toList.tail, String.toList_inj.mp ?_⟩
  cases hchars : place.toList with
  | nil => simp [IsAbsolute, hchars] at h
  | cons c cs =>
      have hc : c = '.' := by simpa [IsAbsolute, hchars] using h
      simp [hdot, hc]

/-- A type name resolves, as seen from a full name, exactly if it stands for a type. -/
theorem resolveType?_isSome_iff (files : List FileDescriptor) {place : String}
    (hplace : IsAbsolute place) (name : String) :
    (resolveType? (definedTypes files) place name).isSome ↔ StandsForType files place name := by
  rw [StandsForType]
  split
  · rename_i habs
    rw [resolveType?_isSome_of_absolute _ _ habs, mem_definedTypes_iff]
  · rename_i hrel
    rw [resolveType?_isSome_of_relative _ _ hrel]
    constructor
    · rintro ⟨scope, hscope, hmem⟩
      have hdefined := (mem_definedTypes_iff files _).mp hmem
      rcases (mem_outerScopes_iff place scope).mp hscope with hscope | rfl
      · exact ⟨scope, hscope, hdefined⟩
      · exact ⟨"", encloses_empty_of_absolute hplace, hdefined⟩
    · rintro ⟨scope, hscope, hdefined⟩
      exact ⟨scope, (mem_outerScopes_iff place scope).mpr (.inl hscope),
        (mem_definedTypes_iff files _).mpr hdefined⟩

/-- The full name of a message begins with a dot. -/
theorem isAbsolute_of_mem_fileFields {file : FileDescriptor} {p : String × FieldDescriptor}
    (hp : p ∈ fileFields file) : IsAbsolute p.1 := by
  obtain ⟨path, m, hm, -, hplace⟩ := (mem_fileFields_iff file p.1 p.2).mp hp
  obtain ⟨name, names, rfl⟩ := List.exists_cons_of_ne_nil hm.path_ne_nil
  have hdot : ".".toList = ['.'] := rfl
  rw [hplace, IsAbsolute, packageScope]
  split
  · simp [hdot]
  · simp [hdot]

theorem resolves_iff (files : List FileDescriptor) {file : FileDescriptor}
    {p : String × FieldDescriptor} (hp : p ∈ fileFields file) :
    Resolves (definedTypes files) p.1 p.2 ↔
      (p.2.typeName ≠ "" → StandsForType files p.1 p.2.typeName) := by
  rw [Resolves, resolveType?_isSome_iff files (isAbsolute_of_mem_fileFields hp), imp_iff_not_or,
    not_not]

theorem forall_resolves_iff (files : List FileDescriptor) (file : FileDescriptor) :
    (∀ p ∈ fileFields file, Resolves (definedTypes files) p.1 p.2) ↔
      ∀ path m, MessageAt file.messages path m → ∀ f ∈ m.body.fields, f.typeName ≠ "" →
        StandsForType files (packageScope file.package ++ dotted path) f.typeName := by
  constructor
  · intro h path m hm f hf
    have hp := (mem_fileFields_iff file _ f).mpr ⟨path, m, hm, hf, rfl⟩
    exact (resolves_iff files hp).mp (h _ hp)
  · intro h p hp
    obtain ⟨path, m, hm, hf, hplace⟩ := (mem_fileFields_iff file p.1 p.2).mp hp
    rw [resolves_iff files hp, hplace]
    exact h path m hm p.2 hf

theorem isFileOf_iff (q : GeneratorRequest) (name : String) :
    IsFileOf q name ↔ name ∈ q.files.map FileDescriptor.name := by
  rw [IsFileOf, List.mem_map]

theorem validate_eq_ok_iff_wellFormed (q : GeneratorRequest) :
    validate q = .ok () ↔ WellFormed q := by
  rw [validate_eq_ok_iff]
  simp only [← isFileOf_iff, forall_resolves_iff]
  exact ⟨fun ⟨hasks, hdistinct, hpresent, himports, htypes, hlinks⟩ =>
      ⟨hasks, hdistinct, hpresent, himports, htypes, hlinks⟩,
    fun h => ⟨h.asks, h.distinct, h.present, h.imports, h.types, h.links⟩⟩

end Request

end Protogen
