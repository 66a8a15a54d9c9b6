import Mathlib.Data.List.Nodup
import Protogen.Proofs.Request.References

/-!
# Accepted requests

What a request that passes the check is known to be: all of its rules hold at once,
whichever of them is checked first.
-/

namespace Protogen

namespace Request

open Descriptor Link

theorem firstRepeated?_eq_none_iff (seen names : List String) :
    firstRepeated? seen names = none ↔ names.Nodup ∧ ∀ name ∈ names, name ∉ seen := by
  induction names generalizing seen with
  | nil => simp [firstRepeated?]
  | cons name names ih =>
      by_cases hseen : seen.contains name
      · have hmem : name ∈ seen := by simpa using hseen
        simp [firstRepeated?, hmem]
      · have hmem : name ∉ seen := by simpa using hseen
        rw [firstRepeated?, if_neg hseen, ih, List.nodup_cons, List.forall_mem_cons]
        constructor
        · rintro ⟨hnodup, hnot⟩
          refine ⟨⟨fun h => hnot name h (by simp), hnodup⟩, hmem, ?_⟩
          exact fun other hother h => hnot other hother (List.mem_cons_of_mem _ h)
        · rintro ⟨⟨hname, hnodup⟩, -, hnot⟩
          refine ⟨hnodup, fun other hother h => ?_⟩
          rcases List.mem_cons.mp h with rfl | h
          · exact hname hother
          · exact hnot other hother h

theorem missingImport?_eq_none_iff (names : List String) (files : List FileDescriptor) :
    missingImport? names files = none ↔ ∀ file ∈ files, ∀ d ∈ file.dependencies, d ∈ names := by
  induction files with
  | nil => simp [missingImport?]
  | cons file files ih =>
      rw [missingImport?, List.forall_mem_cons, ← ih]
      cases hfind : file.dependencies.find? fun d => !names.contains d with
      | none =>
          have hall : ∀ d ∈ file.dependencies, d ∈ names := by
            simpa using List.find?_eq_none.mp hfind
          exact ⟨fun h => ⟨hall, h⟩, fun h => h.2⟩
      | some d =>
          have hd := List.find?_some hfind
          have hmem := List.mem_of_find?_eq_some hfind
          simp only [reduceCtorEq, false_iff, not_and]
          exact fun h => absurd (h d hmem) (by simpa using hd)

/-- A request is accepted if it asks for something, its files have distinct names,
the files asked for and the imports are among them, every reference resolves, and
the files link. -/
theorem validate_eq_ok_iff (q : GeneratorRequest) :
    validate q = .ok () ↔
      q.filesToGenerate ≠ [] ∧ (q.files.map FileDescriptor.name).Nodup ∧
        (∀ name ∈ q.filesToGenerate, name ∈ q.files.map FileDescriptor.name) ∧
        (∀ file ∈ q.files, ∀ d ∈ file.dependencies, d ∈ q.files.map FileDescriptor.name) ∧
        (∀ file ∈ q.files, ∀ p ∈ fileFields file, Resolves (definedTypes q.files) p.1 p.2) ∧
        link q.files = .ok () := by
  have hrepeated := firstRepeated?_eq_none_iff [] (q.files.map FileDescriptor.name)
  simp only [List.not_mem_nil, not_false_eq_true, implies_true, and_true] at hrepeated
  rw [← checkTypes_eq_ok_iff, ← missingImport?_eq_none_iff, ← hrepeated, validate]
  by_cases hempty : q.filesToGenerate.isEmpty
  · simp [List.isEmpty_iff.mp hempty]
  rw [if_neg hempty]
  have hne : q.filesToGenerate ≠ [] := by simpa using hempty
  cases firstRepeated? [] (q.files.map FileDescriptor.name) with
  | some name => simp
  | none =>
      cases hfind : q.filesToGenerate.find? fun name =>
          !(q.files.map FileDescriptor.name).contains name with
      | some name =>
          have hname := List.find?_some hfind
          have hmem := List.mem_of_find?_eq_some hfind
          simp only [reduceCtorEq, false_iff, not_and]
          intro _ _ h
          exact absurd (h name hmem) (by simpa using hname)
      | none =>
          have hall : ∀ name ∈ q.filesToGenerate, name ∈ q.files.map FileDescriptor.name := by
            simpa using List.find?_eq_none.mp hfind
          cases missingImport? (q.files.map FileDescriptor.name) q.files with
          | some missing => simp
          | none =>
              simp only [Outcome.then_eq_ok_iff, Outcome.mapError_eq_ok_iff]
              exact ⟨fun h => ⟨hne, trivial, hall, trivial, h⟩, fun h => h.2.2.2.2⟩

end Request

end Protogen
