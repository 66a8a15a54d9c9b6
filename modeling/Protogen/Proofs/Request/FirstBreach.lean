import Protogen.Proofs.Request.WellFormed

/-!
# What is reported of a request

The rules of a request are checked one after the other, and each of them goes through the
request in the order in which it is written. So what is reported is the first thing that
breaks a rule, and every rule that comes before is kept.
-/

namespace Protogen

namespace Request

open Descriptor Generator Link Name

/-- The first element of a list with a property. -/
def FirstWith {α : Type} (P : α → Prop) (xs : List α) (x : α) : Prop :=
  ∃ before after, xs = before ++ x :: after ∧ P x ∧ ∀ y ∈ before, ¬P y

theorem find?_eq_some_iff_firstWith {α : Type} (p : α → Bool) (xs : List α) (x : α) :
    xs.find? p = some x ↔ FirstWith (fun y => p y = true) xs x := by
  rw [List.find?_eq_some_iff_append, FirstWith]
  constructor
  · rintro ⟨hx, before, after, rfl, hbefore⟩
    exact ⟨before, after, rfl, hx, fun y hy => by simpa using hbefore y hy⟩
  · rintro ⟨before, after, rfl, hx, hbefore⟩
    exact ⟨hx, before, after, rfl, fun y hy => by simpa using hbefore y hy⟩

theorem FirstWith.congr {α : Type} {P Q : α → Prop} {xs : List α} (h : ∀ x ∈ xs, P x ↔ Q x)
    (x : α) : FirstWith P xs x ↔ FirstWith Q xs x := by
  constructor
  · rintro ⟨before, after, rfl, hx, hbefore⟩
    exact ⟨before, after, rfl, (h x (by simp)).mp hx,
      fun y hy hQ => hbefore y hy ((h y (by simp [hy])).mpr hQ)⟩
  · rintro ⟨before, after, rfl, hx, hbefore⟩
    exact ⟨before, after, rfl, (h x (by simp)).mpr hx,
      fun y hy hP => hbefore y hy ((h y (by simp [hy])).mp hP)⟩

/-- The imports of the files, in the order in which they are written. -/
def importsOf (files : List FileDescriptor) : List (FileDescriptor × String) :=
  files.flatMap fun file => file.dependencies.map fun d => (file, d)

/-- A field of a file, with the full name of its message. -/
structure PlacedField where
  file : FileDescriptor
  place : String
  field : FieldDescriptor

/-- The fields of the files in the order in which they are written: those of a message
come before those of the messages nested in it. -/
def fieldsOf (files : List FileDescriptor) : List PlacedField :=
  files.flatMap fun file => (fileFields file).map fun p => ⟨file, p.1, p.2⟩

/-- The field names a type that it does not get. -/
def PlacedField.Dangles (files : List FileDescriptor) (p : PlacedField) : Prop :=
  p.field.typeName ≠ "" ∧ ¬StandsForType files p.place p.field.typeName

/-- The fault is what the request breaks its rule with first, whatever it makes of the
other rules. -/
inductive FirstBreach (q : GeneratorRequest) : ValidationError → Prop
  | nothingToGenerate : q.filesToGenerate = [] → FirstBreach q .nothingToGenerate
  | duplicateFile {before after : List FileDescriptor} {file : FileDescriptor} :
      q.files = before ++ file :: after → (before.map FileDescriptor.name).Nodup →
      file.name ∈ before.map FileDescriptor.name → FirstBreach q (.duplicateFile file.name)
  | missingFile {name : String} :
      FirstWith (fun name => ¬IsFileOf q name) q.filesToGenerate name →
      FirstBreach q (.missingFile name)
  | missingDependency {file : FileDescriptor} {d : String} :
      FirstWith (fun p => ¬IsFileOf q p.2) (importsOf q.files) (file, d) →
      FirstBreach q (.missingDependency file.name d)
  | unresolvedType {p : PlacedField} :
      FirstWith (PlacedField.Dangles q.files) (fieldsOf q.files) p →
      FirstBreach q (.unresolvedType p.file.name
        (withoutLeadingDots p.place ++ "." ++ p.field.name) p.field.typeName)
  | unlinked {cause : LinkError} : link q.files = .error cause → FirstBreach q (.unlinked cause)

/-- The rank of the rule that the fault is about; rules are checked in this order. -/
def ValidationError.rank : ValidationError → Nat
  | nothingToGenerate => 0
  | duplicateFile _ => 1
  | missingFile _ => 2
  | missingDependency _ _ => 3
  | unresolvedType _ _ _ => 4
  | unlinked _ => 5

theorem firstRepeated?_eq_some_iff (seen names : List String) (name : String) :
    firstRepeated? seen names = some name ↔
      ∃ before after, names = before ++ name :: after ∧ before.Nodup ∧
        (∀ other ∈ before, other ∉ seen) ∧ (name ∈ before ∨ name ∈ seen) := by
  induction names generalizing seen with
  | nil => simp [firstRepeated?]
  | cons first names ih =>
      rw [firstRepeated?]
      constructor
      · intro h
        split at h
        · rename_i hseen
          obtain rfl := Option.some.inj h
          exact ⟨[], names, by simp, by simp, by simp, .inr (by simpa using hseen)⟩
        · rename_i hseen
          obtain ⟨before, after, rfl, hnodup, hbefore, hname⟩ := (ih _).mp h
          have hfirst : first ∉ before := fun hmem => hbefore first hmem List.mem_cons_self
          refine ⟨first :: before, after, rfl, List.nodup_cons.mpr ⟨hfirst, hnodup⟩, ?_, ?_⟩
          · refine List.forall_mem_cons.mpr ⟨by simpa using hseen, fun other hother hmem => ?_⟩
            exact hbefore other hother (List.mem_cons_of_mem _ hmem)
          · rcases hname with hname | hname
            · exact .inl (List.mem_cons_of_mem _ hname)
            · rcases List.mem_cons.mp hname with rfl | hname
              · exact .inl List.mem_cons_self
              · exact .inr hname
      · rintro ⟨before, after, heq, hnodup, hbefore, hname⟩
        cases before with
        | nil =>
            obtain ⟨rfl, rfl⟩ := List.cons.inj heq
            have hseen : first ∈ seen := by simpa using hname
            rw [if_pos (by simpa using hseen)]
        | cons other before =>
            obtain ⟨rfl, rfl⟩ := List.cons.inj heq
            obtain ⟨hfirst, hnodup⟩ := List.nodup_cons.mp hnodup
            obtain ⟨hseen, hbefore⟩ := List.forall_mem_cons.mp hbefore
            rw [if_neg (by simpa using hseen), ih]
            refine ⟨before, after, rfl, hnodup, fun x hx hmem => ?_, ?_⟩
            · rcases List.mem_cons.mp hmem with rfl | hmem
              · exact hfirst hx
              · exact hbefore x hx hmem
            · rcases hname with hname | hname
              · rcases List.mem_cons.mp hname with rfl | hname
                · exact .inr List.mem_cons_self
                · exact .inl hname
              · exact .inr (List.mem_cons_of_mem _ hname)

/-- The first missing import is the first of all imports that is missing. -/
theorem missingImport?_eq_find? (names : List String) (files : List FileDescriptor) :
    missingImport? names files =
      ((importsOf files).find? fun p => !names.contains p.2).map fun p => (p.1.name, p.2) := by
  induction files with
  | nil => rfl
  | cons file files ih =>
      rw [missingImport?, importsOf, List.flatMap_cons, List.find?_append, ← importsOf,
        List.find?_map, ih]
      simp only [Function.comp_def]
      cases file.dependencies.find? fun d => !names.contains d with
      | none => simp
      | some d => simp

/-- What is reported of a field that dangles. -/
def PlacedField.fault (p : PlacedField) : ValidationError :=
  .unresolvedType p.file.name (withoutLeadingDots p.place ++ "." ++ p.field.name) p.field.typeName

/-- Whether the check of the types stops at the field. -/
def PlacedField.isUnresolved (types : List String) (p : PlacedField) : Bool :=
  !p.field.typeName.isEmpty && (resolveType? types p.place p.field.typeName).isNone

mutual

theorem fault?_checkMessageTypes (types : List String) (file : FileDescriptor) :
    ∀ (scope : String) (m : MessageDescriptor),
      Outcome.fault? (checkMessageTypes types file.name scope m) =
        (((messageFields scope m).map fun p => PlacedField.mk file p.1 p.2).find?
          (PlacedField.isUnresolved types)).map PlacedField.fault
  | scope, ⟨m, nested⟩ => by
      have ih := fault?_checkMessagesTypes types file (scope ++ "." ++ m.name) nested
      rw [messageFields, List.map_append, List.find?_append, Option.map_or, ← ih,
        checkMessageTypes, List.map_map, List.find?_map, unresolvedField?]
      simp only [Function.comp_def, PlacedField.isUnresolved]
      cases m.fields.find? fun f => !f.typeName.isEmpty &&
          (resolveType? types (scope ++ "." ++ m.name) f.typeName).isNone with
      | none => rfl
      | some f => rfl

theorem fault?_checkMessagesTypes (types : List String) (file : FileDescriptor) :
    ∀ (scope : String) (ms : List MessageDescriptor),
      Outcome.fault? (checkMessagesTypes types file.name scope ms) =
        (((messagesFields scope ms).map fun p => PlacedField.mk file p.1 p.2).find?
          (PlacedField.isUnresolved types)).map PlacedField.fault
  | scope, [] => rfl
  | scope, m :: ms => by
      have ihm := fault?_checkMessageTypes types file scope m
      have ihms := fault?_checkMessagesTypes types file scope ms
      rw [checkMessagesTypes, Outcome.fault?_then, ihm, ihms, messagesFields, List.map_append,
        List.find?_append, Option.map_or]

end

/-- The check of the types stops at the first of all fields that does not resolve. -/
theorem fault?_checkTypes (types : List String) (files : List FileDescriptor) :
    Outcome.fault? (checkTypes types files) =
      ((fieldsOf files).find? (PlacedField.isUnresolved types)).map PlacedField.fault := by
  induction files with
  | nil => rfl
  | cons file files ih =>
      have hfile : Outcome.fault? (checkFileTypes types file) =
          (((fileFields file).map fun p => PlacedField.mk file p.1 p.2).find?
            (PlacedField.isUnresolved types)).map PlacedField.fault :=
        fault?_checkMessagesTypes types file _ file.messages
      rw [checkTypes, Outcome.fault?_then, ih, hfile, fieldsOf, fieldsOf, List.flatMap_cons,
        List.find?_append, Option.map_or]

theorem isUnresolved_iff (files : List FileDescriptor) {p : PlacedField}
    (hp : p ∈ fieldsOf files) :
    p.isUnresolved (definedTypes files) = true ↔ p.Dangles files := by
  obtain ⟨file, -, hp⟩ := List.mem_flatMap.mp hp
  obtain ⟨entry, hentry, rfl⟩ := List.mem_map.mp hp
  rw [PlacedField.Dangles, ← resolveType?_isSome_iff files (isAbsolute_of_mem_fileFields hentry)]
  simp [PlacedField.isUnresolved]

/-- What the rule with the given rank reports if it is checked alone. -/
def verdict (q : GeneratorRequest) : Nat → Option ValidationError
  | 0 => if q.filesToGenerate.isEmpty then some .nothingToGenerate else none
  | 1 => (firstRepeated? [] (q.files.map FileDescriptor.name)).map .duplicateFile
  | 2 => (q.filesToGenerate.find? fun name =>
      !(q.files.map FileDescriptor.name).contains name).map .missingFile
  | 3 => (missingImport? (q.files.map FileDescriptor.name) q.files).map fun p =>
      .missingDependency p.1 p.2
  | 4 => Outcome.fault? (checkTypes (definedTypes q.files) q.files)
  | 5 => (Outcome.fault? (link q.files)).map .unlinked
  | _ => none

/-- The first rule that reports anything decides. -/
theorem fault?_validate (q : GeneratorRequest) :
    Outcome.fault? (validate q) = (List.range 6).findSome? (verdict q) := by
  have hrange : List.range 6 = [0, 1, 2, 3, 4, 5] := rfl
  simp only [hrange, validate, verdict, List.findSome?_cons]
  by_cases hempty : q.filesToGenerate.isEmpty
  · rw [if_pos hempty, if_pos hempty]
    rfl
  rw [if_neg hempty, if_neg hempty]
  cases firstRepeated? [] (q.files.map FileDescriptor.name) with
  | some name => rfl
  | none =>
      cases q.filesToGenerate.find? fun name =>
          !(q.files.map FileDescriptor.name).contains name with
      | some name => rfl
      | none =>
          cases missingImport? (q.files.map FileDescriptor.name) q.files with
          | some p => rfl
          | none =>
              cases checkTypes (definedTypes q.files) q.files with
              | error e => rfl
              | ok =>
                  cases link q.files with
                  | error e => rfl
                  | ok => rfl

theorem verdict_duplicateFile (q : GeneratorRequest) (name : String) :
    firstRepeated? [] (q.files.map FileDescriptor.name) = some name ↔
      FirstBreach q (.duplicateFile name) := by
  rw [firstRepeated?_eq_some_iff]
  constructor
  · rintro ⟨before, after, heq, hnodup, -, hname⟩
    obtain ⟨files, rest, hfiles, rfl, hrest⟩ := List.map_eq_append_iff.mp heq
    obtain ⟨file, others, rfl, rfl, -⟩ := List.map_eq_cons_iff.mp hrest
    exact .duplicateFile hfiles hnodup (by simpa using hname)
  · intro h
    cases h with
    | @duplicateFile before after file hfiles hnodup hname =>
        exact ⟨before.map FileDescriptor.name, after.map FileDescriptor.name, by simp [hfiles],
          hnodup, by simp, .inl hname⟩

theorem verdict_missingFile (q : GeneratorRequest) (name : String) :
    (q.filesToGenerate.find? fun name => !(q.files.map FileDescriptor.name).contains name) =
        some name ↔ FirstBreach q (.missingFile name) := by
  have hfirst : FirstWith (fun name => ¬IsFileOf q name) q.filesToGenerate name ↔
      FirstBreach q (.missingFile name) := by
    refine ⟨.missingFile, fun h => ?_⟩
    cases h with
    | missingFile h => exact h
  rw [find?_eq_some_iff_firstWith, ← hfirst]
  refine FirstWith.congr (fun x _ => ?_) name
  rw [isFileOf_iff]
  simp

theorem verdict_missingDependency (q : GeneratorRequest) (file d : String) :
    missingImport? (q.files.map FileDescriptor.name) q.files = some (file, d) ↔
      FirstBreach q (.missingDependency file d) := by
  have hmissing (p : FileDescriptor × String) (_ : p ∈ importsOf q.files) :
      (!(q.files.map FileDescriptor.name).contains p.2) = true ↔ ¬IsFileOf q p.2 := by
    rw [isFileOf_iff]
    simp
  rw [missingImport?_eq_find?, Option.map_eq_some_iff]
  constructor
  · rintro ⟨p, hp, heq⟩
    obtain ⟨rfl, rfl⟩ := Prod.mk.inj heq
    exact .missingDependency
      ((FirstWith.congr hmissing p).mp ((find?_eq_some_iff_firstWith _ _ _).mp hp))
  · intro h
    cases h with
    | @missingDependency file _ h =>
        exact ⟨(file, d), (find?_eq_some_iff_firstWith _ _ _).mpr
          ((FirstWith.congr hmissing _).mpr h), rfl⟩

theorem verdict_unresolvedType (q : GeneratorRequest) (e : ValidationError) :
    Outcome.fault? (checkTypes (definedTypes q.files) q.files) = some e ↔
      ∃ p, FirstWith (PlacedField.Dangles q.files) (fieldsOf q.files) p ∧ p.fault = e := by
  rw [fault?_checkTypes, Option.map_eq_some_iff]
  refine exists_congr fun p => and_congr_left fun _ => ?_
  rw [find?_eq_some_iff_firstWith]
  exact FirstWith.congr (fun x hx => isUnresolved_iff q.files hx) p

/-- Checked alone, a rule reports the first breach of it. -/
theorem verdict_eq_some_iff (q : GeneratorRequest) (k : Nat) (e : ValidationError) :
    verdict q k = some e ↔ FirstBreach q e ∧ e.rank = k := by
  constructor
  · intro h
    match k with
    | 0 =>
      obtain ⟨hempty, h⟩ := Option.ite_none_right_eq_some.mp h
      obtain rfl := Option.some.inj h
      exact ⟨.nothingToGenerate (by simpa using hempty), rfl⟩
    | 1 =>
      obtain ⟨name, hname, rfl⟩ := Option.map_eq_some_iff.mp h
      exact ⟨(verdict_duplicateFile q name).mp hname, rfl⟩
    | 2 =>
      obtain ⟨name, hname, rfl⟩ := Option.map_eq_some_iff.mp h
      exact ⟨(verdict_missingFile q name).mp hname, rfl⟩
    | 3 =>
      obtain ⟨p, hp, rfl⟩ := Option.map_eq_some_iff.mp h
      exact ⟨(verdict_missingDependency q p.1 p.2).mp hp, rfl⟩
    | 4 =>
      obtain ⟨p, hp, rfl⟩ := (verdict_unresolvedType q e).mp h
      exact ⟨.unresolvedType hp, rfl⟩
    | 5 =>
      obtain ⟨cause, hcause, rfl⟩ := Option.map_eq_some_iff.mp h
      exact ⟨.unlinked ((Outcome.fault?_eq_some_iff _ _).mp hcause), rfl⟩
    | k + 6 => simp [verdict] at h
  · rintro ⟨h, rfl⟩
    cases h with
    | nothingToGenerate hempty => exact if_pos (by simpa using hempty)
    | duplicateFile hfiles hnodup hname =>
        have hbreach := (verdict_duplicateFile q _).mpr (.duplicateFile hfiles hnodup hname)
        exact congrArg (Option.map _) hbreach
    | missingFile h =>
        exact congrArg (Option.map _) ((verdict_missingFile q _).mpr (.missingFile h))
    | missingDependency h =>
        exact congrArg (Option.map _) ((verdict_missingDependency q _ _).mpr (.missingDependency h))
    | unresolvedType h => exact (verdict_unresolvedType q _).mpr ⟨_, h, rfl⟩
    | unlinked h => exact congrArg (Option.map _) ((Outcome.fault?_eq_some_iff _ _).mpr h)

theorem findSome?_range_eq_some_iff {α : Type} (f : Nat → Option α) (n : Nat) (a : α) :
    (List.range n).findSome? f = some a ↔ ∃ k < n, f k = some a ∧ ∀ j < k, f j = none := by
  induction n with
  | zero => simp
  | succ n ih =>
      rw [List.range_succ, List.findSome?_append, Option.or_eq_some_iff, ih]
      constructor
      · rintro (⟨k, hk, ha, hbefore⟩ | ⟨hnone, ha⟩)
        · exact ⟨k, by omega, ha, hbefore⟩
        · refine ⟨n, by omega, by simpa using ha, fun j hj => ?_⟩
          exact List.findSome?_eq_none_iff.mp hnone j (List.mem_range.mpr hj)
      · rintro ⟨k, hk, ha, hbefore⟩
        rcases Nat.lt_succ_iff_lt_or_eq.mp hk with hk | rfl
        · exact .inl ⟨k, hk, ha, hbefore⟩
        · refine .inr ⟨List.findSome?_eq_none_iff.mpr fun j hj => ?_, by simpa using ha⟩
          exact hbefore j (List.mem_range.mp hj)

theorem ValidationError.rank_lt (e : ValidationError) : e.rank < 6 := by
  cases e <;> simp [rank]

theorem validate_eq_error_iff (q : GeneratorRequest) (e : ValidationError) :
    validate q = .error e ↔ FirstBreach q e ∧ ∀ e', FirstBreach q e' → e.rank ≤ e'.rank := by
  rw [← Outcome.fault?_eq_some_iff, fault?_validate, findSome?_range_eq_some_iff]
  constructor
  · rintro ⟨k, -, hk, hbefore⟩
    obtain ⟨hbreach, rfl⟩ := (verdict_eq_some_iff q k e).mp hk
    refine ⟨hbreach, fun e' he' => Nat.le_of_not_lt fun hlt => ?_⟩
    have hverdict := (verdict_eq_some_iff q e'.rank e').mpr ⟨he', rfl⟩
    rw [hbefore e'.rank hlt] at hverdict
    simp at hverdict
  · rintro ⟨hbreach, hfirst⟩
    refine ⟨e.rank, e.rank_lt, (verdict_eq_some_iff q _ e).mpr ⟨hbreach, rfl⟩, fun j hj => ?_⟩
    cases hverdict : verdict q j with
    | none => rfl
    | some e' =>
        obtain ⟨hbreach', rfl⟩ := (verdict_eq_some_iff q j e').mp hverdict
        exact absurd hj (Nat.not_lt.mpr (hfirst e' hbreach'))

/-- A request is accepted exactly if it is well-formed. Otherwise what is reported is the
first breach of the first rule that is broken. -/
theorem validate_reports_first_breach (q : GeneratorRequest) :
    (validate q = .ok () ↔ WellFormed q) ∧
      ∀ e, validate q = .error e ↔
        FirstBreach q e ∧ ∀ e', FirstBreach q e' → e.rank ≤ e'.rank :=
  ⟨validate_eq_ok_iff_wellFormed q, validate_eq_error_iff q⟩

end Request

end Protogen
