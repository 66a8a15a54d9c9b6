import Mathlib.Algebra.Order.BigOperators.Group.List
import Mathlib.Algebra.Order.Group.Nat
import Protogen.Proofs.Overrides.Applied
import Protogen.Proofs.Request.References
import Protogen.WellKnown

/-!
# References under a new name

A file is self-contained if everything that it refers to is in the request made
for it. The overrides change the full names of all types of a file, but no type
name that a field gives. A reference is `Anchored` if it resolves no matter what
the package and the message are called; only a file of anchored references stays
self-contained under all overrides.
-/

namespace Protogen

open Descriptor Request Name

namespace WellKnown

/-- The full names of the types that every request brings along. -/
def bundledTypes : List String := definedTypes [duration, timestamp, sharedTypes]

/-- Every reference of the request made for a file resolves. -/
def SelfContained (file : FileDescriptor) : Prop :=
  checkTypes (definedTypes (assemble file)) (assemble file) = .ok ()

theorem definedTypes_assemble (file : FileDescriptor) :
    definedTypes (assemble file) = bundledTypes ++ definedByFile file := by
  simp [definedTypes, bundledTypes, assemble]

theorem bundled_without_references :
    ∀ file ∈ [duration, timestamp, sharedTypes], ∀ p ∈ fileFields file, p.2.typeName = "" := by
  decide +kernel

theorem length_bundledTypes : ∀ t ∈ bundledTypes, t.length < 40 := by
  decide +kernel

theorem selfContained_iff (file : FileDescriptor) :
    SelfContained file ↔
      ∀ p ∈ fileFields file, Resolves (definedTypes (assemble file)) p.1 p.2 := by
  rw [SelfContained, checkTypes_eq_ok_iff]
  constructor
  · intro h
    exact h file (by simp [assemble])
  · intro h other hother p hp
    have hcases : other ∈ [duration, timestamp, sharedTypes] ∨ other = file := by
      simpa [assemble, or_assoc] using hother
    rcases hcases with hbundled | rfl
    · exact .inl (bundled_without_references other hbundled p hp)
    · exact h p hp

/-- A request for a self-contained file is never refused for a type. -/
theorem SelfContained.validate_ne {file : FileDescriptor} (h : SelfContained file)
    {q : GeneratorRequest} (hq : q.files = assemble file) (file' field name : String) :
    validate q ≠ .error (.unresolvedType file' field name) := by
  intro hvalidate
  rw [SelfContained] at h
  rw [validate, hq, h] at hvalidate
  generalize Link.link (assemble file) = linked at hvalidate
  split at hvalidate
  · simp at hvalidate
  · split at hvalidate
    · simp at hvalidate
    · split at hvalidate
      · simp at hvalidate
      · split at hvalidate
        · simp at hvalidate
        · cases linked with
          | ok => simp [bind, Except.bind, Except.mapError] at hvalidate
          | error cause => simp [bind, Except.bind, Except.mapError] at hvalidate

end WellKnown

namespace Overrides

open WellKnown

/-- The full name of the message once the overrides are on. -/
def fullNameOn (o : Overrides) (file : FileDescriptor) (m : MessageDescriptor) : String :=
  packageScope (o.packageOn file) ++ "." ++ o.nameOn m

/-- A reference that resolves no matter what the package and the message are
called: what it names is bundled, or nested in the message as seen from within, or
an enum of the file. -/
inductive Anchored (file : FileDescriptor) (m : MessageDescriptor) (place : String)
    (f : FieldDescriptor) : Prop
  | noReference : f.typeName = "" → Anchored file m place f
  | bundled : IsAbsolute f.typeName → f.typeName ∈ bundledTypes → Anchored file m place f
  | bundledRelative : ¬IsAbsolute f.typeName → "." ++ f.typeName ∈ bundledTypes →
      Anchored file m place f
  | nested (s : String) : ¬IsAbsolute f.typeName → s ∈ innerScopes place →
      s ++ "." ++ f.typeName ∈ nestedTypes m → Anchored file m place f
  | enum (e : EnumDescriptor) : ¬IsAbsolute f.typeName → e ∈ file.enums →
      e.name = f.typeName → Anchored file m place f

theorem ownFields_onMessage (o : Overrides) (m : MessageDescriptor) :
    ownFields (o.onMessage m) = ownFields m := by
  simp [ownFields]

theorem nestedTypes_onMessage (o : Overrides) (m : MessageDescriptor) :
    nestedTypes (o.onMessage m) = nestedTypes m := by
  simp [nestedTypes]

theorem fileFields_applied (o : Overrides) (file : FileDescriptor) (m : MessageDescriptor) :
    fileFields (o.applied file m) =
      (ownFields m).map fun p => (o.fullNameOn file m ++ p.1, p.2) := by
  rw [fileFields, messages_applied, package_applied, messagesFields, messagesFields,
    List.append_nil, messageFields_eq, ownFields_onMessage, name_onMessage, fullNameOn]

theorem mem_definedTypes_applied (o : Overrides) (file : FileDescriptor)
    (m : MessageDescriptor) (t : String) :
    t ∈ definedTypes (assemble (o.applied file m)) ↔
      t ∈ bundledTypes ∨ (∃ x ∈ nestedTypes m, t = o.fullNameOn file m ++ x) ∨
        t = o.fullNameOn file m ∨
        ∃ e ∈ file.enums, t = packageScope (o.packageOn file) ++ "." ++ e.name := by
  have hfile : definedByFile (o.applied file m) =
      (nestedTypes m).map (o.fullNameOn file m ++ ·) ++ [o.fullNameOn file m] ++
        file.enums.map fun e => packageScope (o.packageOn file) ++ "." ++ e.name := by
    rw [definedByFile, messages_applied, package_applied, enums_applied, definedByMessages,
      definedByMessages, List.append_nil, definedByMessage_eq, nestedTypes_onMessage,
      name_onMessage, fullNameOn]
  rw [definedTypes_assemble, hfile]
  simp only [List.mem_append, List.mem_map, List.mem_singleton, eq_comm (a := t), or_assoc]

theorem selfContained_applied_iff (o : Overrides) (file : FileDescriptor)
    (m : MessageDescriptor) :
    SelfContained (o.applied file m) ↔ ∀ p ∈ ownFields m,
      Resolves (definedTypes (assemble (o.applied file m))) (o.fullNameOn file m ++ p.1) p.2 := by
  rw [selfContained_iff, fileFields_applied, List.forall_mem_map]

/-- An anchored reference resolves under all overrides. -/
theorem Anchored.resolves {file : FileDescriptor} {m : MessageDescriptor} {place : String}
    {f : FieldDescriptor} (h : Anchored file m place f) (o : Overrides) :
    Resolves (definedTypes (assemble (o.applied file m))) (o.fullNameOn file m ++ place) f := by
  cases h with
  | noReference hnone => exact .inl hnone
  | bundled habs hmem =>
      right
      rw [resolveType?_isSome_of_absolute _ _ habs, mem_definedTypes_applied]
      exact .inl hmem
  | bundledRelative hrel hmem =>
      right
      rw [resolveType?_isSome_of_relative _ _ hrel]
      refine ⟨"", empty_mem_outerScopes _, ?_⟩
      rw [mem_definedTypes_applied]
      exact .inl (by simpa using hmem)
  | nested s hrel hs hmem =>
      right
      rw [resolveType?_isSome_of_relative _ _ hrel]
      refine ⟨o.fullNameOn file m ++ s, innerScopes_subset _ _ _ _ hs, ?_⟩
      rw [mem_definedTypes_applied]
      exact .inr (.inl ⟨_, hmem, by simp only [String.append_assoc]⟩)
  | enum e hrel he hname =>
      right
      rw [resolveType?_isSome_of_relative _ _ hrel]
      refine ⟨packageScope (o.packageOn file), scope_mem_outerScopes _ _ _, ?_⟩
      rw [mem_definedTypes_applied, ← hname]
      exact .inr (.inr (.inr ⟨e, he, rfl⟩))

/-- A row of `n + 1` letters. -/
def letters (n : Nat) : String := String.ofList (List.replicate (n + 1) 'x')

@[simp] theorem length_letters (n : Nat) : (letters n).length = n + 1 := by simp [letters]

theorem beforeDots_letters (n : Nat) : beforeDots (letters n).toList.reverse = [] :=
  beforeDots_of_dotless _ (by simp [letters])

/-- Overrides that put a row of letters in the place of both names. -/
def lengthy (n : Nat) : Overrides := ⟨some (letters n), some (letters n)⟩

theorem packageScope_lengthy (n : Nat) (file : FileDescriptor) :
    packageScope ((lengthy n).packageOn file) = "." ++ letters n := by
  have hne : ¬(letters n).isEmpty := by simp [letters, List.replicate_succ]
  exact if_neg hne

theorem fullNameOn_lengthy (n : Nat) (file : FileDescriptor) (m : MessageDescriptor) :
    (lengthy n).fullNameOn file m = "." ++ letters n ++ "." ++ letters n := by
  rw [fullNameOn, packageScope_lengthy]
  rfl

/-- Under lengthy names a scope around a place lies in the message, or is that of
the package, or is empty. -/
theorem outerScopes_lengthy (n : Nat) (place s : String)
    (hs : s ∈ outerScopes ("." ++ letters n ++ "." ++ letters n ++ place)) :
    (∃ inner ∈ innerScopes place, s = "." ++ letters n ++ "." ++ letters n ++ inner) ∨
      s = "." ++ letters n ∨ s = "" := by
  have hpackage : outerScopes ("." ++ letters n) = ["." ++ letters n, "", ""] := by
    have hdot : ".".toList = ['.'] := rfl
    simp [outerScopes, beforeDots_append, beforeDots_letters, hdot, beforeDots]
  rw [outerScopes_inside, hpackage, beforeDots_letters] at hs
  simp only [List.map_nil, List.nil_append, List.mem_append, List.mem_map, List.mem_cons,
    List.not_mem_nil, or_false, or_self] at hs
  rcases hs with ⟨inner, hinner, rfl⟩ | hs
  · exact .inl ⟨inner, hinner, rfl⟩
  · exact .inr hs

/-- A name that is short beside lengthy names is none of the types of the file. -/
theorem bundled_of_short (n : Nat) {file : FileDescriptor} {m : MessageDescriptor} {t : String}
    (ht : t ∈ definedTypes (assemble ((lengthy n).applied file m)))
    (hshort : t.length ≤ n + 2) : t ∈ bundledTypes := by
  have hdot : ".".length = 1 := rfl
  rw [mem_definedTypes_applied, fullNameOn_lengthy, packageScope_lengthy] at ht
  rcases ht with hbundled | ⟨x, -, rfl⟩ | rfl | ⟨e, -, rfl⟩
  · exact hbundled
  all_goals
    simp only [String.length_append, length_letters] at hshort
    omega

/-- Under names that are long enough, what is named inside the message is nested in it. -/
theorem mem_nestedTypes_of_lengthy (n : Nat) {file : FileDescriptor} {m : MessageDescriptor}
    {x : String} (hbundled : ∀ t ∈ bundledTypes, t.length < n)
    (henums : ∀ e ∈ file.enums, e.name.length < n) (hx : x.length ≠ 0)
    (h : (lengthy n).fullNameOn file m ++ x ∈
      definedTypes (assemble ((lengthy n).applied file m))) : x ∈ nestedTypes m := by
  have hdot : ".".length = 1 := rfl
  have hfull : ((lengthy n).fullNameOn file m).length = 2 * n + 4 := by
    simp only [fullNameOn_lengthy, String.length_append, length_letters, hdot]
    omega
  rcases (mem_definedTypes_applied _ _ _ _).mp h with hmem | ⟨y, hy, heq⟩ | heq | ⟨e, he, heq⟩
  · have hlength := hbundled _ hmem
    rw [String.length_append] at hlength
    omega
  · rw [String.append_right_inj] at heq
    rwa [heq]
  · have hlength := congrArg String.length heq
    rw [String.length_append] at hlength
    omega
  · have hlength := congrArg String.length heq
    have hshort := henums e he
    simp only [packageScope_lengthy, String.length_append, length_letters, hdot] at hlength
    omega

/-- Under such names, what is short and named in the package is an enum. -/
theorem exists_enum_of_lengthy (n : Nat) {file : FileDescriptor} {m : MessageDescriptor}
    {name : String} (hbundled : ∀ t ∈ bundledTypes, t.length < n) (hname : name.length < n)
    (h : packageScope ((lengthy n).packageOn file) ++ "." ++ name ∈
      definedTypes (assemble ((lengthy n).applied file m))) : ∃ e ∈ file.enums, e.name = name := by
  have hdot : ".".length = 1 := rfl
  rcases (mem_definedTypes_applied _ _ _ _).mp h with hmem | ⟨y, -, heq⟩ | heq | ⟨e, he, heq⟩
  · have hlength := hbundled _ hmem
    simp only [packageScope_lengthy, String.length_append, length_letters] at hlength
    omega
  · have hlength := congrArg String.length heq
    simp only [packageScope_lengthy, fullNameOn_lengthy, String.length_append, length_letters]
      at hlength
    omega
  · have hlength := congrArg String.length heq
    simp only [packageScope_lengthy, fullNameOn_lengthy, String.length_append, length_letters]
      at hlength
    omega
  · exact ⟨e, he, (String.append_right_inj _).mp heq.symm⟩

/-- What resolves under names that are long enough is anchored. -/
theorem anchored_of_resolves_lengthy (n : Nat) {file : FileDescriptor} {m : MessageDescriptor}
    {place : String} {f : FieldDescriptor} (hbundled : ∀ t ∈ bundledTypes, t.length < n)
    (henums : ∀ e ∈ file.enums, e.name.length < n) (hname : f.typeName.length < n)
    (h : Resolves (definedTypes (assemble ((lengthy n).applied file m)))
      ((lengthy n).fullNameOn file m ++ place) f) : Anchored file m place f := by
  have hdot : ".".length = 1 := rfl
  rcases h with hnone | hsome
  · exact .noReference hnone
  by_cases habs : IsAbsolute f.typeName
  · rw [resolveType?_isSome_of_absolute _ _ habs] at hsome
    exact .bundled habs (bundled_of_short n hsome (by omega))
  rw [resolveType?_isSome_of_relative _ _ habs, fullNameOn_lengthy] at hsome
  obtain ⟨s, hs, hmem⟩ := hsome
  rcases outerScopes_lengthy n place s hs with ⟨inner, hinner, rfl⟩ | rfl | rfl
  -- Looked up in the message, the name can only be that of something nested.
  · have hinside : (lengthy n).fullNameOn file m ++ (inner ++ "." ++ f.typeName) =
        "." ++ letters n ++ "." ++ letters n ++ inner ++ "." ++ f.typeName := by
      simp only [fullNameOn_lengthy, String.append_assoc]
    rw [← hinside] at hmem
    refine .nested inner habs hinner (mem_nestedTypes_of_lengthy n hbundled henums ?_ hmem)
    simp only [String.length_append]
    omega
  -- In the package it can only be that of an enum.
  · rw [← packageScope_lengthy n file] at hmem
    obtain ⟨e, he, heq⟩ := exists_enum_of_lengthy n hbundled hname hmem
    exact .enum e habs he heq
  -- Outside of everything it is short.
  · have hbare : "." ++ f.typeName ∈ bundledTypes := by
      have hshort := bundled_of_short n hmem (by simp only [String.length_append]; simp; omega)
      simpa using hshort
    exact .bundledRelative habs hbare

/-- A file stays self-contained under all overrides exactly if all of its references
are anchored, and no request for it is then refused for a type. Under given overrides
a reference that is not anchored has to resolve from where the new names put it. -/
theorem selfContained_under_overrides_iff (file : FileDescriptor) (m : MessageDescriptor)
    (hm : file.messages = [m]) :
    (∀ (o : Overrides) (rewritten : FileDescriptor), o.apply file = .ok rewritten →
      (SelfContained rewritten ↔ ∀ p ∈ ownFields m, Anchored file m p.1 p.2 ∨
        Resolves (definedTypes (assemble rewritten)) (o.fullNameOn file m ++ p.1) p.2)) ∧
    ((∀ (o : Overrides) (rewritten : FileDescriptor), o.apply file = .ok rewritten →
      SelfContained rewritten) ↔ ∀ p ∈ ownFields m, Anchored file m p.1 p.2) ∧
    ((∀ p ∈ ownFields m, Anchored file m p.1 p.2) →
      ∀ (o : Overrides) (rewritten : FileDescriptor), o.apply file = .ok rewritten →
      ∀ q : GeneratorRequest, q.files = assemble rewritten →
      ∀ file' field name, validate q ≠ .error (.unresolvedType file' field name)) := by
  have hanchored (h : ∀ p ∈ ownFields m, Anchored file m p.1 p.2) (o : Overrides)
      (rewritten : FileDescriptor) (ho : o.apply file = .ok rewritten) :
      SelfContained rewritten := by
    obtain ⟨_, hm', -, rfl⟩ := (o.apply_eq_ok_iff file rewritten).mp ho
    obtain rfl := List.singleton_injective (hm.symm.trans hm')
    rw [selfContained_applied_iff]
    exact fun p hp => (h p hp).resolves o
  refine ⟨?_, ⟨?_, hanchored⟩, ?_⟩
  · intro o rewritten ho
    obtain ⟨_, hm', -, rfl⟩ := (o.apply_eq_ok_iff file rewritten).mp ho
    obtain rfl := List.singleton_injective (hm.symm.trans hm')
    rw [selfContained_applied_iff]
    constructor
    · exact fun h p hp => .inr (h p hp)
    · intro h p hp
      rcases h p hp with hp | hp
      · exact hp.resolves o
      · exact hp
  · intro h p hp
    have henums : ∀ e ∈ file.enums,
        e.name.length ≤ (file.enums.map fun e => e.name.length).sum :=
      fun e he => List.le_sum_of_mem (List.mem_map_of_mem he)
    -- Names longer than everything that could be meant make a coincidence impossible.
    let n := 40 + p.2.typeName.length + (file.enums.map fun e => e.name.length).sum + 1
    have hname : (lengthy n).nameOn m ≠ "" := by
      intro hempty
      have hlength := congrArg String.length hempty
      simp [lengthy, nameOn] at hlength
    have hfresh := h (lengthy n) _ (apply_of_messages _ hm hname)
    rw [selfContained_applied_iff] at hfresh
    refine anchored_of_resolves_lengthy n ?_ ?_ ?_ (hfresh p hp)
    · intro t ht
      have hlength := length_bundledTypes t ht
      omega
    · intro e he
      have hlength := henums e he
      omega
    · omega
  · intro h o rewritten ho q hq file' field name
    exact (hanchored h o rewritten ho).validate_ne hq file' field name

/-- The message nested in a track stays in reach whatever the track is called. -/
theorem track_of_points_selfContained :
    ∃ m, (trackFile "Point").messages = [m] ∧
      ∀ (o : Overrides) (rewritten : FileDescriptor),
        o.apply (trackFile "Point") = .ok rewritten → SelfContained rewritten := by
  refine ⟨_, rfl, (selfContained_under_overrides_iff (trackFile "Point") _ rfl).2.1.mpr ?_⟩
  intro p hp
  obtain rfl := List.mem_singleton.mp hp
  exact .nested "" (by decide) (by decide) (by decide)

/-- A track that refers to itself is self-contained, but with another package it is
refused: the reference keeps the old one. -/
theorem track_of_tracks_unresolved :
    ∃ (o : Overrides) (rewritten : FileDescriptor),
      SelfContained (trackFile ".tracks.Track") ∧
      o.apply (trackFile ".tracks.Track") = .ok rewritten ∧ ¬SelfContained rewritten ∧
      validate ⟨[rewritten.name], none, assemble rewritten, none⟩ =
        .error (.unresolvedType "acme/Track.proto" "acme.Track.previous" ".tracks.Track") := by
  let file := trackFile ".tracks.Track"
  have hcheck : checkTypes (definedTypes (assemble file)) (assemble file) = .ok () := by
    decide +kernel
  let o : Overrides := ⟨some "acme", none⟩
  let rewritten := o.applied file (file.messages.headD ⟨MessageBody.blank, []⟩)
  have happly : o.apply file = .ok rewritten := apply_of_messages o rfl (by decide)
  have hrefused : validate ⟨[rewritten.name], none, assemble rewritten, none⟩ =
      .error (.unresolvedType "acme/Track.proto" "acme.Track.previous" ".tracks.Track") := by
    decide +kernel
  refine ⟨o, rewritten, hcheck, happly, ?_, hrefused⟩
  intro h
  exact h.validate_ne rfl _ _ _ hrefused

end Overrides

end Protogen
