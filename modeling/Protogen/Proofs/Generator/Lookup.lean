import Protogen.Generator.Backend
import Protogen.Proofs.Generator.Index
import Protogen.Proofs.Request.Linked

/-!
# Finding what a request defines

The check of a request resolves the type name of a field from where the field
stands; the generator looks the name up as it is. Both mean the same type exactly
if the name is absolute and the entry found under it comes from a plain package.
If they always do, no generated file lacks a type.
-/

namespace Protogen

namespace Generator

open Descriptor Request

/-- The index finds, under the name that the field gives, the defined type `t`. -/
def Finds (types : TypeIndex) (f : FieldDescriptor) (t : String) : Prop :=
  ∃ info, types.find? f.typeName = some info ∧ info.definedName = t

/-- A field whose type the generator looks up. -/
def HasNamedType (f : FieldDescriptor) : Prop := f.type = .message ∨ f.type = .enum

theorem name_of_mem_ofFiles (files : List FileDescriptor) (name : String) (info : TypeInfo)
    (h : (name, info) ∈ TypeIndex.ofFiles files) :
    name = fullName info.package info.path ∧ IsAbsolute name ∧
      ∃ file ∈ files, info.package = file.package := by
  obtain ⟨file, hfile, ht⟩ := (TypeIndex.mem_ofFiles_iff files _).mp h
  obtain ⟨path, kind, mapFields?, hne, heq⟩ := indexed_of_mem file _ ht
  obtain ⟨rfl, rfl⟩ := Prod.mk.inj heq
  exact ⟨rfl, isAbsolute_fullName _ _ hne, file, hfile, rfl⟩

/-- What a name resolves to is found under it exactly if the name is absolute and
what is found comes from a plain package. -/
theorem finds_iff (files : List FileDescriptor) (scope t : String) (f : FieldDescriptor)
    (h : resolveType? (definedTypes files) scope f.typeName = some t) :
    Finds (TypeIndex.ofFiles files) f t ↔
      IsAbsolute f.typeName ∧ ∃ info,
        (TypeIndex.ofFiles files).find? f.typeName = some info ∧ IsPlainPackage info.package := by
  have hself (habs : IsAbsolute f.typeName) : t = f.typeName := by
    rw [resolveType?_of_absolute _ _ habs] at h
    split at h
    · exact (Option.some.inj h).symm
    · simp at h
  constructor
  · rintro ⟨info, hfind, hname⟩
    obtain ⟨hkey, habs, -⟩ := name_of_mem_ofFiles files _ _ (TypeIndex.mem_of_find? _ _ _ hfind)
    refine ⟨habs, info, hfind, ?_⟩
    rw [← definedName_eq_iff, hname, hself habs, hkey]
  · rintro ⟨habs, info, hfind, hplain⟩
    obtain ⟨hkey, -, -⟩ := name_of_mem_ofFiles files _ _ (TypeIndex.mem_of_find? _ _ _ hfind)
    refine ⟨info, hfind, ?_⟩
    rw [(definedName_eq_iff info).mpr hplain, hself habs, hkey]

/-- If all packages are plain, being absolute is all that a name needs. -/
theorem finds_iff_of_plain (files : List FileDescriptor) (scope t : String)
    (f : FieldDescriptor) (h : resolveType? (definedTypes files) scope f.typeName = some t)
    (hplain : ∀ file ∈ files, IsPlainPackage file.package) :
    Finds (TypeIndex.ofFiles files) f t ↔ IsAbsolute f.typeName := by
  rw [finds_iff files scope t f h]
  refine ⟨And.left, fun habs => ⟨habs, ?_⟩⟩
  have hdefined : f.typeName ∈ definedTypes files := by
    rw [← resolveType?_isSome_of_absolute _ scope habs, h]
    rfl
  rw [definedTypes_eq_index] at hdefined
  obtain ⟨⟨key, info⟩, hmem, hname⟩ := List.mem_map.mp hdefined
  obtain ⟨hkey, -, file, hfile, hpackage⟩ := name_of_mem_ofFiles files key info hmem
  have hinfo : IsPlainPackage info.package := hpackage ▸ hplain file hfile
  rw [← hname, (definedName_eq_iff info).mpr hinfo, ← hkey]
  obtain ⟨found, hfound⟩ := TypeIndex.exists_find?_of_mem _ _ _ hmem
  obtain ⟨-, -, other, hother, hsame⟩ :=
    name_of_mem_ofFiles files _ _ (TypeIndex.mem_of_find? _ _ _ hfound)
  exact ⟨found, hfound, hsame ▸ hplain other hother⟩

/-- The outcome is not that a type is unknown. -/
def Informed {α : Type} (r : Generated α) : Prop := ∀ name, r ≠ .error (.unknownType name)

section Informed

variable {α β : Type}

theorem informed_ok (a : α) : Informed (.ok a : Generated α) := by
  intro name h
  simp at h

theorem Informed.bind {x : Generated α} {f : α → Generated β} (hx : Informed x)
    (hf : ∀ a, Informed (f a)) : Informed (x >>= f) := by
  cases x with
  | ok a => exact hf a
  | error e => exact fun name h => hx name (by rw [Except.error.inj h])

theorem Informed.mapM {f : α → Generated β} {xs : List α} (h : ∀ x ∈ xs, Informed (f x)) :
    Informed (xs.mapM f) := by
  induction xs with
  | nil => exact informed_ok []
  | cons x xs ih =>
      rw [List.mapM_cons]
      refine (h x (by simp)).bind fun y => ?_
      refine (ih fun z hz => h z (List.mem_cons_of_mem _ hz)).bind fun ys => ?_
      exact informed_ok _

theorem informed_named (x : Except Name.NameError α) : Informed (named x) := by
  intro name h
  obtain ⟨cause, -, hcause⟩ := (Outcome.mapError_eq_error_iff _ _ _).mp h
  simp at hcause

end Informed

/-- The index has an entry for every name that a field of the request gives. -/
structure Complete (types : TypeIndex) (files : List FileDescriptor) : Prop where
  known : ∀ file ∈ files, ∀ p ∈ fileFields file, HasNamedType p.2 →
    ∃ info, types.find? p.2.typeName = some info
  values : ∀ name info, types.find? name = some info → ∀ key value,
    info.mapFields? = some (key, value) → HasNamedType value →
      ∃ found, types.find? value.typeName = some found

namespace Context

variable {ctx : Context}

theorem informed_reference {typeName : String} (depth : Nat)
    (h : ∃ info, ctx.types.find? typeName = some info) :
    Informed (ctx.reference typeName depth) := by
  obtain ⟨info, hinfo⟩ := h
  intro name hname
  rw [reference, TypeIndex.get, hinfo] at hname
  simp only [bind, Except.bind] at hname
  split at hname
  · simp at hname
  · split at hname <;> simp at hname

theorem informed_messageElement {typeName : String} (depth : Nat)
    (h : ∃ info, ctx.types.find? typeName = some info) :
    Informed (ctx.messageElement typeName depth) := by
  refine (informed_reference depth h).bind fun _ => ?_
  intro name hname
  split at hname <;> simp at hname

theorem informed_enumElement {typeName : String} (depth : Nat)
    (h : ∃ info, ctx.types.find? typeName = some info) :
    Informed (ctx.enumElement typeName depth) :=
  (informed_reference depth h).bind fun _ => informed_ok _

theorem informed_expectKind {f : FieldDescriptor} (kind : TypeKind) (declared : String)
    (h : ∃ info, ctx.types.find? f.typeName = some info) :
    Informed (ctx.expectKind f kind declared) := by
  obtain ⟨info, hinfo⟩ := h
  intro name hname
  rw [expectKind, TypeIndex.get, hinfo] at hname
  simp only [bind, Except.bind] at hname
  split at hname <;> simp at hname

theorem informed_element {f : FieldDescriptor} (depth : Nat)
    (h : HasNamedType f → ∃ info, ctx.types.find? f.typeName = some info) :
    Informed (ctx.element f depth) := by
  rw [element]
  cases htype : f.type with
  | message =>
      have hknown := h (.inl htype)
      exact (informed_expectKind _ _ hknown).bind fun _ => informed_messageElement _ hknown
  | enum =>
      have hknown := h (.inr htype)
      exact (informed_expectKind _ _ hknown).bind fun _ => informed_enumElement _ hknown
  | group =>
      intro name hname
      simp at hname
  | scalar type => exact informed_ok _

theorem informed_mapValue {f value : FieldDescriptor} (depth : Nat)
    (h : HasNamedType value → ∃ info, ctx.types.find? value.typeName = some info) :
    Informed (ctx.mapValue f value depth) := by
  rw [mapValue]
  cases htype : value.type with
  | message => exact informed_messageElement _ (h (.inl htype))
  | enum => exact informed_enumElement _ (h (.inr htype))
  | group =>
      intro name hname
      simp at hname
  | scalar type => exact informed_ok _

theorem informed_mapKey (f key : FieldDescriptor) : Informed (mapKey f key) := by
  intro name hname
  rw [mapKey] at hname
  split at hname
  · split at hname <;> simp at hname
  all_goals simp at hname

/-- A member needs the type of its field and, if it is a map, that of the value. -/
theorem informed_member {files : List FileDescriptor} (hctx : Complete ctx.types files)
    (place : String) {f : FieldDescriptor} (depth : Nat)
    (h : HasNamedType f → ∃ info, ctx.types.find? f.typeName = some info) :
    Informed (ctx.member place f depth) := by
  rw [member]
  refine (informed_named _).bind fun _ => (informed_named _).bind fun name => ?_
  cases hmap : ctx.mapFields? f with
  | none => exact (informed_element depth h).bind fun element => informed_ok _
  | some fields =>
      obtain ⟨key, value⟩ := fields
      have hvalue : HasNamedType value → ∃ info, ctx.types.find? value.typeName = some info := by
        rw [mapFields?] at hmap
        split at hmap
        · obtain ⟨info, hinfo, hfields⟩ := Option.bind_eq_some_iff.mp hmap
          exact hctx.values _ info hinfo key value hfields
        · simp at hmap
      refine (informed_mapKey f key).bind fun _ => ?_
      exact (informed_mapValue depth hvalue).bind fun _ => informed_ok _

theorem informed_variant (place : String) (depth : Nat) {f : FieldDescriptor}
    (h : HasNamedType f → ∃ info, ctx.types.find? f.typeName = some info) :
    Informed (ctx.variant place depth f) := by
  rw [variant]
  refine (informed_named _).bind fun _ => (informed_named _).bind fun name => ?_
  exact (informed_element (depth + 1) h).bind fun element => informed_ok _

theorem informed_enumItem (place : String) (e : EnumDescriptor) :
    Informed (ctx.enumItem place e) := by
  rw [enumItem]
  refine (informed_named _).bind fun _ => (informed_named _).bind fun name => ?_
  refine Informed.bind (Informed.mapM fun value _ => ?_) fun variants => ?_
  · rw [enumVariant]
    refine (informed_named _).bind fun _ => Informed.bind ?_ fun _ => informed_ok _
    intro name h
    obtain ⟨cause, -, hcause⟩ := (Outcome.mapError_eq_error_iff _ _ _).mp h
    simp at hcause
  · intro name h
    split at h <;> simp at h

theorem informed_oneofsParts (m : MessageBody) (place : String) (depth : Nat)
    (h : ∀ f ∈ m.fields, HasNamedType f → ∃ info, ctx.types.find? f.typeName = some info)
    (index : Nat) (os : List OneofDescriptor) :
    Informed (ctx.oneofsParts m place depth index os) := by
  induction os generalizing index with
  | nil => exact informed_ok _
  | cons o os ih =>
      rw [oneofsParts]
      split
      · exact ih (index + 1)
      · have hfirst : Informed (ctx.oneofParts m place depth o.name (oneofMembers m index)) := by
          rw [oneofParts]
          refine (informed_named _).bind fun _ => (informed_named _).bind fun _ => ?_
          refine (informed_named _).bind fun _ => (informed_named _).bind fun _ => ?_
          refine Informed.bind (Informed.mapM fun f hf => ?_) fun _ => informed_ok _
          exact informed_variant place depth (h f (List.mem_of_mem_filter hf))
        exact hfirst.bind fun _ => (ih (index + 1)).bind fun _ => informed_ok _

theorem informed_nestedModule (m : MessageBody) (items : List Source.Item) :
    Informed (nestedModule m items) := by
  rw [nestedModule]
  split
  · exact informed_ok _
  · exact (informed_named _).bind fun _ => informed_ok _

theorem informed_structName (m : MessageBody) : Informed (structName m) := by
  rw [structName]
  refine (informed_named _).bind fun _ => ?_
  split
  · intro name h
    simp at h
  · exact informed_named _

mutual

theorem informed_messageItems {files : List FileDescriptor} (hctx : Complete ctx.types files)
    (scope : String) : ∀ (place : String) (depth : Nat) (m : MessageDescriptor),
    (∀ p ∈ messageFields scope m, HasNamedType p.2 →
      ∃ info, ctx.types.find? p.2.typeName = some info) →
    Informed (ctx.messageItems place depth m)
  | place, depth, ⟨m, nested⟩ => by
      intro h
      rw [messageFields, List.forall_mem_append, List.forall_mem_map] at h
      have hmembers (f : FieldDescriptor) (hf : f ∈ m.fields.filter fun f => !f.isOneofMember) :
          Informed (ctx.member place f depth) :=
        informed_member hctx place depth (h.1 f (List.mem_of_mem_filter hf))
      have hnested := informed_nestedItems hctx _ place (depth + 1) nested h.2
      rw [messageItems]
      refine (informed_structName m).bind fun _ => (Informed.mapM hmembers).bind fun _ => ?_
      refine (informed_oneofsParts m place depth h.1 0 m.oneofs).bind fun _ => ?_
      refine hnested.bind fun _ => ?_
      refine Informed.bind (Informed.mapM fun e _ => informed_enumItem _ e) fun _ => ?_
      exact (informed_nestedModule _ _).bind fun _ => informed_ok _

theorem informed_nestedItems {files : List FileDescriptor} (hctx : Complete ctx.types files)
    (scope : String) : ∀ (place : String) (depth : Nat) (ms : List MessageDescriptor),
    (∀ p ∈ messagesFields scope ms, HasNamedType p.2 →
      ∃ info, ctx.types.find? p.2.typeName = some info) →
    Informed (ctx.nestedItems place depth ms)
  | place, depth, [] => fun _ => informed_ok _
  | place, depth, m :: ms => by
      intro h
      rw [messagesFields, List.forall_mem_append] at h
      have hms := informed_nestedItems hctx scope place depth ms h.2
      rw [nestedItems]
      split
      · exact hms
      · have hm := informed_messageItems hctx scope (placeIn place m.name) depth m h.1
        exact hm.bind fun _ => hms.bind fun _ => informed_ok _

end

theorem informed_rootItems {files : List FileDescriptor} (hctx : Complete ctx.types files)
    (scope : String) (ms : List MessageDescriptor)
    (h : ∀ p ∈ messagesFields scope ms, HasNamedType p.2 →
      ∃ info, ctx.types.find? p.2.typeName = some info) :
    Informed (rootItems ctx ms) := by
  induction ms with
  | nil => exact informed_ok _
  | cons m ms ih =>
      rw [messagesFields, List.forall_mem_append] at h
      exact (informed_messageItems hctx scope m.name 0 m h.1).bind fun _ =>
        (ih h.2).bind fun _ => informed_ok _

end Context

/-- If the index is complete for a request, no type is missing in its files. -/
theorem informed_generatedFile (q : GeneratorRequest) (mapping : PathMapping) (name : String)
    (h : Complete (TypeIndex.ofFiles q.files) q.files) :
    Informed (generatedFile q mapping name) := by
  rw [generatedFile]
  cases hfind : q.files.find? fun f => f.name == name with
  | none =>
      intro missing hmissing
      simp at hmissing
  | some file =>
      have hfile := List.mem_of_find?_eq_some hfind
      refine Informed.bind ?_ fun _ => informed_ok _
      rw [fileText]
      refine Informed.bind ?_ fun items => ?_
      · rw [fileItems]
        split
        · intro missing hmissing
          simp at hmissing
        · rename_i edition _
          let ctx : Context :=
            ⟨file.name, TypeIndex.ofFiles q.files, mapping, Comments.ofFile file, edition⟩
          have hcomplete : Complete ctx.types q.files := h
          have hitems : Informed (rootItems ctx file.messages) :=
            Context.informed_rootItems hcomplete _ _ (h.known file hfile)
          refine hitems.bind fun _ => ?_
          refine Informed.bind (Informed.mapM fun e _ => ?_) fun _ => informed_ok _
          exact Context.informed_enumItem _ e
      · intro missing hmissing
        split at hmissing <;> simp at hmissing

/-- The index is complete if it finds what every name of the request resolves to. -/
theorem complete_of_finds (files : List FileDescriptor)
    (h : ∀ file ∈ files, ∀ p ∈ fileFields file, HasNamedType p.2 →
      ∃ t, Finds (TypeIndex.ofFiles files) p.2 t) :
    Complete (TypeIndex.ofFiles files) files := by
  have hknown : ∀ file ∈ files, ∀ p ∈ fileFields file, HasNamedType p.2 →
      ∃ info, (TypeIndex.ofFiles files).find? p.2.typeName = some info := by
    intro file hfile p hp htype
    obtain ⟨t, info, hinfo, -⟩ := h file hfile p hp htype
    exact ⟨info, hinfo⟩
  refine ⟨hknown, fun name info hinfo key value hmap htype => ?_⟩
  obtain ⟨file, hfile, ht⟩ :=
    (TypeIndex.mem_ofFiles_iff files _).mp (TypeIndex.mem_of_find? _ name info hinfo)
  exact hknown file hfile _ (mapFields_mem file _ ht key value hmap) htype

/-- In an accepted request every message and enum field names a defined type. The
generator finds that type under the name exactly if the name is absolute and what it
finds comes from a plain package; among plain packages, exactly if the name is
absolute. If it always does, no answer complains of an unknown type. -/
theorem valid_lookups_iff (q : GeneratorRequest) (hq : validate q = .ok ()) :
    (∀ file ∈ q.files, ∀ p ∈ fileFields file, HasNamedType p.2 →
      ∃ t, resolveType? (definedTypes q.files) p.1 p.2.typeName = some t ∧
        (Finds (TypeIndex.ofFiles q.files) p.2 t ↔ IsAbsolute p.2.typeName ∧ ∃ info,
          (TypeIndex.ofFiles q.files).find? p.2.typeName = some info ∧
            IsPlainPackage info.package) ∧
        ((∀ other ∈ q.files, IsPlainPackage other.package) →
          (Finds (TypeIndex.ofFiles q.files) p.2 t ↔ IsAbsolute p.2.typeName))) ∧
    ((∀ file ∈ q.files, ∀ p ∈ fileFields file, HasNamedType p.2 →
      ∃ t, resolveType? (definedTypes q.files) p.1 p.2.typeName = some t ∧
        Finds (TypeIndex.ofFiles q.files) p.2 t) →
      ∀ mapping name,
        q.filesToGenerate.mapM (generatedFile q mapping) ≠ .error (.unknownType name)) := by
  constructor
  · intro file hfile p hp htype
    obtain ⟨t, ht⟩ := exists_resolveType?_of_valid q hq file hfile p hp htype
    exact ⟨t, ht, finds_iff _ _ _ _ ht, finds_iff_of_plain _ _ _ _ ht⟩
  · intro h mapping
    have hcomplete : Complete (TypeIndex.ofFiles q.files) q.files := by
      refine complete_of_finds q.files fun file hfile p hp htype => ?_
      obtain ⟨t, -, hfinds⟩ := h file hfile p hp htype
      exact ⟨t, hfinds⟩
    exact Informed.mapM fun name _ => informed_generatedFile q mapping name hcomplete

/-- The point of a track, named in full, is found. -/
theorem absolute_point_found :
    validate ⟨["track.proto"], none, [trackFile ".tracks.Track.Point"], none⟩ = .ok () ∧
      ∀ mapping name, [("track.proto" : String)].mapM
        (generatedFile ⟨["track.proto"], none, [trackFile ".tracks.Track.Point"], none⟩ mapping) ≠
          .error (.unknownType name) := by
  have hvalid : validate ⟨["track.proto"], none, [trackFile ".tracks.Track.Point"], none⟩ =
      .ok () := by
    decide +kernel
  refine ⟨hvalid, (valid_lookups_iff _ hvalid).2 ?_⟩
  intro file hfile p hp htype
  obtain ⟨t, ht, -, hfinds⟩ := (valid_lookups_iff _ hvalid).1 file hfile p hp htype
  obtain rfl := List.mem_singleton.mp hfile
  obtain rfl := List.mem_singleton.mp hp
  refine ⟨t, ht, (hfinds ?_).mpr (by decide)⟩
  intro other hother
  obtain rfl := List.mem_singleton.mp hother
  exact .inr (by decide)

/-- Named from within the track, the same point passes the check of the request and
is not found. -/
theorem relative_point_unknown :
    let q : GeneratorRequest := ⟨["track.proto"], none, [trackFile "Point"], none⟩
    validate q = .ok () ∧
      resolveType? (definedTypes q.files) ".tracks.Track" "Point" = some ".tracks.Track.Point" ∧
      (TypeIndex.ofFiles q.files).find? "Point" = none ∧
      respond .empty q = ⟨some "unknown type Point", none, []⟩ := by
  refine ⟨?_, ?_, ?_, ?_⟩ <;> decide +kernel

end Generator

end Protogen
