import Protogen.Proofs.Generator.Attributes

/-!
# Kinds of references

A field that declares a message has to name a message, one that declares an enum an enum. The
generator checks this for every field that it writes as it is, in a structure or in a oneof, so
nothing is generated for a file with such a field that names something else. For the values of
maps it does not: all references in a file are of their kinds exactly if those in its maps are.
-/

namespace Protogen

namespace Generator

open Descriptor Source

/-- The type index has something of the kind that the field declares under the name it gives. -/
structure KindFound (types : TypeIndex) (f : FieldDescriptor) : Prop where
  message : f.type = .message → ∃ info, types.find? f.typeName = some info ∧ info.kind = .message
  enum : f.type = .enum → ∃ info, types.find? f.typeName = some info ∧ info.kind = .enum

/-- The element is a scalar, or it refers to what has the name, which is of its kind. -/
inductive RefersToKind (ctx : Context) (depth : Nat) (name : String) : Element → Prop
  | scalar {type : Scalar} : RefersToKind ctx depth name (.scalar type)
  | message {reference : Reference} {type : TypeExpr} {info : TypeInfo} :
      ctx.reference name depth = .ok reference → ctx.types.find? name = some info →
      info.kind = .message → RefersToKind ctx depth name (.message reference type)
  | enumeration {reference : Reference} {info : TypeInfo} :
      ctx.reference name depth = .ok reference → ctx.types.find? name = some info →
      info.kind = .enum → RefersToKind ctx depth name (.enumeration reference)

namespace Context

variable {ctx : Context} {depth : Nat} {f : FieldDescriptor} {element : Element}

/-- A field that is written as it is has been checked. -/
theorem kindFound_of_element (h : ctx.element f depth = .ok element) :
    KindFound ctx.types f := by
  obtain ⟨type, htype, -⟩ | ⟨htype, hfound, -⟩ | ⟨htype, hfound, -⟩ := element_eq_ok h
  · exact ⟨fun hmessage => by simp [htype] at hmessage, fun henum => by simp [htype] at henum⟩
  · exact ⟨fun _ => (expectKind_eq_ok_iff _ _).mp hfound, fun henum => by simp [htype] at henum⟩
  · exact ⟨fun hmessage => by simp [htype] at hmessage,
      fun _ => (expectKind_eq_ok_iff _ _).mp hfound⟩

end Context

/-- An element that is written for a field is of its kind exactly if what the field names is. -/
theorem DeclaredAs.refersToKind_iff {ctx : Context} {depth : Nat} {f : FieldDescriptor}
    {element : Element} (h : DeclaredAs ctx depth f element) :
    RefersToKind ctx depth f.typeName element ↔ KindFound ctx.types f := by
  cases h with
  | scalar htype =>
      exact iff_of_true .scalar ⟨fun hmessage => by simp [htype] at hmessage,
        fun henum => by simp [htype] at henum⟩
  | message htype hreference =>
      constructor
      · rintro (_ | ⟨-, hinfo, hkind⟩)
        exact ⟨fun _ => ⟨_, hinfo, hkind⟩, fun henum => by simp [htype] at henum⟩
      · intro hfound
        obtain ⟨info, hinfo, hkind⟩ := hfound.message htype
        exact .message hreference hinfo hkind
  | enum htype hreference =>
      constructor
      · rintro (_ | _ | ⟨-, hinfo, hkind⟩)
        exact ⟨fun hmessage => by simp [htype] at hmessage, fun _ => ⟨_, hinfo, hkind⟩⟩
      · intro hfound
        obtain ⟨info, hinfo, hkind⟩ := hfound.enum htype
        exact .enumeration hreference hinfo hkind

/-- The values of the maps of a file name what they declare. -/
def MapValuesFound (ctx : Context) (file : FileDescriptor) : Prop :=
  ∀ outer m, EmittedAt file outer m → ∀ f ∈ plainFields m.body, ∀ key value,
    ctx.mapFields? f = some (key, value) → KindFound ctx.types value

/-- The other fields of a file name what they declare. -/
structure PlainKindsFound (ctx : Context) (file : FileDescriptor) : Prop where
  members : ∀ outer m, EmittedAt file outer m → ∀ f ∈ plainFields m.body,
    ctx.mapFields? f = none → KindFound ctx.types f
  variants : ∀ outer m, EmittedAt file outer m → ∀ p ∈ spelledOneofs m.body,
    ∀ f ∈ oneofMembers m.body p.2, KindFound ctx.types f

namespace FileEmission

variable {ctx : Context} {file : FileDescriptor}

theorem plainKindsFound (e : FileEmission ctx file) : PlainKindsFound ctx file where
  members outer m hm f hf hmap := by
    obtain ⟨above, member, hstands⟩ := e.exists_standsFor hm hf
    obtain ⟨place, hmember⟩ := e.member_of_standsFor hstands
    obtain ⟨element, helement, -⟩ := Context.member_of_not_map hmap hmember
    exact Context.kindFound_of_element helement
  variants outer m hm p hp f hf := by
    obtain ⟨above, element, hwritten⟩ := e.exists_writtenAs_of_oneof hm hp hf
    obtain ⟨-, -, hconverted⟩ := e.convertedTo_of_writtenAs hwritten
    cases hconverted with
    | elements _ helement => exact Context.kindFound_of_element helement

/-- The elements that a file writes are of their kinds exactly if the values of its maps are. -/
theorem refersToKind_iff (e : FileEmission ctx file) :
    (∀ outer m above f form g element, WrittenAs file e.items outer m above f form →
      ElementFor ctx f form g element → RefersToKind ctx above.length g.typeName element) ↔
      MapValuesFound ctx file := by
  constructor
  · intro hall outer m hm f hf key value hmap
    obtain ⟨above, form, hwritten⟩ := e.exists_writtenAs_of_plain hm hf
    obtain ⟨-, -, hconverted⟩ := e.convertedTo_of_writtenAs hwritten
    cases hconverted with
    | elements hself _ =>
        have hplain : f.isOneofMember = false := by simpa using (List.mem_filter.mp hf).2
        simp [hplain, hmap] at hself
    | map _ hmap' _ hvalue =>
        obtain ⟨rfl, rfl⟩ := Prod.mk.inj (Option.some.inj (hmap.symm.trans hmap'))
        have hkind := hall _ _ _ _ _ _ _ hwritten (.value hmap)
        exact (Context.declaredAs_of_mapValue hvalue).refersToKind_iff.mp hkind
  · intro hvalues outer m above f form g element hwritten hg
    obtain ⟨⟨n, hn, rfl⟩, hf, hconverted⟩ := e.convertedTo_of_writtenAs hwritten
    cases hconverted with
    | elements _ helement =>
        obtain _ | _ := hg
        exact (Context.declaredAs_of_element helement).refersToKind_iff.mpr
          (Context.kindFound_of_element helement)
    | map hone hmap _ hvalue =>
        obtain _ | hmap' := hg
        obtain ⟨rfl, rfl⟩ := Prod.mk.inj (Option.some.inj (hmap.symm.trans hmap'))
        have hplain : f ∈ plainFields n.body := List.mem_filter.mpr ⟨hf, by simp [hone]⟩
        exact (Context.declaredAs_of_mapValue hvalue).refersToKind_iff.mpr
          (hvalues outer n hn f hplain _ _ hmap)

end FileEmission

/-- If a text is generated for a file, its fields name what they declare, unless they are maps:
otherwise there is no text. Every element in it is that of a field or of the values of a map, and
all of them refer to something of their kind exactly if the values of the maps name what they
declare. -/
theorem reference_kinds_checked_iff (file : FileDescriptor) (types : TypeIndex)
    (mapping : PathMapping) (text : String) (h : fileText file types mapping = .ok text) :
    ∃ edition items, Edition.ofName? file.syntaxName = some edition ∧
      fileItems file types mapping = .ok items ∧ text = renderFile file.name items ∧
      let ctx := contextOf file types mapping edition
      PlainKindsFound ctx file ∧
      (∀ above element, Writes items above element → ∃ outer m f form g,
        WrittenAs file items outer m above f form ∧ ElementFor ctx f form g element) ∧
      ((∀ outer m above f form g element, WrittenAs file items outer m above f form →
        ElementFor ctx f form g element → RefersToKind ctx above.length g.typeName element) ↔
        MapValuesFound ctx file) := by
  obtain ⟨edition, e, hedition, hitems, htext⟩ := fileText_eq_ok h
  exact ⟨edition, e.items, hedition, hitems, htext, e.plainKindsFound,
    fun above element => e.exists_elementFor_of_writes, e.refersToKind_iff⟩

/-- The mode of each leg of a track, an enum that the map declares by this number. -/
def modeField (declared : Int32) : FieldDescriptor :=
  { FieldDescriptor.blank with
    name? := "value"
    number? := some 2
    label? := some 1
    type? := declared
    typeName? := ".tracks.Track.Mode" }

def legsField : FieldDescriptor :=
  { FieldDescriptor.blank with
    name? := "legs"
    number? := some 1
    label? := some 3
    type? := some 11
    typeName? := ".tracks.Track.LegsEntry" }

def keyField : FieldDescriptor :=
  { FieldDescriptor.blank with
    name? := "key", number? := some 1, label? := some 1, type? := some 9 }

def legsTrack (declared : Int32) : MessageDescriptor :=
  ⟨{ MessageBody.blank with
      name? := "Track"
      fields := [legsField]
      enums := [⟨"Mode", [⟨"WALK", some 0, none⟩], none, [], []⟩] },
    [⟨{ MessageBody.blank with
        name? := "LegsEntry"
        fields := [keyField, modeField declared]
        options? := some ⟨none, none, none, some true, []⟩ }, []⟩]⟩

def legsFile (declared : Int32) : FileDescriptor :=
  { FileDescriptor.blank with
    name? := "track.proto"
    package? := "tracks"
    messages := [legsTrack declared]
    syntaxName? := "proto3" }

theorem emittedAt_legsFile {declared : Int32} {outer : List String} {m : MessageDescriptor}
    (h : EmittedAt (legsFile declared) outer m) : m = legsTrack declared := by
  induction h with
  | top hm => exact List.mem_singleton.mp hm
  | nested _ hn hplain ih =>
      subst ih
      obtain rfl := List.mem_singleton.mp hn
      exact absurd hplain (by simp [MessageDescriptor.isMapEntry, MessageBody.isMapEntry])

theorem mapFields?_legsField {ctx : Context} {entry : FieldDescriptor × FieldDescriptor}
    (h : (ctx.types.find? legsField.typeName).bind TypeInfo.mapFields? = some entry) :
    ctx.mapFields? legsField = some entry := by
  rw [Context.mapFields?, if_pos ⟨rfl, rfl⟩]
  exact h

/-- Declared as an enum, the mode is written as what it is. -/
theorem mode_refers_to_enum :
    let file := legsFile 14
    let types := TypeIndex.ofFiles [file]
    ∃ text edition items, fileText file types .empty = .ok text ∧
      text = renderFile "track.proto" items ∧
      ∀ outer m above f form g element, WrittenAs file items outer m above f form →
        let ctx := contextOf file types .empty edition
        ElementFor ctx f form g element → RefersToKind ctx above.length g.typeName element := by
  intro file types
  have hok : (fileText file types .empty).isOk = true := by decide +kernel
  obtain ⟨text, htext⟩ := Outcome.exists_of_isOk hok
  obtain ⟨edition, items, -, -, hrender, -, -, hkinds⟩ :=
    reference_kinds_checked_iff file types .empty text htext
  refine ⟨text, edition, items, htext, hrender, hkinds.mpr fun outer m hm f hf key value hmap => ?_⟩
  have hmode : types.find? (modeField 14).typeName =
      some ⟨"track.proto", "tracks", ["Track", "Mode"], .enum, none⟩ := by decide +kernel
  obtain rfl : m = legsTrack 14 := emittedAt_legsFile hm
  obtain rfl := List.mem_singleton.mp hf
  have hentry : (types.find? legsField.typeName).bind TypeInfo.mapFields? =
      some (keyField, modeField 14) := by decide +kernel
  obtain ⟨-, rfl⟩ := Prod.mk.inj (Option.some.inj (hmap.symm.trans (mapFields?_legsField hentry)))
  exact ⟨fun hmessage => absurd hmessage (by decide), fun _ => ⟨_, hmode, rfl⟩⟩

/-- Declared as a message, the mode of a leg is written as one although it is an enum. -/
theorem mode_written_as_message :
    let file := legsFile 11
    let types := TypeIndex.ofFiles [file]
    let q : GeneratorRequest := ⟨["track.proto"], none, [file], none⟩
    Request.validate q = .ok () ∧ (respond .empty q).error? = none ∧
      ∃ items above reference type info, fileItems file types .empty = .ok items ∧
        WrittenAs file items [] (legsTrack 11).body above legsField
          (.map .string (.message reference type)) ∧
        types.find? (modeField 11).typeName = some info ∧ info.kind = .enum := by
  intro file types q
  have hok : (fileText file types .empty).isOk = true := by decide +kernel
  obtain ⟨text, htext⟩ := Outcome.exists_of_isOk hok
  obtain ⟨edition, e, -, hitems, -⟩ := fileText_eq_ok htext
  obtain ⟨above, form, hwritten⟩ := e.exists_writtenAs_of_plain (.top (.head _))
    (.head _ : legsField ∈ plainFields (legsTrack 11).body)
  obtain ⟨-, -, hconverted⟩ := e.convertedTo_of_writtenAs hwritten
  have hentry : (types.find? legsField.typeName).bind TypeInfo.mapFields? =
      some (keyField, modeField 11) := by decide +kernel
  have hmode : types.find? (modeField 11).typeName =
      some ⟨"track.proto", "tracks", ["Track", "Mode"], .enum, none⟩ := by decide +kernel
  have hmap : (contextOf file types .empty edition).mapFields? legsField =
      some (keyField, modeField 11) := mapFields?_legsField hentry
  cases hconverted with
  | elements hself _ => simp [hmap, show legsField.isOneofMember = false from rfl] at hself
  | map _ hmap' hkey hvalue =>
      obtain ⟨rfl, rfl⟩ := Prod.mk.inj (Option.some.inj (hmap.symm.trans hmap'))
      obtain rfl := (Except.ok.inj hkey).symm
      have hmessage : (modeField 11).type = .message := rfl
      cases Context.declaredAs_of_mapValue hvalue with
      | scalar htype | enum htype => simp [hmessage] at htype
      | message _ _ =>
          exact ⟨by decide +kernel, by decide +kernel, e.items, above, _, _, _, hitems, hwritten,
            hmode, rfl⟩

end Generator

end Protogen
