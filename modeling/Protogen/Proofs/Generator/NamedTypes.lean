import Protogen.Proofs.Generator.Forms

/-!
# Types that fields name

The check of a request goes by the type name of a field, the generator by its declared
type, and a missing or unknown one reads as a double. A field is written as the type that it
names exactly if it is declared as a message or an enum and the generator finds under the
name what the check found; a map, exactly if this holds for its values as well and its keys
name nothing.
-/

namespace Protogen

namespace Generator

open Descriptor Name Request Source

/-- What is found under the name is the defined type `t`, and the element refers to it: its
path, written in the module `above`, leads where the name does. -/
def RefersTo (ctx : Context) (above : List String) (name t : String) (element : Element) : Prop :=
  ∃ info reference, ctx.types.find? name = some info ∧ info.definedName = t ∧
    element.reference? = some reference ∧
    ∀ layout, reference.target? layout ctx.fileName above =
      destination? ctx.types ctx.mapping layout ctx.fileName name

/-- The element is of the scalar type of the field or, if the field names a type, refers to
what the name means in the scope. -/
def IsElementOf (ctx : Context) (defined : List String) (above : List String) (scope : String)
    (f : FieldDescriptor) (element : Element) : Prop :=
  (f.typeName = "" → ∃ type, f.type = .scalar type ∧ element = .scalar type) ∧
    (f.typeName ≠ "" → ∃ t, resolveType? defined scope f.typeName = some t ∧
      RefersTo ctx above f.typeName t element)

/-- The form is of the type of the field. A map is so if the field names its entry. -/
def IsFormOf (ctx : Context) (defined : List String) (above : List String) (scope : String)
    (f : FieldDescriptor) : Form → Prop
  | .elements element => IsElementOf ctx defined above scope f element
  | .map type element =>
    ∃ info key value, ctx.types.find? f.typeName = some info ∧
      resolveType? defined scope f.typeName = some info.definedName ∧
      info.mapFields? = some (key, value) ∧ key.typeName = "" ∧ key.type = .scalar type ∧
      IsElementOf ctx defined above info.definedName value element

/-- The field names nothing, or it is declared as something with a name and what is found
under the name comes from a plain package. -/
def NameCounts (types : TypeIndex) (f : FieldDescriptor) : Prop :=
  f.typeName = "" ∨ HasNamedType f ∧ ∃ info, types.find? f.typeName = some info ∧
    IsPlainPackage info.package

def NamesCount (types : TypeIndex) (f : FieldDescriptor) : Form → Prop
  | .elements _ => NameCounts types f
  | .map _ _ => NameCounts types f ∧ ∀ info key value, types.find? f.typeName = some info →
      info.mapFields? = some (key, value) → key.typeName = "" ∧ NameCounts types value

/-- What is found under a name is what the name means exactly if its package is plain. -/
theorem definedName_eq_resolved_iff {files : List FileDescriptor} {name scope t : String}
    {info : TypeInfo} (hinfo : (TypeIndex.ofFiles files).find? name = some info)
    (ht : resolveType? (definedTypes files) scope name = some t) :
    info.definedName = t ↔ IsPlainPackage info.package := by
  obtain ⟨hname, habs, -⟩ := name_of_mem_ofFiles files _ _ (TypeIndex.mem_of_find? _ _ _ hinfo)
  rw [resolveType?_of_absolute _ _ habs] at ht
  split at ht
  · rw [← definedName_eq_iff, ← Option.some.inj ht, ← hname]
  · simp at ht

section

variable {files : List FileDescriptor} {ctx : Context} (hctx : ctx.types = TypeIndex.ofFiles files)
  {above : List String} {scope : String} {f : FieldDescriptor}
  (hresolves : Resolves (definedTypes files) scope f)

include hctx hresolves

/-- An element that is written for a field is of its type exactly if the name counts. -/
theorem isElementOf_iff {element : Element} (htyped : IsTyped f)
    (h : TypedAs ctx above.length f element) :
    IsElementOf ctx (definedTypes files) above scope f element ↔ NameCounts ctx.types f := by
  by_cases hempty : f.typeName = ""
  · obtain ⟨type, htype⟩ := htyped hempty
    have hscalar := (h.scalar_iff type).mpr htype
    exact ⟨fun _ => .inl hempty, fun _ =>
      ⟨fun _ => ⟨type, htype, hscalar⟩, fun hne => absurd hempty hne⟩⟩
  obtain ⟨t, ht⟩ := Option.isSome_iff_exists.mp (hresolves.resolve_left hempty)
  constructor
  · rintro ⟨-, hname⟩
    obtain ⟨t', ht', info, reference, hinfo, hdefined, hreference, -⟩ := hname hempty
    refine .inr ⟨(h.of_reference hreference).1, info, hinfo, ?_⟩
    rw [hctx] at hinfo
    exact (definedName_eq_resolved_iff hinfo ht').mp hdefined
  · intro hcounts
    obtain ⟨hnamed, info, hinfo, hplain⟩ := hcounts.resolve_left hempty
    obtain ⟨reference, hreference, href⟩ := h.exists_reference hnamed
    have hdefined : info.definedName = t := by
      rw [hctx] at hinfo
      exact (definedName_eq_resolved_iff hinfo ht).mpr hplain
    refine ⟨fun hne => absurd hne hempty, fun _ => ⟨t, ht, info, reference, hinfo, hdefined,
      hreference, fun layout => ?_⟩⟩
    exact Context.target?_of_reference href

/-- What a field is converted to is of its type exactly if the names count. -/
theorem isFormOf_iff {form : Form} (htyped : IsTyped f)
    (hlink : ∀ file ∈ files, ∀ p ∈ fileFields file,
      Resolves (definedTypes files) p.1 p.2 ∧ IsTyped p.2)
    (h : ConvertedTo ctx above.length f form) :
    IsFormOf ctx (definedTypes files) above scope f form ↔ NamesCount ctx.types f form := by
  cases h with
  | elements _ helement =>
      exact isElementOf_iff hctx hresolves htyped (Context.typedAs_of_element helement)
  | @map key value type element _ hmap hkey hvalue =>
      obtain ⟨-, hmessage, info, hinfo, hfields⟩ := Context.mapFields?_eq_some hmap
      have hfound := hinfo
      rw [hctx] at hfound
      have hentry := TypeIndex.mem_of_find? _ _ _ hfound
      obtain ⟨-, habs, -⟩ := name_of_mem_ofFiles files _ _ hentry
      have hempty : f.typeName ≠ "" := fun hempty => by simp [IsAbsolute, hempty] at habs
      obtain ⟨t, ht⟩ := Option.isSome_iff_exists.mp (hresolves.resolve_left hempty)
      have hdefined := definedName_eq_resolved_iff hfound ht
      -- The value is looked up from the scope of the entry, among the fields of its file.
      obtain ⟨file, hfile, hmem⟩ := (TypeIndex.mem_ofFiles_iff files _).mp hentry
      obtain ⟨hvalueResolves, hvalueTyped⟩ :=
        hlink file hfile _ (mapFields_mem file _ hmem _ _ hfields)
      have hvalue := isElementOf_iff hctx hvalueResolves hvalueTyped
        (Context.typedAs_of_mapValue hvalue)
      constructor
      · rintro ⟨info', key', value', hinfo', ht', hfields', hkeyName, -, helement⟩
        obtain rfl := Option.some.inj (hinfo.symm.trans hinfo')
        obtain ⟨rfl, rfl⟩ := Prod.mk.inj (Option.some.inj (hfields.symm.trans hfields'))
        have hplain := hdefined.mp (Option.some.inj (ht'.symm.trans ht))
        refine ⟨.inr ⟨.inl hmessage, info, hinfo, hplain⟩, fun info' key' value' h h' => ?_⟩
        obtain rfl := Option.some.inj (hinfo.symm.trans h)
        obtain ⟨rfl, rfl⟩ := Prod.mk.inj (Option.some.inj (hfields.symm.trans h'))
        exact ⟨hkeyName, hvalue.mp helement⟩
      · rintro ⟨hname, hmap⟩
        obtain ⟨-, info', hinfo', hplain⟩ := hname.resolve_left hempty
        obtain rfl := Option.some.inj (hinfo.symm.trans hinfo')
        obtain ⟨hkeyName, hvalueName⟩ := hmap info key value hinfo hfields
        exact ⟨info, key, value, hinfo, (hdefined.mpr hplain) ▸ ht, hfields, hkeyName,
          Context.mapKey_eq_ok hkey, hvalue.mpr hvalueName⟩

end

theorem ConvertedTo.scalar_iff {ctx : Context} {depth : Nat} {f : FieldDescriptor} {form : Form}
    (h : ConvertedTo ctx depth f form) (type : Scalar) :
    form = .elements (.scalar type) ↔ f.type = .scalar type := by
  cases h with
  | elements _ helement =>
      rw [Form.elements.injEq, (Context.typedAs_of_element helement).scalar_iff]
  | map _ hmap _ _ => simp [(Context.mapFields?_eq_some hmap).2.1]

/-- In the answer to an accepted request every field is written. It is written as the type
that it names, as the check of the request finds it from the place of the field, exactly if
its names count; and as a scalar exactly if a scalar is declared, whatever it names. -/
theorem named_types_written_iff (q : GeneratorRequest) (hq : validate q = .ok ())
    (mapping : PathMapping) (hok : (respond mapping q).error? = none) (file : FileDescriptor)
    (hasked : IsAskedFor q file) :
    ∃ edition items, Edition.ofName? file.syntaxName = some edition ∧
      fileItems file (TypeIndex.ofFiles q.files) mapping = .ok items ∧
      ⟨some (outputFile file.name), none, some (renderFile file.name items), none⟩ ∈
        (respond mapping q).files ∧
      (∀ outer m, EmittedAt file outer m → ∀ f ∈ m.body.fields,
        ∃ above form, WrittenAs file items outer m.body above f form) ∧
      let ctx := contextOf file (TypeIndex.ofFiles q.files) mapping edition
      ∀ outer m above f form, WrittenAs file items outer m above f form →
        (IsFormOf ctx (definedTypes q.files) above
          (packageScope file.package ++ dotted (outer ++ [m.name])) f form ↔
            NamesCount ctx.types f form) ∧
        ∀ type, form = .elements (.scalar type) ↔ f.type = .scalar type := by
  obtain ⟨-, -, -, -, hresolves, hlink⟩ := (validate_eq_ok_iff q).mp hq
  obtain ⟨edition, e, hedition, hitems, hanswer⟩ := exists_emission_of_asked hok hasked
  have hfile := hasked.mem
  refine ⟨edition, e.items, hedition, hitems, hanswer, fun outer m hm f hf => ?_,
    fun outer m above f form hwritten => ?_⟩
  · exact e.exists_writtenAs hm (oneofsInRange_of_link hlink hfile hm.messageAt) hf
  · obtain ⟨⟨n, hn, rfl⟩, hf, hconverted⟩ := e.convertedTo_of_writtenAs hwritten
    have hmem := (mem_fileFields_iff file _ f).mpr ⟨_, n, hn.messageAt, hf, rfl⟩
    refine ⟨?_, hconverted.scalar_iff⟩
    exact isFormOf_iff rfl (hresolves file hfile _ hmem) (isTyped_of_link hlink hfile hmem)
      (fun other hother p hp => ⟨hresolves other hother p hp, isTyped_of_link hlink hother hp⟩)
      hconverted

/-- The point of a track is written as the point that the track names. -/
theorem track_point_written :
    let file := trackFile ".tracks.Track.Point"
    let q : GeneratorRequest := ⟨["track.proto"], none, [file], none⟩
    validate q = .ok () ∧ (respond .empty q).error? = none ∧
      ∃ edition items, fileItems file (TypeIndex.ofFiles [file]) .empty = .ok items ∧
        ∀ outer m above f form, WrittenAs file items outer m above f form →
          IsFormOf (contextOf file (TypeIndex.ofFiles [file]) .empty edition) (definedTypes [file])
            above (packageScope file.package ++ dotted (outer ++ [m.name])) f form := by
  intro file q
  have hvalid : validate q = .ok () := by decide +kernel
  have hok : (respond .empty q).error? = none := by decide +kernel
  have hasked : IsAskedFor q file := ⟨"track.proto", List.mem_singleton_self _, rfl⟩
  obtain ⟨edition, items, -, hitems, -, -, hforms⟩ :=
    named_types_written_iff q hvalid .empty hok file hasked
  refine ⟨hvalid, hok, edition, items, hitems, fun outer m above f form hwritten => ?_⟩
  refine (hforms outer m above f form hwritten).1.mpr ?_
  obtain ⟨edition, e, -, rfl⟩ := fileItems_eq_ok hitems
  obtain ⟨⟨n, hn, rfl⟩, hf, -⟩ := e.convertedTo_of_writtenAs hwritten
  have hfound : (TypeIndex.ofFiles [file]).find? ".tracks.Track.Point" =
      some ⟨"track.proto", "tracks", ["Track", "Point"], .message, none⟩ := by decide +kernel
  rcases emittedAt_trackFile hn with ⟨-, htop⟩ | rfl
  · obtain rfl := List.mem_singleton.mp htop
    have hfield := List.mem_singleton.mp hf
    have htype : f.type = .message := by rw [hfield]; rfl
    have hname : f.typeName = ".tracks.Track.Point" := by rw [hfield]; rfl
    rw [← hname] at hfound
    have hcounts : NameCounts (TypeIndex.ofFiles [file]) f :=
      .inr ⟨.inl htype, _, hfound, .inr (by decide)⟩
    cases form with
    | elements element => exact hcounts
    | map type element =>
        refine ⟨hcounts, fun info key value hinfo hfields => ?_⟩
        obtain rfl := Option.some.inj (hfound.symm.trans hinfo)
        simp at hfields
  · exact absurd hf List.not_mem_nil

/-- A field that names the point of a track, with this declared type. -/
def pointField (type? : Option Int32) : FieldDescriptor :=
  { FieldDescriptor.blank with
    name? := some "previous"
    number? := some 1
    label? := some Label.optional.toNumber
    type? := type?
    typeName? := some ".tracks.Track.Point" }

def bareTrack : MessageDescriptor :=
  ⟨{ MessageBody.blank with name? := some "Track", fields := [pointField none] },
    [⟨{ MessageBody.blank with name? := some "Point" }, []⟩]⟩

/-- A track whose field names the point and declares no type. -/
def bareTrackFile : FileDescriptor :=
  { FileDescriptor.blank with
    name? := some "track.proto"
    package? := some "tracks"
    syntaxName? := some "proto3"
    messages := [bareTrack] }

/-- The field of such a track passes the check as a point and is written as a double. -/
theorem bare_point_written_as_double :
    let q : GeneratorRequest := ⟨["track.proto"], none, [bareTrackFile], none⟩
    validate q = .ok () ∧ (respond .empty q).error? = none ∧
      resolveType? (definedTypes q.files) ".tracks.Track" (pointField none).typeName =
        some ".tracks.Track.Point" ∧
      ∃ items above, fileItems bareTrackFile (TypeIndex.ofFiles q.files) .empty = .ok items ∧
        WrittenAs bareTrackFile items [] bareTrack.body above (pointField none)
          (.elements (.scalar .double)) := by
  intro q
  have hvalid : validate q = .ok () := by decide +kernel
  have hok : (respond .empty q).error? = none := by decide +kernel
  refine ⟨hvalid, hok, by decide +kernel, ?_⟩
  obtain ⟨edition, e, -, hitems, -⟩ := exists_emission_of_asked hok
    (⟨"track.proto", List.mem_singleton_self _, rfl⟩ : IsAskedFor q bareTrackFile)
  obtain ⟨above, form, hwritten⟩ := e.exists_writtenAs (.top List.mem_cons_self)
    (by decide : OneofsInRange bareTrack.body) List.mem_cons_self
  obtain ⟨-, -, hconverted⟩ := e.convertedTo_of_writtenAs hwritten
  obtain rfl := (hconverted.scalar_iff .double).mpr rfl
  exact ⟨e.items, above, hitems, hwritten⟩

end Generator

end Protogen
