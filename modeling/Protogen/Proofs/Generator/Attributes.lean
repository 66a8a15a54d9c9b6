import Protogen.Proofs.Generator.DocLines
import Protogen.Proofs.Generator.Forms

/-!
# Attributes of fields

The attribute of a member says how its field is encoded: the kind of the declared type, how many
elements there can be, and the number. Elements that could be packed are kept unpacked under the
rules of proto2 unless the field says otherwise. Under other rules nothing is said, whatever the
field says, so that a field which asks to be left unpacked is packed there.
-/

namespace Protogen

namespace Source

open Text

/-- The argument for elements that are not to be packed. -/
def unpackedArgument : String := "packed = " ++ literal "false"

end Source

namespace Generator

open Descriptor Source Text

/-- The kind of the type that the field declares. -/
inductive IsKindOf (ctx : Context) (depth : Nat) (f : FieldDescriptor) : String → Prop
  | scalar {type : Scalar} : f.type = .scalar type → IsKindOf ctx depth f (scalarArgument type)
  | message : f.type = .message → IsKindOf ctx depth f "message"
  | enum {reference : Reference} : f.type = .enum →
      ctx.reference f.typeName depth = .ok reference →
      IsKindOf ctx depth f ("enumeration = " ++ literal reference.text)

/-- A missing single value differs from the default one. -/
def HasPresence (edition : Edition) (f : FieldDescriptor) : Prop :=
  f.type = .message ∨ f.isProto3Optional ∨ edition ≠ .proto3

/-- Several elements of the type could be packed into one entry. -/
def CanBePacked (t : DeclaredType) : Prop :=
  t = .enum ∨ ∃ type, t = .scalar type ∧ type ≠ .string ∧ type ≠ .bytes

/-- The elements are kept unpacked if nothing is said about them under the rules of proto2. -/
def KeptUnpacked (edition : Edition) (f : FieldDescriptor) : Prop :=
  CanBePacked f.type ∧ edition = .proto2 ∧ f.packed? ≠ some true

/-- The schema asks for unpacked elements, if need be by the rules of its edition. -/
def AskedUnpacked (edition : Edition) (f : FieldDescriptor) : Prop :=
  f.packed? = some false ∨ f.packed? = none ∧ edition = .proto2

/-- The arguments for the number of elements of a field. -/
inductive CountedAs (edition : Edition) (f : FieldDescriptor) : List String → Prop
  | required : f.label = .required → CountedAs edition f ["required"]
  | optional : f.label = .optional → HasPresence edition f → CountedAs edition f ["optional"]
  | plain : f.label = .optional → ¬HasPresence edition f → CountedAs edition f []
  | repeated : f.label = .repeated → ¬KeptUnpacked edition f → CountedAs edition f ["repeated"]
  | unpacked : f.label = .repeated → KeptUnpacked edition f →
      CountedAs edition f ["repeated", unpackedArgument]

theorem keptUnpacked_iff_asked_iff {edition : Edition} {f : FieldDescriptor}
    (h : CanBePacked f.type) : (KeptUnpacked edition f ↔ AskedUnpacked edition f) ↔
      (f.packed? = some false → edition = .proto2) := by
  rw [KeptUnpacked, AskedUnpacked]
  cases f.packed? with
  | none => simp [h]
  | some packed => cases packed <;> simp [h]

namespace CountedAs

variable {edition : Edition} {f : FieldDescriptor} {words : List String}

theorem unpacked_mem_iff (h : CountedAs edition f words) (hrepeated : f.label = .repeated) :
    unpackedArgument ∈ words ↔ KeptUnpacked edition f := by
  have hne : unpackedArgument ≠ "repeated" := by decide
  cases h with
  | required hlabel | optional hlabel | plain hlabel => simp [hlabel] at hrepeated
  | repeated _ hkept => simp [hne, hkept]
  | unpacked _ hkept => simp [hkept]

end CountedAs

namespace Context

variable {ctx : Context} {depth : Nat} {f : FieldDescriptor}

theorem isKindOf_of_element {element : Element} (h : ctx.element f depth = .ok element) :
    IsKindOf ctx depth f element.argument := by
  cases declaredAs_of_element h with
  | scalar htype => exact .scalar htype
  | message htype => exact .message htype
  | enum htype hreference => exact .enum htype hreference

theorem isPackable_iff (hgroup : f.type ≠ .group) :
    isPackable f = true ↔ CanBePacked f.type := by
  rw [isPackable, CanBePacked]
  cases htype : f.type with
  | group => exact absurd htype hgroup
  | message | enum => simp
  | scalar type => cases type <;> simp [Scalar.isPackable]

theorem countedAs_cardinality (ctx : Context) (hgroup : f.type ≠ .group) :
    CountedAs ctx.edition f (ctx.cardinality f).arguments := by
  rw [Context.cardinality]
  cases hlabel : f.label with
  | required => exact .required hlabel
  | optional =>
      have hpresence : ctx.hasPresence f = true ↔ HasPresence ctx.edition f := by
        simp [Context.hasPresence, HasPresence, or_assoc]
      by_cases h : ctx.hasPresence f = true
      · simp only [h, if_true]
        exact .optional hlabel (hpresence.mp h)
      · simp only [h]
        exact .plain hlabel (mt hpresence.mpr h)
  | repeated =>
      have hkept : (isPackable f && ctx.edition == .proto2 && f.packed? != some true) = true ↔
          KeptUnpacked ctx.edition f := by
        simp [KeptUnpacked, isPackable_iff hgroup, and_assoc]
      by_cases h : (isPackable f && ctx.edition == .proto2 && f.packed? != some true) = true
      · simp only [h]
        exact .unpacked hlabel (hkept.mp h)
      · simp only [h]
        exact .repeated hlabel (mt hkept.mpr h)

theorem type_ne_group {element : Element} (h : ctx.element f depth = .ok element) :
    f.type ≠ .group := by
  rcases element_eq_ok h with ⟨type, htype, -⟩ | ⟨htype, -⟩ | ⟨htype, -⟩ <;> simp [htype]

end Context

/-- In the text that is generated for a file there is a member for every field outside of the
oneofs. Unless the field is a map, the attribute of the member gives the kind of the declared
type, how many elements there can be, and the number of the field. Elements that could be packed
are marked as the schema asks exactly if it asks for unpacked ones only under proto2. -/
theorem attributes_describe_encoding_iff (file : FileDescriptor) (types : TypeIndex)
    (mapping : PathMapping) (text : String) (h : fileText file types mapping = .ok text) :
    ∃ edition items, Edition.ofName? file.syntaxName = some edition ∧
      fileItems file types mapping = .ok items ∧ text = renderFile file.name items ∧
      (∀ outer m, EmittedAt file outer m → ∀ f ∈ plainFields m.body,
        ∃ above member, StandsFor file items outer m.body above f member) ∧
      let ctx := contextOf file types mapping edition
      ∀ outer m above f member, StandsFor file items outer m above f member →
        ctx.mapFields? f = none →
        ∃ kind words, (∀ columns, member.render columns = docLines columns member.docs ++
            attributeLine columns "prost" (kind :: words ++ [tagArgument f.number]) ++
              declarationLine columns member.name member.typeRow) ∧
          IsKindOf ctx above.length f kind ∧ CountedAs edition f words ∧
          (f.label = .repeated → CanBePacked f.type →
            ((unpackedArgument ∈ words ↔ AskedUnpacked edition f) ↔
              (f.packed? = some false → edition = .proto2))) := by
  obtain ⟨edition, e, hedition, hitems, htext⟩ := fileText_eq_ok h
  refine ⟨edition, e.items, hedition, hitems, htext, fun outer m hm f => e.exists_standsFor hm,
    fun outer m above f member hstands hmap => ?_⟩
  obtain ⟨place, hmember⟩ := e.member_of_standsFor hstands
  obtain ⟨element, helement, rfl⟩ := Context.member_of_not_map hmap hmember
  have hcounted := Context.countedAs_cardinality (contextOf file types mapping edition)
    (Context.type_ne_group helement)
  refine ⟨_, _, fun columns => Member.render_eq columns _, Context.isKindOf_of_element helement,
    hcounted, fun hrepeated hpackable => ?_⟩
  rw [hcounted.unpacked_mem_iff hrepeated]
  exact keptUnpacked_iff_asked_iff hpackable

/-- The points of a track, with what is said about packing. -/
def pointsField (packed? : Option Bool) : FieldDescriptor :=
  { FieldDescriptor.blank with
    name? := "points"
    number? := some 1
    label? := some 3
    type? := some 5
    options? := some ⟨none, packed?, none, none, none, none, []⟩ }

def pointsTrack (packed? : Option Bool) : MessageDescriptor :=
  ⟨{ MessageBody.blank with name? := "Track", fields := [pointsField packed?] }, []⟩

def pointsFile (syntaxName : String) (packed? : Option Bool) : FileDescriptor :=
  { FileDescriptor.blank with
    name? := "track.proto"
    package? := "tracks"
    messages := [pointsTrack packed?]
    syntaxName? := syntaxName }

theorem mapFields?_pointsField (ctx : Context) (packed? : Option Bool) :
    ctx.mapFields? (pointsField packed?) = none := by
  have htype : (pointsField packed?).type ≠ .message := by
    cases packed? with
    | none => decide
    | some packed => cases packed <;> decide
  rw [Context.mapFields?, if_neg fun h => htype h.2]

/-- Under proto2 the points are marked as unpacked if nothing is said. -/
theorem points_marked_unpacked :
    let file := pointsFile "proto2" none
    ∃ text items above member words, fileText file (TypeIndex.ofFiles [file]) .empty = .ok text ∧
      text = renderFile "track.proto" items ∧
      StandsFor file items [] (pointsTrack none).body above (pointsField none) member ∧
      CountedAs .proto2 (pointsField none) words ∧ unpackedArgument ∈ words := by
  intro file
  have hok : (fileText file (TypeIndex.ofFiles [file]) .empty).isOk = true := by decide +kernel
  obtain ⟨text, htext⟩ := Outcome.exists_of_isOk hok
  obtain ⟨edition, items, hedition, -, hrender, hall, hdescribes⟩ :=
    attributes_describe_encoding_iff file (TypeIndex.ofFiles [file]) .empty text htext
  obtain rfl : edition = .proto2 := (Option.some.inj hedition).symm
  obtain ⟨above, member, hstands⟩ := hall [] (pointsTrack none) (.top (.head _)) (pointsField none)
    (.head _)
  obtain ⟨_, words, -, -, hcounted, hunpacked⟩ :=
    hdescribes [] _ above _ member hstands (mapFields?_pointsField _ _)
  have hmarked := (hunpacked rfl (.inr ⟨.int32, rfl, by decide, by decide⟩)).mpr fun _ => rfl
  exact ⟨text, items, above, member, words, htext, hrender, hstands, hcounted,
    hmarked.mpr (.inr ⟨rfl, rfl⟩)⟩

/-- Under proto3 the points are not marked although they are to be unpacked. -/
theorem points_packed_against_option :
    let file := pointsFile "proto3" (some false)
    let q : GeneratorRequest := ⟨["track.proto"], none, [file], none⟩
    Request.validate q = .ok () ∧ (respond .empty q).error? = none ∧
      AskedUnpacked .proto3 (pointsField (some false)) ∧
      ∃ items above member, fileItems file (TypeIndex.ofFiles [file]) .empty = .ok items ∧
        StandsFor file items [] (pointsTrack (some false)).body above (pointsField (some false))
          member ∧
        member.arguments = ["int32", "repeated", "tag = " ++ literal "1"] := by
  intro file q
  have hok : (fileText file (TypeIndex.ofFiles [file]) .empty).isOk = true := by decide +kernel
  obtain ⟨text, htext⟩ := Outcome.exists_of_isOk hok
  obtain ⟨edition, e, hedition, hitems, -⟩ := fileText_eq_ok htext
  obtain rfl : edition = .proto3 := (Option.some.inj hedition).symm
  obtain ⟨above, member, hstands⟩ := e.exists_standsFor (.top (.head _))
    (.head _ : pointsField (some false) ∈ plainFields (pointsTrack (some false)).body)
  obtain ⟨place, hmember⟩ := e.member_of_standsFor hstands
  obtain ⟨element, helement, rfl⟩ :=
    Context.member_of_not_map (mapFields?_pointsField _ _) hmember
  obtain rfl : element = .scalar .int32 := (Except.ok.inj helement).symm
  have hwords : Element.argument (.scalar .int32) :: (Cardinality.repeated false).arguments ++
      [tagArgument 1] = ["int32", "repeated", "tag = " ++ literal "1"] := by decide +kernel
  exact ⟨by decide +kernel, by decide +kernel, .inl rfl, e.items, above, _, hitems, hstands,
    hwords⟩

end Generator

end Protogen
