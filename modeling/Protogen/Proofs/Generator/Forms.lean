import Protogen.Proofs.Generator.Containment
import Protogen.Proofs.Generator.Lookup
import Protogen.Proofs.Generator.TypePaths

/-!
# What fields are written as

Every field of a message is written once: as a member of the structure or, if it is in a
oneof, as a variant. What is written for it are elements of one kind, or the keys and the
values of a map. Fields and what is written for them come in one order, so that a field has
the member at its own place, whatever its name is converted to.
-/

namespace Protogen

namespace Source

/-- What a field is written as, without its name, number and cardinality. -/
inductive Form
  | elements (element : Element)
  | map (key : Descriptor.Scalar) (value : Element)

def Member.form? : Member → Option Form
  | .field _ _ _ element _ => some (.elements element)
  | .map _ _ _ key value => some (.map key value)
  | .oneof _ _ _ _ _ => none

def Element.reference? : Element → Option Reference
  | .scalar _ => none
  | .message reference _ | .enumeration reference => some reference

end Source

namespace Generator

open Descriptor Source

/-- Among the items of the file, the form is written in the module `above` for a field of
the message `m`, which lies in the messages `outer`. -/
inductive WrittenAs (file : FileDescriptor) (items : List Item) (outer : List String)
    (m : MessageBody) : List String → FieldDescriptor → Form → Prop
  | member {above docs : List String} {name : String} {members : List Member}
      {f : FieldDescriptor} {member : Member} {form : Form} :
      (.message outer m, above, .struct docs name members) ∈
        (declaredByFile file).zip (contentsOf [] items) →
      (f, member) ∈ (plainFields m).zip members → member.form? = some form →
      WrittenAs file items outer m above f form
  | variant {o : OneofDescriptor} {index : Nat} {above docs : List String} {name : String}
      {variants : List Variant} {f : FieldDescriptor} {v : Variant} :
      (.oneof outer m o index, above, .oneof docs name variants) ∈
        (declaredByFile file).zip (contentsOf [] items) →
      (f, v) ∈ (oneofMembers m index).zip variants →
      WrittenAs file items outer m above f (.elements v.element)

/-- The member stands at the place of the field in the structure of its message. -/
def StandsFor (file : FileDescriptor) (items : List Item) (outer : List String) (m : MessageBody)
    (above : List String) (f : FieldDescriptor) (member : Member) : Prop :=
  ∃ docs name members, (.message outer m, above, .struct docs name members) ∈
      (declaredByFile file).zip (contentsOf [] items) ∧
    (f, member) ∈ (plainFields m).zip members

/-- What a field is converted to, `depth` modules deep. Only fields outside of oneofs become
maps. -/
inductive ConvertedTo (ctx : Context) (depth : Nat) (f : FieldDescriptor) : Form → Prop
  | elements {element : Element} : f.isOneofMember = true ∨ ctx.mapFields? f = none →
      ctx.element f depth = .ok element → ConvertedTo ctx depth f (.elements element)
  | map {key value : FieldDescriptor} {type : Scalar} {element : Element} :
      f.isOneofMember = false → ctx.mapFields? f = some (key, value) →
      Context.mapKey f key = .ok type → ctx.mapValue f value depth = .ok element →
      ConvertedTo ctx depth f (.map type element)

/-- The field whose type is written out for `f`: the field itself, or the value of its entry
if it becomes a map. -/
inductive Spells (ctx : Context) (f : FieldDescriptor) : FieldDescriptor → Prop
  | self : f.isOneofMember = true ∨ ctx.mapFields? f = none → Spells ctx f f
  | value {key value : FieldDescriptor} : f.isOneofMember = false →
      ctx.mapFields? f = some (key, value) → Spells ctx f value

/-- The element of the form is the one of this field. -/
inductive ElementFor (ctx : Context) (f : FieldDescriptor) : Form → FieldDescriptor → Element → Prop
  | elements {element : Element} : ElementFor ctx f (.elements element) f element
  | value {key value : FieldDescriptor} {type : Scalar} {element : Element} :
      ctx.mapFields? f = some (key, value) → ElementFor ctx f (.map type element) value element

/-- The element is what the declared type of the field is written as. -/
inductive DeclaredAs (ctx : Context) (depth : Nat) (f : FieldDescriptor) : Element → Prop
  | scalar {type : Scalar} : f.type = .scalar type → DeclaredAs ctx depth f (.scalar type)
  | message {reference : Reference} {type : TypeExpr} : f.type = .message →
      ctx.reference f.typeName depth = .ok reference →
      DeclaredAs ctx depth f (.message reference type)
  | enum {reference : Reference} : f.type = .enum →
      ctx.reference f.typeName depth = .ok reference →
      DeclaredAs ctx depth f (.enumeration reference)

/-- The element is of the scalar type of the field, or refers to what its type name does. -/
inductive TypedAs (ctx : Context) (depth : Nat) (f : FieldDescriptor) : Element → Prop
  | scalar {type : Scalar} : f.type = .scalar type → TypedAs ctx depth f (.scalar type)
  | named {element : Element} {reference : Reference} : HasNamedType f →
      element.reference? = some reference → ctx.reference f.typeName depth = .ok reference →
      TypedAs ctx depth f element

theorem HasNamedType.not_scalar {f : FieldDescriptor} (h : HasNamedType f) (type : Scalar) :
    f.type ≠ .scalar type := by
  rcases h with h | h <;> simp [h]

theorem DeclaredAs.typedAs {ctx : Context} {depth : Nat} {f : FieldDescriptor} {element : Element}
    (h : DeclaredAs ctx depth f element) : TypedAs ctx depth f element := by
  cases h with
  | scalar htype => exact .scalar htype
  | message htype hreference => exact .named (.inl htype) rfl hreference
  | enum htype hreference => exact .named (.inr htype) rfl hreference

namespace TypedAs

variable {ctx : Context} {depth : Nat} {f : FieldDescriptor} {element : Element}

theorem exists_reference (h : TypedAs ctx depth f element) (hnamed : HasNamedType f) :
    ∃ reference, element.reference? = some reference ∧
      ctx.reference f.typeName depth = .ok reference := by
  cases h with
  | scalar htype => exact absurd htype (hnamed.not_scalar _)
  | named _ hreference href => exact ⟨_, hreference, href⟩

theorem of_reference (h : TypedAs ctx depth f element) {reference : Reference}
    (hreference : element.reference? = some reference) :
    HasNamedType f ∧ ctx.reference f.typeName depth = .ok reference := by
  cases h with
  | scalar _ => simp [Element.reference?] at hreference
  | named hnamed hreference' href =>
      obtain rfl := Option.some.inj (hreference'.symm.trans hreference)
      exact ⟨hnamed, href⟩

/-- Whether elements are scalar is decided by the declared type alone. -/
theorem scalar_iff (h : TypedAs ctx depth f element) (type : Scalar) :
    element = .scalar type ↔ f.type = .scalar type := by
  cases h with
  | scalar htype => simp [htype]
  | named hnamed hreference _ =>
      refine iff_of_false ?_ (hnamed.not_scalar type)
      rintro rfl
      simp [Element.reference?] at hreference

end TypedAs

theorem zip_append_right {α β : Type} {xs : List α} {ys : List β} (h : xs.length = ys.length)
    (zs : List β) : xs.zip (ys ++ zs) = xs.zip ys := by
  have happend : (xs ++ []).zip (ys ++ zs) = xs.zip ys ++ [].zip zs := List.zip_append h
  simpa using happend

namespace Context

variable {ctx : Context}

theorem convertedTo_of_member {place : String} {depth : Nat} {f : FieldDescriptor}
    {member : Member} (hplain : f.isOneofMember = false)
    (h : ctx.member place f depth = .ok member) :
    ∃ form, member.form? = some form ∧ ConvertedTo ctx depth f form := by
  obtain ⟨-, ⟨hmap, element, helement, rfl⟩ | ⟨_, _, _, _, hmap, hkey, hvalue, rfl⟩⟩ :=
    member_eq_ok h
  · exact ⟨_, rfl, .elements (.inr hmap) helement⟩
  · exact ⟨_, rfl, .map hplain hmap hkey hvalue⟩

theorem find?_of_inFile {name item : String} {depth supers : Nat} {modules : List String}
    (h : ctx.reference name depth = .ok (.inFile supers modules item)) :
    ∃ info, ctx.types.find? name = some info ∧ info.file = ctx.fileName := by
  obtain ⟨info, hinfo, ⟨hfile, -⟩ | ⟨-, _, -, heq⟩⟩ := reference_eq_ok h
  · exact ⟨info, hinfo, hfile⟩
  · simp at heq

theorem declaredAs_of_element {f : FieldDescriptor} {depth : Nat} {element : Element}
    (h : ctx.element f depth = .ok element) : DeclaredAs ctx depth f element := by
  obtain ⟨type, htype, rfl⟩ | ⟨htype, -, h⟩ | ⟨htype, -, h⟩ := element_eq_ok h
  · exact .scalar htype
  · obtain ⟨reference, type, hreference, -, rfl⟩ := messageElement_eq_ok h
    exact .message htype hreference
  · obtain ⟨reference, hreference, rfl⟩ := enumElement_eq_ok h
    exact .enum htype hreference

theorem declaredAs_of_mapValue {f value : FieldDescriptor} {depth : Nat} {element : Element}
    (h : ctx.mapValue f value depth = .ok element) : DeclaredAs ctx depth value element := by
  obtain ⟨type, htype, rfl⟩ | ⟨htype, h⟩ | ⟨htype, h⟩ := mapValue_eq_ok h
  · exact .scalar htype
  · obtain ⟨reference, type, hreference, -, rfl⟩ := messageElement_eq_ok h
    exact .message htype hreference
  · obtain ⟨reference, hreference, rfl⟩ := enumElement_eq_ok h
    exact .enum htype hreference

theorem typedAs_of_element {f : FieldDescriptor} {depth : Nat} {element : Element}
    (h : ctx.element f depth = .ok element) : TypedAs ctx depth f element :=
  (declaredAs_of_element h).typedAs

theorem typedAs_of_mapValue {f value : FieldDescriptor} {depth : Nat} {element : Element}
    (h : ctx.mapValue f value depth = .ok element) : TypedAs ctx depth value element :=
  (declaredAs_of_mapValue h).typedAs

end Context

namespace ConvertedTo

variable {ctx : Context} {depth : Nat} {f : FieldDescriptor} {form : Form}

theorem exists_elementFor (h : ConvertedTo ctx depth f form) {g : FieldDescriptor}
    (hg : Spells ctx f g) : ∃ element, ElementFor ctx f form g element := by
  cases h with
  | elements hself _ =>
      cases hg with
      | self => exact ⟨_, .elements⟩
      | value hone hmap => simp [hone, hmap] at hself
  | map hone hmap _ _ =>
      cases hg with
      | self hself => simp [hone, hmap] at hself
      | value _ hmap' =>
          obtain ⟨rfl, rfl⟩ := Prod.mk.inj (Option.some.inj (hmap.symm.trans hmap'))
          exact ⟨_, .value hmap⟩

theorem typedAs_of_elementFor (h : ConvertedTo ctx depth f form) {g : FieldDescriptor}
    {element : Element} (hg : ElementFor ctx f form g element) :
    Spells ctx f g ∧ TypedAs ctx depth g element := by
  cases h with
  | elements hself helement =>
      obtain _ | _ := hg
      exact ⟨.self hself, Context.typedAs_of_element helement⟩
  | map hone hmap _ hvalue =>
      obtain _ | hmap' := hg
      obtain ⟨rfl, rfl⟩ := Prod.mk.inj (Option.some.inj (hmap.symm.trans hmap'))
      exact ⟨.value hone hmap, Context.typedAs_of_mapValue hvalue⟩

end ConvertedTo

namespace FileEmission

variable {ctx : Context} {file : FileDescriptor}

theorem exists_zip_of_within (e : FileEmission ctx file) {above : List String} {item : Item}
    (h : Within e.items above item) (hitem : ¬item.IsModule) :
    ∃ d ∈ declaredByFile file, (d, above, item) ∈
      (declaredByFile file).zip (contentsOf [] e.items) ∧ Yields ctx d (above, item) :=
  Outcome.exists_left_of_forall₂ (Outcome.forall₂_mem_zip e.yields_items) _
    ((mem_contentsOf_iff above item [] e.items).mpr ⟨above, rfl, h, hitem⟩)

theorem member_of_standsFor (e : FileEmission ctx file) {outer above : List String}
    {m : MessageBody} {f : FieldDescriptor} {member : Member}
    (h : StandsFor file e.items outer m above f member) :
    ∃ place, ctx.member place f above.length = .ok member := by
  obtain ⟨docs, name, members, hmem, hfield⟩ := h
  obtain @⟨_, _, place, fields, -, hfields⟩ | _ | _ :=
    Outcome.of_mem_zip_of_forall₂ e.yields_items hmem
  rw [zip_append_right hfields.length_eq] at hfield
  rw [List.length_map]
  exact ⟨place, Outcome.of_mem_zip_of_forall₂ hfields hfield⟩

theorem exists_standsFor (e : FileEmission ctx file) {outer : List String} {m : MessageDescriptor}
    (hm : EmittedAt file outer m) {f : FieldDescriptor} (hf : f ∈ plainFields m.body) :
    ∃ above member, StandsFor file e.items outer m.body above f member := by
  have hd : .message outer m.body ∈ declaredByFile file :=
    (mem_declaredByFile_iff _ _).mpr (.inl ⟨outer, m, hm, .message⟩)
  obtain ⟨entry, -, hmem, hyields⟩ :=
    Outcome.exists_right_of_forall₂ (Outcome.forall₂_mem_zip e.yields_items) _ hd
  obtain ⟨-, hfields⟩ | _ | _ := hyields
  obtain ⟨member, -, hmember, -⟩ :=
    Outcome.exists_right_of_forall₂ (Outcome.forall₂_mem_zip hfields) f hf
  rw [← zip_append_right hfields.length_eq] at hmember
  exact ⟨_, member, _, _, _, hmem, hmember⟩

/-- What is written for a field is what it is converted to, as deep as it is written. -/
theorem convertedTo_of_writtenAs (e : FileEmission ctx file) {outer above : List String}
    {m : MessageBody} {f : FieldDescriptor} {form : Form}
    (h : WrittenAs file e.items outer m above f form) :
    (∃ n, EmittedAt file outer n ∧ n.body = m) ∧ f ∈ m.fields ∧
      ConvertedTo ctx above.length f form := by
  have hmessage {d : Declared} (hd : d ∈ declaredByFile file)
      (heq : d = .message outer m ∨ ∃ o index, d = .oneof outer m o index) :
      ∃ n, EmittedAt file outer n ∧ n.body = m := by
    rcases (mem_declaredByFile_iff _ _).mp hd with ⟨_, n, hn, hof⟩ | ⟨n, -, rfl⟩
    · cases hof with
      | message =>
          obtain ⟨rfl, rfl⟩ : _ = outer ∧ _ = m := by simpa using heq
          exact ⟨n, hn, rfl⟩
      | oneof =>
          obtain ⟨rfl, rfl⟩ : _ = outer ∧ _ = m := by simpa using heq
          exact ⟨n, hn, rfl⟩
      | enum => simp at heq
    · simp at heq
  cases h with
  | member hmem hfield hform =>
      refine ⟨hmessage (List.of_mem_zip hmem).1 (.inl rfl), ?_⟩
      obtain ⟨place, hok⟩ := e.member_of_standsFor ⟨_, _, _, hmem, hfield⟩
      obtain ⟨hf, hplain⟩ := List.mem_filter.mp (List.of_mem_zip hfield).1
      obtain ⟨form', hform', hconverted⟩ :=
        Context.convertedTo_of_member (by simpa using hplain) hok
      obtain rfl := Option.some.inj (hform'.symm.trans hform)
      exact ⟨hf, hconverted⟩
  | variant hmem hvariant =>
      refine ⟨hmessage (List.of_mem_zip hmem).1 (.inr ⟨_, _, rfl⟩), ?_⟩
      obtain _ | @⟨_, _, _, _, _, _, _, hvariants⟩ | _ :=
        Outcome.of_mem_zip_of_forall₂ e.yields_items hmem
      have hok := Outcome.of_mem_zip_of_forall₂ hvariants hvariant
      obtain ⟨hf, hone, -⟩ := (mem_oneofMembers_iff _ _ _).mp (List.of_mem_zip hvariant).1
      refine ⟨hf, .elements (.inl hone) ?_⟩
      rw [List.length_map, List.length_append, List.length_singleton]
      exact Context.element_of_variant hok

/-- Every element that is written is that of a field. -/
theorem exists_elementFor_of_writes (e : FileEmission ctx file) {above : List String}
    {element : Element} (h : Writes e.items above element) :
    ∃ outer m f form g, WrittenAs file e.items outer m above f form ∧
      ElementFor ctx f form g element := by
  have hmember {docs : List String} {name : String} {members : List Member} {member : Member}
      {form : Form} (hwithin : Within e.items above (.struct docs name members))
      (hmem : member ∈ members) (hform : member.form? = some form) :
      ∃ outer m f, WrittenAs file e.items outer m above f form := by
    obtain ⟨d, -, hd, hyields⟩ := e.exists_zip_of_within hwithin (by simp [Item.IsModule])
    cases hyields with
    | @message outer m place fields _ hfields =>
        rcases List.mem_append.mp hmem with hmem | hmem
        · obtain ⟨f, -, hf, -⟩ :=
            Outcome.exists_left_of_forall₂ (Outcome.forall₂_mem_zip hfields) member hmem
          rw [← zip_append_right hfields.length_eq] at hf
          exact ⟨outer, m, f, .member hd hf hform⟩
        · obtain ⟨p, -, rfl⟩ := List.mem_map.mp hmem
          simp [oneofMember, Member.form?] at hform
    | enum hitem =>
        obtain ⟨_, heq, -⟩ := Context.enumItem_eq_ok hitem
        simp at heq
  cases h with
  | field hwithin hmem =>
      obtain ⟨outer, m, f, hwritten⟩ := hmember hwithin hmem rfl
      exact ⟨outer, m, f, _, f, hwritten, .elements⟩
  | mapValue hwithin hmem =>
      obtain ⟨outer, m, f, hwritten⟩ := hmember hwithin hmem rfl
      obtain ⟨-, -, hconverted⟩ := e.convertedTo_of_writtenAs hwritten
      obtain _ | ⟨_, hmap, _, _⟩ := hconverted
      exact ⟨outer, m, f, _, _, hwritten, .value hmap⟩
  | variant hwithin hv =>
      obtain ⟨d, -, hd, hyields⟩ := e.exists_zip_of_within hwithin (by simp [Item.IsModule])
      cases hyields with
      | @oneof outer m o index place docs variants hvariants =>
          obtain ⟨f, -, hf, -⟩ :=
            Outcome.exists_left_of_forall₂ (Outcome.forall₂_mem_zip hvariants) _ hv
          exact ⟨outer, m, f, _, f, .variant hd hf, .elements⟩
      | enum hitem =>
          obtain ⟨_, heq, -⟩ := Context.enumItem_eq_ok hitem
          simp at heq

theorem exists_writtenAs_of_plain (e : FileEmission ctx file) {outer : List String}
    {m : MessageDescriptor} (hm : EmittedAt file outer m) {f : FieldDescriptor}
    (hf : f ∈ plainFields m.body) :
    ∃ above form, WrittenAs file e.items outer m.body above f form := by
  obtain ⟨above, member, hstands⟩ := e.exists_standsFor hm hf
  obtain ⟨place, hok⟩ := e.member_of_standsFor hstands
  obtain ⟨docs, name, members, hmem, hmember⟩ := hstands
  have hplain : f.isOneofMember = false := by simpa using (List.mem_filter.mp hf).2
  obtain ⟨form, hform, -⟩ := Context.convertedTo_of_member hplain hok
  exact ⟨above, form, .member hmem hmember hform⟩

theorem exists_writtenAs_of_oneof (e : FileEmission ctx file) {outer : List String}
    {m : MessageDescriptor} (hm : EmittedAt file outer m) {p : OneofDescriptor × Nat}
    (hp : p ∈ spelledOneofs m.body) {f : FieldDescriptor} (hf : f ∈ oneofMembers m.body p.2) :
    ∃ above element, WrittenAs file e.items outer m.body above f (.elements element) := by
  have hd : .oneof outer m.body p.1 p.2 ∈ declaredByFile file :=
    (mem_declaredByFile_iff _ _).mpr (.inl ⟨outer, m, hm, .oneof hp⟩)
  obtain ⟨entry, -, hmem, hyields⟩ :=
    Outcome.exists_right_of_forall₂ (Outcome.forall₂_mem_zip e.yields_items) _ hd
  obtain _ | hvariants | _ := hyields
  obtain ⟨v, -, hv, -⟩ :=
    Outcome.exists_right_of_forall₂ (Outcome.forall₂_mem_zip hvariants) f hf
  exact ⟨_, _, .variant hmem hv⟩

/-- Every field of a message is written. -/
theorem exists_writtenAs (e : FileEmission ctx file) {outer : List String}
    {m : MessageDescriptor} (hm : EmittedAt file outer m) (hrange : OneofsInRange m.body)
    {f : FieldDescriptor} (hf : f ∈ m.body.fields) :
    ∃ above form, WrittenAs file e.items outer m.body above f form := by
  cases hone : f.isOneofMember with
  | true =>
      obtain ⟨p, hp, hmember⟩ := exists_spelledOneof_of_isOneofMember hrange hf hone
      obtain ⟨above, element, hwritten⟩ := e.exists_writtenAs_of_oneof hm hp hmember
      exact ⟨above, _, hwritten⟩
  | false => exact e.exists_writtenAs_of_plain hm (List.mem_filter.mpr ⟨hf, by simp [hone]⟩)

end FileEmission

end Generator

end Protogen
