import Protogen.Generator.Backend
import Protogen.Proofs.Descriptor.Nesting
import Protogen.Proofs.Generator.Members
import Protogen.Proofs.Request.References
import Protogen.Proofs.Source.ModuleTree

/-!
# What is generated for a message

`Emission` holds the parts that the items of a message are put together from. Read one
way, every structure and every oneof among the items of a file comes from the fields of
a message, generated for as many modules as it lies deep. Read the other way, every
message that is no map entry and lies in none has its structure in the module that the
names of the messages around it lead to.
-/

namespace Protogen

namespace Generator

open Descriptor Name Source Request

theorem of_structName (m : MessageBody) (id : String) (h : Context.structName m = .ok id) :
    isIdentifier m.name ∧ id = typeName m.name ∧ IsPathName id := by
  obtain ⟨hcheck, h⟩ := (Outcome.then_eq_ok_iff _ _ _).mp h
  have hname := isIdentifier_of_named _ _ hcheck
  split at h
  · simp at h
  · exact ⟨hname, typeName_of_named m.name id hname h⟩

/-- The parts of the items of a message. -/
structure Emission (ctx : Context) (place : String) (depth : Nat) (m : MessageDescriptor) where
  members : List Member
  oneofs : Parts
  messages : List Item
  enums : List Item
  isIdentifier_name : isIdentifier m.name
  isPathName_typeName : IsPathName (typeName m.name)
  members_ok : (m.body.fields.filter fun f => !f.isOneofMember).mapM
    (fun f => ctx.member place f depth) = .ok members
  oneofs_ok : ctx.oneofsParts m.body place depth 0 m.body.oneofs = .ok oneofs
  messages_ok : ctx.nestedItems place (depth + 1) m.nested = .ok messages
  enums_ok : m.body.enums.mapM (fun e => ctx.enumItem (placeIn place e.name) e) = .ok enums
  module_ok : oneofs.items ++ messages ++ enums ≠ [] → IsPathName (moduleName m.name)

namespace Emission

variable {ctx : Context} {place : String} {depth : Nat} {m : MessageDescriptor}

/-- What stands in the module of the message. -/
def inner (e : Emission ctx place depth m) : List Item := e.oneofs.items ++ e.messages ++ e.enums

def module (e : Emission ctx place depth m) : List Item :=
  if e.inner.isEmpty then [] else [.module [Context.moduleDoc m.name] (moduleName m.name) e.inner]

/-- The structure of the message. -/
def struct (e : Emission ctx place depth m) : Item :=
  .struct (ctx.docs place) (typeName m.name) (e.members ++ e.oneofs.members)

def items (e : Emission ctx place depth m) : List Item := e.struct :: e.module

theorem exists_of_messageItems (items : List Item)
    (h : ctx.messageItems place depth m = .ok items) :
    ∃ e : Emission ctx place depth m, items = e.items := by
  obtain ⟨body, nested⟩ := m
  rw [Context.messageItems] at h
  obtain ⟨name, hname, h⟩ := (Outcome.bind_eq_ok_iff _ _ _).mp h
  obtain ⟨members, hmembers, h⟩ := (Outcome.bind_eq_ok_iff _ _ _).mp h
  obtain ⟨oneofs, honeofs, h⟩ := (Outcome.bind_eq_ok_iff _ _ _).mp h
  obtain ⟨messages, hmessages, h⟩ := (Outcome.bind_eq_ok_iff _ _ _).mp h
  obtain ⟨enums, henums, h⟩ := (Outcome.bind_eq_ok_iff _ _ _).mp h
  obtain ⟨module, hmodule, h⟩ := (Outcome.bind_eq_ok_iff _ _ _).mp h
  obtain ⟨hidentifier, rfl, hpath⟩ := of_structName body name hname
  obtain rfl := Except.ok.inj h
  rw [Context.nestedModule] at hmodule
  split at hmodule
  · rename_i hempty
    obtain rfl := Except.ok.inj hmodule
    refine ⟨⟨members, oneofs, messages, enums, hidentifier, hpath, hmembers, honeofs, hmessages,
      henums, fun hne => absurd (List.isEmpty_iff.mp hempty) hne⟩, ?_⟩
    exact congrArg (Item.struct _ _ _ :: ·) (if_pos hempty).symm
  · rename_i hempty
    obtain ⟨id, hid, hmodule⟩ := (Outcome.bind_eq_ok_iff _ _ _).mp hmodule
    obtain ⟨rfl, hmodulePath⟩ := moduleName_of_named body.name id hidentifier hid
    obtain rfl := Except.ok.inj hmodule
    refine ⟨⟨members, oneofs, messages, enums, hidentifier, hpath, hmembers, honeofs, hmessages,
      henums, fun _ => hmodulePath⟩, ?_⟩
    exact congrArg (Item.struct _ _ _ :: ·) (if_neg hempty).symm

/-- An item of the message is its structure, or its module, or stands in the module. -/
theorem within_items_iff (e : Emission ctx place depth m) (path : List String) (item : Item) :
    Within e.items path item ↔
      (path = [] ∧ (item = e.struct ∨ item ∈ e.module)) ∨
        ∃ rest, path = moduleName m.name :: rest ∧ Within e.inner rest item := by
  constructor
  · intro h
    cases h with
    | here hitem => exact .inl ⟨rfl, List.mem_cons.mp hitem⟩
    | inside hmodule hinner =>
        rcases List.mem_cons.mp hmodule with hstruct | hmodule
        · simp [struct] at hstruct
        · rw [module] at hmodule
          split at hmodule
          · simp at hmodule
          · obtain ⟨-, rfl, rfl⟩ := Item.module.inj (List.mem_singleton.mp hmodule)
            exact .inr ⟨_, rfl, hinner⟩
  · rintro (⟨rfl, hitem⟩ | ⟨rest, rfl, hinner⟩)
    · exact .here (List.mem_cons.mpr hitem)
    · have hne : ¬e.inner.isEmpty := by
        intro hempty
        rw [List.isEmpty_iff.mp hempty] at hinner
        exact Within.not_nil hinner
      have hmodule : .module [Context.moduleDoc m.name] (moduleName m.name) e.inner ∈ e.items := by
        rw [items, module, if_neg hne]
        exact List.mem_cons_of_mem _ (List.mem_singleton_self _)
      exact .inside hmodule hinner

theorem within_struct (e : Emission ctx place depth m) : Within e.items [] e.struct :=
  (e.within_items_iff _ _).mpr (.inl ⟨rfl, .inl rfl⟩)

end Emission

/-- A member of a structure comes from a field with the property `P`, written for a
place `depth` modules deep. -/
def MemberFrom (ctx : Context) (P : FieldDescriptor → Prop) (depth : Nat) : Member → Prop
  | .field _ _ _ element _ => ∃ f, P f ∧ ctx.element f depth = .ok element
  | .map _ _ _ _ value =>
    ∃ f key v, P f ∧ ctx.mapFields? f = some (key, v) ∧ ctx.mapValue f v depth = .ok value
  | .oneof _ _ _ _ _ => True

/-- The elements of an item come from fields with the property `P`. -/
def ItemFrom (ctx : Context) (P : FieldDescriptor → Prop) (depth : Nat) : Item → Prop
  | .struct _ _ members => ∀ member ∈ members, MemberFrom ctx P depth member
  | .oneof _ _ variants => ∀ v ∈ variants, ∃ f, P f ∧ ctx.element f depth = .ok v.element
  | .enum _ _ _ | .module _ _ _ => True

/-- The same for all items of a tree of which the root is `depth` modules deep. -/
def TreeFrom (ctx : Context) (P : FieldDescriptor → Prop) (depth : Nat) (items : List Item) :
    Prop :=
  ∀ path item, Within items path item → ItemFrom ctx P (depth + path.length) item

theorem treeFrom_append {ctx : Context} {P : FieldDescriptor → Prop} {depth : Nat}
    {items more : List Item} (h : TreeFrom ctx P depth items) (h' : TreeFrom ctx P depth more) :
    TreeFrom ctx P depth (items ++ more) := by
  intro path item hitem
  rcases Within.append_iff.mp hitem with hitem | hitem
  · exact h path item hitem
  · exact h' path item hitem

/-- A tree without modules is its items. -/
theorem within_of_flat {items : List Item} (hflat : ∀ docs name inner,
    Item.module docs name inner ∉ items) {path : List String} {item : Item}
    (h : Within items path item) : path = [] ∧ item ∈ items := by
  cases h with
  | here hitem => exact ⟨rfl, hitem⟩
  | inside hmodule _ => exact absurd hmodule (hflat _ _ _)

theorem exists_of_mem_mapM {α β : Type} (f : α → Generated β) (xs : List α) (ys : List β)
    (h : xs.mapM f = .ok ys) : ∀ y ∈ ys, ∃ x ∈ xs, f x = .ok y :=
  Outcome.exists_left_of_forall₂ ((Outcome.mapM_eq_ok_iff f xs ys).mp h)

theorem exists_of_mapM_mem {α β : Type} (f : α → Generated β) (xs : List α) (ys : List β)
    (h : xs.mapM f = .ok ys) : ∀ x ∈ xs, ∃ y ∈ ys, f x = .ok y :=
  Outcome.exists_right_of_forall₂ ((Outcome.mapM_eq_ok_iff f xs ys).mp h)

namespace Context

variable {ctx : Context}

theorem memberFrom_member {P : FieldDescriptor → Prop} {place : String} {depth : Nat}
    {f : FieldDescriptor} {member : Member} (hf : P f)
    (h : ctx.member place f depth = .ok member) : MemberFrom ctx P depth member := by
  obtain ⟨-, ⟨-, element, helement, rfl⟩ | ⟨key, value, _, element, hmap, -, hvalue, rfl⟩⟩ :=
    member_eq_ok h
  · exact ⟨f, hf, helement⟩
  · exact ⟨f, key, value, hf, hmap, hvalue⟩

theorem element_of_variant {place : String} {depth : Nat} {f : FieldDescriptor} {v : Variant}
    (h : ctx.variant place depth f = .ok v) : ctx.element f (depth + 1) = .ok v.element := by
  obtain ⟨-, element, helement, rfl⟩ := variant_eq_ok h
  exact helement

/-- The member and the item for one oneof; the member leads to the item. -/
theorem oneofParts_eq_ok {m : MessageBody} {place : String} {depth : Nat} {name : String}
    {fields : List FieldDescriptor} {parts : Parts} (hm : isIdentifier m.name)
    (h : ctx.oneofParts m place depth name fields = .ok parts) :
    ∃ variants, fields.mapM (ctx.variant place depth) = .ok variants ∧
      IsPathName (moduleName m.name) ∧ IsPathName (typeName name) ∧
      parts = ⟨[.oneof (ctx.docs (placeIn place name)) (fieldName name) (moduleName m.name)
          (typeName name) (fields.map FieldDescriptor.number)],
        [.oneof (ctx.docs (placeIn place name)) (typeName name) variants]⟩ := by
  obtain ⟨hcheck, h⟩ := (Outcome.then_eq_ok_iff _ _ _).mp h
  obtain ⟨member, hmember, h⟩ := (Outcome.bind_eq_ok_iff _ _ _).mp h
  obtain ⟨type, htype, h⟩ := (Outcome.bind_eq_ok_iff _ _ _).mp h
  obtain ⟨module, hmodule, h⟩ := (Outcome.bind_eq_ok_iff _ _ _).mp h
  obtain ⟨variants, hvariants, h⟩ := (Outcome.bind_eq_ok_iff _ _ _).mp h
  obtain rfl := fieldName_of_named _ member hmember
  obtain ⟨rfl, htypePath⟩ := typeName_of_named name type (isIdentifier_of_named _ _ hcheck) htype
  obtain ⟨rfl, hmodulePath⟩ := moduleName_of_named m.name module hm hmodule
  exact ⟨variants, hvariants, hmodulePath, htypePath, (Except.ok.inj h).symm⟩

/-- The parts for the oneofs from an index on, one for each that has members. -/
theorem exists_pieces_of_oneofsParts {m : MessageBody} {place : String} {depth : Nat}
    (index : Nat) (os : List OneofDescriptor) (parts : Parts)
    (h : ctx.oneofsParts m place depth index os = .ok parts) :
    ∃ pieces : List Parts, parts = ⟨pieces.flatMap Parts.members, pieces.flatMap Parts.items⟩ ∧
      List.Forall₂ (fun p piece =>
        ctx.oneofParts m place depth (OneofDescriptor.name p.1) (oneofMembers m p.2) = .ok piece)
        ((os.zipIdx index).filter fun p => !(oneofMembers m p.2).isEmpty) pieces := by
  induction os generalizing index parts with
  | nil =>
      obtain rfl := Except.ok.inj h
      exact ⟨[], rfl, .nil⟩
  | cons o os ih =>
      rw [oneofsParts] at h
      rw [List.zipIdx_cons, List.filter_cons]
      split at h
      · rename_i hempty
        simpa [hempty] using ih _ _ h
      · rename_i hsome
        obtain ⟨first, hfirst, h⟩ := (Outcome.bind_eq_ok_iff _ _ _).mp h
        obtain ⟨rest, hrest, h⟩ := (Outcome.bind_eq_ok_iff _ _ _).mp h
        obtain rfl := Except.ok.inj h
        obtain ⟨pieces, rfl, hpieces⟩ := ih _ _ hrest
        rw [if_pos (by simpa using hsome)]
        exact ⟨first :: pieces, rfl, .cons hfirst hpieces⟩

theorem oneofsParts_eq_ok {m : MessageBody} {place : String} {depth : Nat} (index : Nat)
    (os : List OneofDescriptor) (parts : Parts)
    (h : ctx.oneofsParts m place depth index os = .ok parts) :
    (∀ member ∈ parts.members, ∃ i o part, ctx.oneofParts m place depth (OneofDescriptor.name o)
        (oneofMembers m i) = .ok part ∧ member ∈ part.members ∧ part.items ⊆ parts.items) ∧
      ∀ item ∈ parts.items, ∃ i o part, ctx.oneofParts m place depth (OneofDescriptor.name o)
        (oneofMembers m i) = .ok part ∧ item ∈ part.items := by
  obtain ⟨pieces, rfl, hpieces⟩ := exists_pieces_of_oneofsParts index os parts h
  constructor
  · intro member hmember
    obtain ⟨piece, hpiece, hmem⟩ := List.mem_flatMap.mp hmember
    obtain ⟨p, -, hp⟩ := Outcome.exists_left_of_forall₂ hpieces piece hpiece
    exact ⟨p.2, p.1, piece, hp, hmem, fun item hitem => List.mem_flatMap.mpr ⟨piece, hpiece, hitem⟩⟩
  · intro item hitem
    obtain ⟨piece, hpiece, hmem⟩ := List.mem_flatMap.mp hitem
    obtain ⟨p, -, hp⟩ := Outcome.exists_left_of_forall₂ hpieces piece hpiece
    exact ⟨p.2, p.1, piece, hp, hmem⟩

theorem enumItem_eq_ok {place : String} {e : EnumDescriptor} {item : Item}
    (h : ctx.enumItem place e = .ok item) :
    ∃ variants, item = .enum (ctx.docs place) (typeName e.name) variants ∧
      IsPathName (typeName e.name) ∧
      (firstOfNumber [] e.values).mapM (ctx.enumVariant place e) = .ok variants := by
  obtain ⟨hcheck, h⟩ := (Outcome.then_eq_ok_iff _ _ _).mp h
  obtain ⟨name, hname, h⟩ := (Outcome.bind_eq_ok_iff _ _ _).mp h
  obtain ⟨variants, hvariants, h⟩ := (Outcome.bind_eq_ok_iff _ _ _).mp h
  obtain ⟨rfl, hpath⟩ := typeName_of_named e.name name (isIdentifier_of_named _ _ hcheck) hname
  split at h
  · simp at h
  · exact ⟨variants, (Except.ok.inj h).symm, hpath, hvariants⟩

theorem oneof_of_mem_oneofs {place : String} {depth : Nat} {m : MessageDescriptor}
    (e : Emission ctx place depth m) {item : Item} (hitem : item ∈ e.oneofs.items) :
    ∃ docs name variants i, item = .oneof docs name variants ∧
      (oneofMembers m.body i).mapM (ctx.variant place depth) = .ok variants := by
  obtain ⟨i, o, part, hpart, hmem⟩ := (oneofsParts_eq_ok 0 _ _ e.oneofs_ok).2 item hitem
  obtain ⟨variants, hvariants, -, -, rfl⟩ := oneofParts_eq_ok e.isIdentifier_name hpart
  obtain rfl := List.mem_singleton.mp hmem
  exact ⟨_, _, variants, i, rfl, hvariants⟩

theorem enum_of_mem_enumItems {place : EnumDescriptor → String} {es : List EnumDescriptor}
    {items : List Item} (h : es.mapM (fun e => ctx.enumItem (place e) e) = .ok items) :
    ∀ item ∈ items, ∃ docs name variants, item = .enum docs name variants := by
  intro item hitem
  obtain ⟨e, -, he⟩ := exists_of_mem_mapM _ _ _ h item hitem
  obtain ⟨variants, rfl, -⟩ := enumItem_eq_ok he
  exact ⟨_, _, variants, rfl⟩

/-- Enums stand in no modules of their own, and no fields are written in them. -/
theorem enumItems_flat {items : List Item}
    (h : ∀ item ∈ items, ∃ docs name variants, item = Item.enum docs name variants)
    (docs : List String) (name : String) (inner : List Item) :
    Item.module docs name inner ∉ items := by
  intro hmem
  obtain ⟨_, _, _, heq⟩ := h _ hmem
  simp at heq

theorem treeFrom_enumItems {P : FieldDescriptor → Prop} {depth : Nat} {items : List Item}
    (h : ∀ item ∈ items, ∃ docs name variants, item = .enum docs name variants) :
    TreeFrom ctx P depth items := by
  intro path item hitem
  obtain ⟨rfl, hmem⟩ := within_of_flat (enumItems_flat h) hitem
  obtain ⟨docs, name, variants, rfl⟩ := h item hmem
  trivial

theorem oneofs_flat {place : String} {depth : Nat} {m : MessageDescriptor}
    (e : Emission ctx place depth m) (docs : List String) (name : String) (inner : List Item) :
    Item.module docs name inner ∉ e.oneofs.items := by
  intro h
  obtain ⟨_, _, _, _, heq, -⟩ := oneof_of_mem_oneofs e h
  simp at heq

theorem module_of_mem_module {place : String} {depth : Nat} {m : MessageDescriptor}
    (e : Emission ctx place depth m) {item : Item} (hitem : item ∈ e.module) :
    ∃ docs name inner, item = .module docs name inner := by
  rw [Emission.module] at hitem
  split at hitem
  · simp at hitem
  · exact ⟨_, _, _, List.mem_singleton.mp hitem⟩

mutual

/-- The elements in the items of a message come from its fields and those of the
messages nested in it, each written for the depth that it stands at. -/
theorem treeFrom_messageItems (P : FieldDescriptor → Prop) (scope : String) :
    ∀ (place : String) (depth : Nat) (m : MessageDescriptor) (items : List Item),
    (∀ p ∈ messageFields scope m, P p.2) → ctx.messageItems place depth m = .ok items →
    TreeFrom ctx P depth items
  | place, depth, ⟨m, nested⟩, items => by
      intro hP h
      obtain ⟨e, rfl⟩ := Emission.exists_of_messageItems items h
      rw [messageFields, List.forall_mem_append, List.forall_mem_map] at hP
      have hmessages := treeFrom_nestedItems P _ place (depth + 1) nested e.messages hP.2
        e.messages_ok
      have honeofs : TreeFrom ctx P (depth + 1) e.oneofs.items := by
        intro path item hitem
        obtain ⟨rfl, hmem⟩ := within_of_flat (oneofs_flat e) hitem
        obtain ⟨docs, name, variants, i, rfl, hvariants⟩ := oneof_of_mem_oneofs e hmem
        intro v hv
        obtain ⟨f, hf, hvariant⟩ := exists_of_mem_mapM _ _ _ hvariants v hv
        exact ⟨f, hP.1 f (List.mem_of_mem_filter hf), element_of_variant hvariant⟩
      have henums : TreeFrom ctx P (depth + 1) e.enums :=
        treeFrom_enumItems (enum_of_mem_enumItems e.enums_ok)
      have hinner := treeFrom_append (treeFrom_append honeofs hmessages) henums
      intro path item hitem
      rcases (e.within_items_iff path item).mp hitem with ⟨rfl, rfl | hmodule⟩ | ⟨rest, rfl, hrest⟩
      · refine List.forall_mem_append.mpr ⟨fun member hmember => ?_, fun member hmember => ?_⟩
        · obtain ⟨f, hf, hmem⟩ := exists_of_mem_mapM _ _ _ e.members_ok member hmember
          exact memberFrom_member (hP.1 f (List.mem_of_mem_filter hf)) hmem
        · obtain ⟨i, o, part, hpart, hmem, -⟩ :=
            (oneofsParts_eq_ok 0 _ _ e.oneofs_ok).1 member hmember
          obtain ⟨variants, -, -, -, rfl⟩ := oneofParts_eq_ok e.isIdentifier_name hpart
          obtain rfl := List.mem_singleton.mp hmem
          trivial
      · obtain ⟨docs, name, inner, rfl⟩ := module_of_mem_module e hmodule
        trivial
      · have hfrom := hinner rest item hrest
        rw [List.length_cons, Nat.add_comm rest.length 1, ← Nat.add_assoc]
        exact hfrom

theorem treeFrom_nestedItems (P : FieldDescriptor → Prop) (scope : String) :
    ∀ (place : String) (depth : Nat) (ms : List MessageDescriptor) (items : List Item),
    (∀ p ∈ messagesFields scope ms, P p.2) → ctx.nestedItems place depth ms = .ok items →
    TreeFrom ctx P depth items
  | place, depth, [], items => by
      intro _ h
      obtain rfl := Except.ok.inj h
      exact fun path item hitem => absurd hitem Within.not_nil
  | place, depth, m :: ms, items => by
      intro hP h
      rw [messagesFields, List.forall_mem_append] at hP
      rw [nestedItems] at h
      split at h
      · exact treeFrom_nestedItems P scope place depth ms items hP.2 h
      · obtain ⟨first, hfirst, h⟩ := (Outcome.bind_eq_ok_iff _ _ _).mp h
        obtain ⟨rest, hrest, h⟩ := (Outcome.bind_eq_ok_iff _ _ _).mp h
        obtain rfl := Except.ok.inj h
        exact treeFrom_append (treeFrom_messageItems P scope _ depth m first hP.1 hfirst)
          (treeFrom_nestedItems P scope place depth ms rest hP.2 hrest)

end

theorem treeFrom_rootItems (P : FieldDescriptor → Prop) (scope : String)
    (ms : List MessageDescriptor) (items : List Item) (hP : ∀ p ∈ messagesFields scope ms, P p.2)
    (h : rootItems ctx ms = .ok items) : TreeFrom ctx P 0 items := by
  induction ms generalizing items with
  | nil =>
      obtain rfl := Except.ok.inj h
      exact fun path item hitem => absurd hitem Within.not_nil
  | cons m ms ih =>
      rw [messagesFields, List.forall_mem_append] at hP
      obtain ⟨first, hfirst, h⟩ := (Outcome.bind_eq_ok_iff _ _ _).mp h
      obtain ⟨rest, hrest, h⟩ := (Outcome.bind_eq_ok_iff _ _ _).mp h
      obtain rfl := Except.ok.inj h
      exact treeFrom_append (treeFrom_messageItems P scope _ 0 m first hP.1 hfirst)
        (ih rest hP.2 hrest)

end Context

end Generator

end Protogen
