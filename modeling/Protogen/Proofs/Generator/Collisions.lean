import Protogen.Proofs.Generator.Census
import Protogen.Proofs.Name.Distinct
import Protogen.Proofs.Request.Linked

/-!
# Items with one name

Nothing keeps two declarations of a file apart when their names are converted to one
identifier. The items of a file are free of such collisions exactly if the converted names
of what stands beside each other are distinct in every message. The link of a request
rules them out between the plain fields of a message only, and not under the rules of
proto2.
-/

namespace Protogen

namespace Source

/-- The identifier of a structure or an enumeration. -/
def Item.typeName? : Item → Option String
  | .struct _ name _ | .oneof _ name _ | .enum _ name _ => some name
  | .module _ _ _ => none

def Item.moduleName? : Item → Option String
  | .module _ name _ => some name
  | .struct _ _ _ | .oneof _ _ _ | .enum _ _ _ => none

/-- The items of one module have distinct names, and so have the members of each structure
among them. -/
structure NamesApart (items : List Item) : Prop where
  types : (items.filterMap Item.typeName?).Nodup
  modules : (items.filterMap Item.moduleName?).Nodup
  members : ∀ docs name members, .struct docs name members ∈ items →
    (members.map Member.name).Nodup

/-- The items stand in one module: at the root of the file or deeper. -/
inductive ModuleOf (items : List Item) : List Item → Prop
  | root : ModuleOf items items
  | inner {above inner : List Item} {docs : List String} {name : String} :
      ModuleOf items above → .module docs name inner ∈ above → ModuleOf items inner

def Unambiguous (items : List Item) : Prop := ∀ inner, ModuleOf items inner → NamesApart inner

theorem namesApart_nil : NamesApart [] := ⟨.nil, .nil, by simp⟩

end Source

namespace Generator

open Descriptor Link Name Request Source

/-- What is generated beside each other in one module. -/
inductive Sibling
  | oneof (p : OneofDescriptor × Nat)
  | message (m : MessageDescriptor)
  | enum (e : EnumDescriptor)

namespace Sibling

def typeName : Sibling → String
  | oneof p => Name.typeName p.1.name
  | message m => Name.typeName m.name
  | enum e => Name.typeName e.name

/-- Only messages have modules of their own. -/
def moduleName? : Sibling → Option String
  | message m => some (moduleName m.name)
  | oneof _ | enum _ => none

end Sibling

/-- What stands in the module of a message. -/
def siblingsIn (m : MessageDescriptor) : List Sibling :=
  (spelledOneofs m.body).map .oneof ++ (m.nested.filter fun n => !n.isMapEntry).map .message ++
    m.body.enums.map .enum

/-- What stands at the root of a file. -/
def siblingsOf (file : FileDescriptor) : List Sibling :=
  file.messages.map .message ++ file.enums.map .enum

/-- The identifiers of the members of a structure. -/
def memberNames (m : MessageBody) : List String :=
  (plainFields m).map (fun f => fieldName f.name) ++
    (spelledOneofs m).map fun p => fieldName p.1.name

/-- What a file gives names to is still told apart by them when they are converted. -/
structure Apart (file : FileDescriptor) : Prop where
  root : ((siblingsOf file).map Sibling.typeName).Nodup
  inner : ∀ outer m, EmittedAt file outer m → ((siblingsIn m).map Sibling.typeName).Nodup
  members : ∀ outer m, EmittedAt file outer m → (memberNames m.body).Nodup

/-- The items that are generated for one of the siblings. -/
inductive IsItemsOf (ctx : Context) (depth : Nat) : Sibling → List Item → Prop
  | oneof {p : OneofDescriptor × Nat} {docs : List String} {variants : List Variant} :
      IsItemsOf ctx depth (.oneof p) [.oneof docs (typeName p.1.name) variants]
  | message {place : String} {m : MessageDescriptor} (e : Emission ctx place depth m) :
      IsItemsOf ctx depth (.message m) e.items
  | enum {e : EnumDescriptor} {docs : List String} {variants : List EnumVariant} :
      IsItemsOf ctx depth (.enum e) [.enum docs (typeName e.name) variants]

/-- The items of one module are those of the siblings, one after the other. -/
inductive IsLevel (ctx : Context) (depth : Nat) : List Sibling → List Item → Prop
  | nil : IsLevel ctx depth [] []
  | cons {s : Sibling} {siblings : List Sibling} {part items : List Item} :
      IsItemsOf ctx depth s part → IsLevel ctx depth siblings items →
      IsLevel ctx depth (s :: siblings) (part ++ items)

namespace Emission

variable {ctx : Context} {place : String} {depth : Nat} {m : MessageDescriptor}

theorem typeName?_items (e : Emission ctx place depth m) :
    e.items.filterMap Item.typeName? = [typeName m.name] := by
  rw [items, module]
  split
  · rfl
  · rfl

theorem module_mem_items (e : Emission ctx place depth m) (hne : e.inner ≠ []) :
    .module [Context.moduleDoc m.name] (moduleName m.name) e.inner ∈ e.items := by
  rw [items, module, if_neg (by simpa using hne)]
  exact List.mem_cons_of_mem _ (List.mem_singleton_self _)

theorem moduleName?_items (e : Emission ctx place depth m) :
    (e.items.filterMap Item.moduleName?).Sublist [moduleName m.name] := by
  rw [items, module]
  split
  · exact List.nil_sublist _
  · exact .refl _

theorem memberNames_struct (e : Emission ctx place depth m) :
    (e.members ++ e.oneofs.members).map Member.name = memberNames m.body := by
  have hmembers : e.members.map Member.name =
      (plainFields m.body).map fun f => fieldName f.name := by
    have hall := (Outcome.mapM_eq_ok_iff _ _ _).mp e.members_ok
    rw [← List.forall₂_eq_eq_eq, List.forall₂_map_left_iff, List.forall₂_map_right_iff]
    refine (hall.imp fun f member h => ?_).flip
    cases Context.isMemberFor_of_member h with
    | field => rfl
    | map => rfl
  rw [List.map_append, hmembers, e.oneofs_spec.1, List.map_map]
  rfl

end Emission

namespace IsItemsOf

variable {ctx : Context} {depth : Nat} {s : Sibling} {part : List Item}

theorem typeName?_eq (h : IsItemsOf ctx depth s part) :
    part.filterMap Item.typeName? = [s.typeName] := by
  cases h with
  | message e => exact e.typeName?_items
  | oneof | enum => rfl

theorem moduleName?_sublist (h : IsItemsOf ctx depth s part) :
    (part.filterMap Item.moduleName?).Sublist s.moduleName?.toList := by
  cases h with
  | message e => exact e.moduleName?_items
  | oneof | enum => exact .refl _

/-- A structure is that of a message. -/
theorem of_struct_mem (h : IsItemsOf ctx depth s part) {docs : List String} {name : String}
    {members : List Member} (hmem : .struct docs name members ∈ part) :
    ∃ m, s = .message m ∧ members.map Member.name = memberNames m.body := by
  cases h with
  | message e =>
      rcases List.mem_cons.mp hmem with heq | hmem
      · obtain ⟨-, -, rfl⟩ := Item.struct.inj heq
        exact ⟨_, rfl, e.memberNames_struct⟩
      · obtain ⟨_, _, _, heq⟩ := Context.module_of_mem_module e hmem
        simp at heq
  | oneof | enum => simp at hmem

/-- A module is that of a message. -/
theorem of_module_mem (h : IsItemsOf ctx depth s part) {docs : List String} {name : String}
    {inner : List Item} (hmem : .module docs name inner ∈ part) :
    ∃ place m, s = .message m ∧ ∃ e : Emission ctx place depth m, inner = e.inner := by
  cases h with
  | @message place m e =>
      rcases List.mem_cons.mp hmem with heq | hmem
      · simp [Emission.struct] at heq
      · rw [Emission.module] at hmem
        split at hmem
        · simp at hmem
        · obtain ⟨-, -, rfl⟩ := Item.module.inj (List.mem_singleton.mp hmem)
          exact ⟨place, m, rfl, e, rfl⟩
  | oneof | enum => simp at hmem

end IsItemsOf

namespace IsLevel

variable {ctx : Context} {depth : Nat} {siblings more : List Sibling} {items moreItems : List Item}

theorem append (h : IsLevel ctx depth siblings items) (h' : IsLevel ctx depth more moreItems) :
    IsLevel ctx depth (siblings ++ more) (items ++ moreItems) := by
  induction h with
  | nil => exact h'
  | cons hs _ ih =>
      rw [List.append_assoc]
      exact .cons hs ih

theorem exists_of_mem_items (h : IsLevel ctx depth siblings items) {item : Item}
    (hitem : item ∈ items) : ∃ s ∈ siblings, ∃ part, IsItemsOf ctx depth s part ∧ item ∈ part := by
  induction h with
  | nil => simp at hitem
  | cons hs _ ih =>
      rcases List.mem_append.mp hitem with hitem | hitem
      · exact ⟨_, List.mem_cons_self, _, hs, hitem⟩
      · obtain ⟨s, hmem, part, hpart, hitem⟩ := ih hitem
        exact ⟨s, List.mem_cons_of_mem _ hmem, part, hpart, hitem⟩

theorem exists_of_mem_siblings (h : IsLevel ctx depth siblings items) {s : Sibling}
    (hs : s ∈ siblings) : ∃ part, IsItemsOf ctx depth s part ∧ part ⊆ items := by
  induction h with
  | nil => simp at hs
  | cons hfirst _ ih =>
      rcases List.mem_cons.mp hs with rfl | hs
      · exact ⟨_, hfirst, List.subset_append_left _ _⟩
      · obtain ⟨part, hpart, hsub⟩ := ih hs
        exact ⟨part, hpart, List.subset_append_of_subset_right _ hsub⟩

theorem exists_emission (h : IsLevel ctx depth siblings items) {m : MessageDescriptor}
    (hm : .message m ∈ siblings) :
    ∃ place, ∃ e : Emission ctx place depth m, e.items ⊆ items := by
  obtain ⟨part, hpart, hsub⟩ := h.exists_of_mem_siblings hm
  cases hpart with
  | message e => exact ⟨_, e, hsub⟩

theorem typeName?_eq (h : IsLevel ctx depth siblings items) :
    items.filterMap Item.typeName? = siblings.map Sibling.typeName := by
  induction h with
  | nil => rfl
  | cons hs _ ih =>
      rw [List.filterMap_append, hs.typeName?_eq, ih]
      rfl

theorem moduleName?_sublist (h : IsLevel ctx depth siblings items) :
    (items.filterMap Item.moduleName?).Sublist (siblings.filterMap Sibling.moduleName?) := by
  induction h with
  | nil => exact .refl _
  | @cons s siblings _ _ hs _ ih =>
      have happend : (s :: siblings).filterMap Sibling.moduleName? =
          s.moduleName?.toList ++ siblings.filterMap Sibling.moduleName? := by
        cases s <;> rfl
      rw [List.filterMap_append, happend]
      exact hs.moduleName?_sublist.append ih

/-- Modules are named apart if types are. -/
theorem modules_nodup (h : IsLevel ctx depth siblings items)
    (htypes : (siblings.map Sibling.typeName).Nodup) :
    (items.filterMap Item.moduleName?).Nodup := by
  refine h.moduleName?_sublist.nodup (List.pairwise_filterMap.mpr ?_)
  refine (List.pairwise_map.mp htypes).imp_of_mem fun {s t} hs ht hne => ?_
  rintro name hname _ hname' rfl
  cases s with
  | message m =>
      cases t with
      | message n =>
          obtain ⟨_, e, -⟩ := h.exists_emission hs
          obtain ⟨_, e', -⟩ := h.exists_emission ht
          refine hne (typeName_eq_of_moduleName_eq e.isIdentifier_name e'.isIdentifier_name ?_)
          exact (Option.some.inj hname).trans (Option.some.inj hname').symm
      | oneof | enum => simp [Sibling.moduleName?] at hname'
  | oneof | enum => simp [Sibling.moduleName?] at hname

/-- The names in a module are apart exactly if those of the siblings are, and those of the
members of each message among them. -/
theorem namesApart_iff (h : IsLevel ctx depth siblings items) :
    NamesApart items ↔ (siblings.map Sibling.typeName).Nodup ∧
      ∀ m, .message m ∈ siblings → (memberNames m.body).Nodup := by
  constructor
  · rintro ⟨htypes, -, hmembers⟩
    rw [h.typeName?_eq] at htypes
    refine ⟨htypes, fun m hm => ?_⟩
    obtain ⟨place, e, hsub⟩ := h.exists_emission hm
    have hnodup := hmembers _ _ _ (hsub List.mem_cons_self)
    rwa [e.memberNames_struct] at hnodup
  · rintro ⟨htypes, hmembers⟩
    refine ⟨?_, h.modules_nodup htypes, fun docs name members hmem => ?_⟩
    · rw [h.typeName?_eq]
      exact htypes
    · obtain ⟨s, hs, part, hpart, hmem⟩ := h.exists_of_mem_items hmem
      obtain ⟨m, rfl, hnames⟩ := hpart.of_struct_mem hmem
      rw [hnames]
      exact hmembers m hs

end IsLevel

theorem isLevel_enumItems {ctx : Context} {depth : Nat} {place : EnumDescriptor → String}
    {es : List EnumDescriptor} {items : List Item}
    (h : es.mapM (fun e => ctx.enumItem (place e) e) = .ok items) :
    IsLevel ctx depth (es.map .enum) items := by
  have hall := (Outcome.mapM_eq_ok_iff _ _ _).mp h
  clear h
  induction hall with
  | nil => exact .nil
  | cons he _ ih =>
      obtain ⟨variants, rfl, -⟩ := Context.enumItem_eq_ok he
      exact .cons .enum ih

theorem isLevel_nestedItems {ctx : Context} {place : String} {depth : Nat}
    {ms : List MessageDescriptor} {items : List Item}
    (h : ctx.nestedItems place depth ms = .ok items) :
    IsLevel ctx depth ((ms.filter fun m => !m.isMapEntry).map .message) items := by
  induction ms generalizing items with
  | nil =>
      obtain rfl := Except.ok.inj h
      exact .nil
  | cons m ms ih =>
      rw [Context.nestedItems] at h
      split at h
      · rename_i hentry
        rw [List.filter_cons_of_neg (by simp [hentry])]
        exact ih h
      · rename_i hplain
        obtain ⟨first, hfirst, h⟩ := (Outcome.bind_eq_ok_iff _ _ _).mp h
        obtain ⟨rest, hrest, h⟩ := (Outcome.bind_eq_ok_iff _ _ _).mp h
        obtain rfl := Except.ok.inj h
        obtain ⟨e, rfl⟩ := Emission.exists_of_messageItems first hfirst
        rw [List.filter_cons_of_pos (by simp [hplain])]
        exact .cons (.message e) (ih hrest)

theorem isLevel_rootItems {ctx : Context} {ms : List MessageDescriptor} {items : List Item}
    (h : rootItems ctx ms = .ok items) : IsLevel ctx 0 (ms.map .message) items := by
  induction ms generalizing items with
  | nil =>
      obtain rfl := Except.ok.inj h
      exact .nil
  | cons m ms ih =>
      obtain ⟨first, hfirst, h⟩ := (Outcome.bind_eq_ok_iff _ _ _).mp h
      obtain ⟨rest, hrest, h⟩ := (Outcome.bind_eq_ok_iff _ _ _).mp h
      obtain rfl := Except.ok.inj h
      obtain ⟨e, rfl⟩ := Emission.exists_of_messageItems first hfirst
      exact .cons (.message e) (ih hrest)

theorem Emission.isLevel_oneofs {ctx : Context} {place : String} {depth depth' : Nat}
    {m : MessageDescriptor} (e : Emission ctx place depth m) :
    IsLevel ctx depth' ((spelledOneofs m.body).map .oneof) e.oneofs.items := by
  have hall := e.oneofs_spec.2
  generalize spelledOneofs m.body = os, e.oneofs.items = items at hall ⊢
  induction hall with
  | nil => exact .nil
  | cons hp _ ih =>
      obtain ⟨variants, -, rfl⟩ := hp
      exact .cons .oneof ih

theorem Emission.isLevel_inner {ctx : Context} {place : String} {depth : Nat}
    {m : MessageDescriptor} (e : Emission ctx place depth m) :
    IsLevel ctx (depth + 1) (siblingsIn m) e.inner :=
  (e.isLevel_oneofs.append (isLevel_nestedItems e.messages_ok)).append
    (isLevel_enumItems e.enums_ok)

theorem message_mem_siblingsIn_iff {m n : MessageDescriptor} :
    .message n ∈ siblingsIn m ↔ n ∈ m.nested ∧ n.isMapEntry = false := by
  simp [siblingsIn]

theorem message_mem_siblingsOf_iff {file : FileDescriptor} {m : MessageDescriptor} :
    .message m ∈ siblingsOf file ↔ m ∈ file.messages := by
  simp [siblingsOf]

namespace FileEmission

variable {ctx : Context} {file : FileDescriptor}

theorem isLevel_items (e : FileEmission ctx file) : IsLevel ctx 0 (siblingsOf file) e.items :=
  (isLevel_rootItems e.messages_ok).append (isLevel_enumItems e.enums_ok)

/-- Every module of the file but the root is that of a message. -/
theorem eq_or_exists_of_moduleOf (e : FileEmission ctx file) {items : List Item}
    (h : ModuleOf e.items items) : items = e.items ∨
      ∃ outer m, EmittedAt file outer m ∧ ∃ place depth, ∃ em : Emission ctx place depth m,
        items = em.inner := by
  induction h with
  | root => exact .inl rfl
  | inner _ hmem ih =>
      right
      rcases ih with rfl | ⟨outer, m, hm, place, depth, em, rfl⟩
      · obtain ⟨s, hs, part, hpart, hmem⟩ := e.isLevel_items.exists_of_mem_items hmem
        obtain ⟨place, n, rfl, en, rfl⟩ := hpart.of_module_mem hmem
        exact ⟨[], n, .top (message_mem_siblingsOf_iff.mp hs), place, 0, en, rfl⟩
      · obtain ⟨s, hs, part, hpart, hmem⟩ := em.isLevel_inner.exists_of_mem_items hmem
        obtain ⟨place, n, rfl, en, rfl⟩ := hpart.of_module_mem hmem
        obtain ⟨hn, hplain⟩ := message_mem_siblingsIn_iff.mp hs
        exact ⟨_, n, hm.nested hn hplain, place, depth + 1, en, rfl⟩

/-- What is nested in a message is in a module of the file, if there is anything. -/
theorem exists_moduleOf_inner (e : FileEmission ctx file) {outer : List String}
    {m : MessageDescriptor} (h : EmittedAt file outer m) :
    ∃ place depth, ∃ em : Emission ctx place depth m,
      em.inner = [] ∨ ModuleOf e.items em.inner := by
  have hmodule {place : String} {depth : Nat} {n : MessageDescriptor}
      (en : Emission ctx place depth n) {above : List Item} (habove : ModuleOf e.items above)
      (hsub : en.items ⊆ above) : en.inner = [] ∨ ModuleOf e.items en.inner := by
    by_cases hempty : en.inner = []
    · exact .inl hempty
    · exact .inr (habove.inner (hsub (en.module_mem_items hempty)))
  induction h with
  | top hm =>
      obtain ⟨place, en, hsub⟩ :=
        e.isLevel_items.exists_emission (message_mem_siblingsOf_iff.mpr hm)
      exact ⟨place, 0, en, hmodule en .root hsub⟩
  | nested _ hn hplain ih =>
      obtain ⟨place, depth, em, hinner⟩ := ih
      obtain ⟨place', en, hsub⟩ :=
        em.isLevel_inner.exists_emission (message_mem_siblingsIn_iff.mpr ⟨hn, hplain⟩)
      rcases hinner with hempty | hinner
      · rw [hempty] at hsub
        exact absurd (hsub List.mem_cons_self) List.not_mem_nil
      · exact ⟨place', depth + 1, en, hmodule en hinner hsub⟩

/-- The items of a file are unambiguous exactly if its names remain apart. -/
theorem unambiguous_iff (e : FileEmission ctx file) : Unambiguous e.items ↔ Apart file := by
  constructor
  · intro h
    obtain ⟨hroot, htop⟩ := e.isLevel_items.namesApart_iff.mp (h _ .root)
    have hinner {outer : List String} {m : MessageDescriptor} (hm : EmittedAt file outer m) :
        ((siblingsIn m).map Sibling.typeName).Nodup ∧
          ∀ n, .message n ∈ siblingsIn m → (memberNames n.body).Nodup := by
      obtain ⟨place, depth, em, hempty | hmodule⟩ := e.exists_moduleOf_inner hm
      · refine em.isLevel_inner.namesApart_iff.mp ?_
        rw [hempty]
        exact namesApart_nil
      · exact em.isLevel_inner.namesApart_iff.mp (h _ hmodule)
    refine ⟨hroot, fun outer m hm => (hinner hm).1, fun outer m hm => ?_⟩
    cases hm with
    | top hm => exact htop m (message_mem_siblingsOf_iff.mpr hm)
    | nested hm hn hplain => exact (hinner hm).2 _ (message_mem_siblingsIn_iff.mpr ⟨hn, hplain⟩)
  · rintro ⟨hroot, hinner, hmembers⟩ items hitems
    rcases e.eq_or_exists_of_moduleOf hitems with rfl | ⟨outer, m, hm, place, depth, em, rfl⟩
    · refine e.isLevel_items.namesApart_iff.mpr ⟨hroot, fun m hm => ?_⟩
      exact hmembers [] m (.top (message_mem_siblingsOf_iff.mp hm))
    · refine em.isLevel_inner.namesApart_iff.mpr ⟨hinner outer m hm, fun n hn => ?_⟩
      obtain ⟨hn, hplain⟩ := message_mem_siblingsIn_iff.mp hn
      exact hmembers _ n (hm.nested hn hplain)

end FileEmission

theorem Emission.isIdentifier_of_mem_plainFields {ctx : Context} {place : String} {depth : Nat}
    {m : MessageDescriptor} (e : Emission ctx place depth m) {f : FieldDescriptor}
    (hf : f ∈ plainFields m.body) : isIdentifier f.name := by
  obtain ⟨member, -, hmember⟩ := exists_of_mapM_mem _ _ _ e.members_ok f hf
  exact (Context.member_eq_ok hmember).1

/-- The items of a file of an accepted request are unambiguous exactly if the names that
the file gives remain apart when they are converted; nothing is refused because they do
not. What the check of the request keeps apart are the plain fields of a message, unless
the file is under the rules of proto2. -/
theorem unambiguous_iff_apart (q : GeneratorRequest) (hq : validate q = .ok ())
    (mapping : PathMapping) (file : FileDescriptor) (hfile : file ∈ q.files) (text : String)
    (h : fileText file (TypeIndex.ofFiles q.files) mapping = .ok text) :
    ∃ items, fileItems file (TypeIndex.ofFiles q.files) mapping = .ok items ∧
      text = renderFile file.name items ∧ (Unambiguous items ↔ Apart file) ∧
      (usesProto2Rules file = false → ∀ outer m, EmittedAt file outer m →
        ((plainFields m.body).map fun f => fieldName f.name).Nodup) := by
  obtain ⟨edition, e, -, hitems, htext⟩ := fileText_eq_ok h
  refine ⟨e.items, hitems, htext, e.unambiguous_iff, fun hrules outer m hm => ?_⟩
  obtain ⟨-, -, -, -, -, hlink⟩ := (validate_eq_ok_iff q).mp hq
  obtain ⟨place, depth, em, -⟩ := e.exists_moduleOf_inner hm
  have hkeys := camelKeys_nodup_of_link hlink hfile hrules hm.messageAt
  have hplain := List.Pairwise.sublist (plainFields_sublist m.body) (List.pairwise_map.mp hkeys)
  refine List.pairwise_map.mpr (hplain.imp_of_mem fun {f g} hf hg hne heq => hne ?_)
  exact camelKey_eq_of_fieldName_eq (em.isIdentifier_of_mem_plainFields hf)
    (em.isIdentifier_of_mem_plainFields hg) heq

/-- The names of a track and of the point in it remain apart. -/
theorem track_unambiguous :
    let file := trackFile ".tracks.Track.Point"
    validate ⟨["track.proto"], none, [file], none⟩ = .ok () ∧
      ∃ text items, fileText file (TypeIndex.ofFiles [file]) .empty = .ok text ∧
        text = renderFile "track.proto" items ∧ Unambiguous items := by
  intro file
  have hvalid : validate ⟨["track.proto"], none, [file], none⟩ = .ok () := by decide +kernel
  have hok : (fileText file (TypeIndex.ofFiles [file]) .empty).isOk = true := by decide +kernel
  obtain ⟨text, htext⟩ := Outcome.exists_of_isOk hok
  obtain ⟨items, -, hrender, hiff, -⟩ := unambiguous_iff_apart _ hvalid .empty file
    (List.mem_singleton_self file) text htext
  have hnames (outer : List String) (m : MessageDescriptor) (hm : EmittedAt file outer m) :
      ((siblingsIn m).map Sibling.typeName).Nodup ∧ (memberNames m.body).Nodup := by
    rcases emittedAt_trackFile hm with ⟨-, hm⟩ | rfl
    · obtain rfl := List.mem_singleton.mp hm
      decide +kernel
    · decide +kernel
  refine ⟨hvalid, text, items, htext, hrender, hiff.mpr ⟨by decide +kernel, ?_, ?_⟩⟩
  · exact fun outer m hm => (hnames outer m hm).1
  · exact fun outer m hm => (hnames outer m hm).2

/-- Two messages with one name but for the style that it is written in. -/
def trackPointsFile : FileDescriptor :=
  { FileDescriptor.blank with
    name? := "track.proto"
    package? := "tracks"
    messages :=
      [⟨{ MessageBody.blank with name? := "track_point" }, []⟩,
        ⟨{ MessageBody.blank with name? := "TrackPoint" }, []⟩]
    syntaxName? := "proto3" }

/-- Both messages become the structure `TrackPoint`, and nobody objects. -/
theorem track_points_collide :
    let q : GeneratorRequest := ⟨["track.proto"], none, [trackPointsFile], none⟩
    validate q = .ok () ∧ (respond .empty q).error? = none ∧
      ∃ items, fileItems trackPointsFile (TypeIndex.ofFiles q.files) .empty = .ok items ∧
        items.filterMap Item.typeName? = ["TrackPoint", "TrackPoint"] ∧ ¬Unambiguous items := by
  intro q
  have hok : (fileText trackPointsFile (TypeIndex.ofFiles q.files) .empty).isOk = true := by
    decide +kernel
  obtain ⟨text, htext⟩ := Outcome.exists_of_isOk hok
  obtain ⟨edition, e, -, hitems, -⟩ := fileText_eq_ok htext
  have hnames : e.items.filterMap Item.typeName? = ["TrackPoint", "TrackPoint"] := by
    rw [e.isLevel_items.typeName?_eq]
    decide +kernel
  refine ⟨by decide +kernel, by decide +kernel, e.items, hitems, hnames, fun h => ?_⟩
  have hnodup := (h _ .root).types
  rw [hnames] at hnodup
  exact absurd hnodup (by decide)

end Generator

end Protogen
