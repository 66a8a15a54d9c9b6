import Protogen.Proofs.Generator.Index
import Protogen.Proofs.Generator.Placement

/-!
# Paths inside a file

The path to a type of the same file is made from the names in its entry of the index,
and from the depth at which it is written. Followed from the module that it is written
in, it leads to the item that is generated for the type.
-/

namespace Protogen

namespace Generator

open Descriptor Name Source Request

/-- What a name of the schema can stand for. -/
inductive Definition
  | message (m : MessageDescriptor)
  | enum (e : EnumDescriptor)

/-- The file defines this at the path, outside of all map entries. -/
inductive DefinedAt (file : FileDescriptor) : List String → Definition → Prop
  | message {path : List String} {m : MessageDescriptor} :
      PlainAt file.messages path m → DefinedAt file path (.message m)
  | nested {path : List String} {m : MessageDescriptor} {e : EnumDescriptor} :
      PlainAt file.messages path m → e ∈ m.body.enums →
      DefinedAt file (path ++ [e.name]) (.enum e)
  | enum {e : EnumDescriptor} : e ∈ file.enums → DefinedAt file [e.name] (.enum e)

/-- The item with the name is what is generated for the definition. -/
inductive EmittedFor (ctx : Context) (depth : Nat) (name : String) : Definition → Item → Prop
  | message {place : String} {m : MessageDescriptor} {docs : List String}
      {members : List Member} {module : List Item} :
      ctx.messageItems place depth m = .ok (.struct docs name members :: module) →
      EmittedFor ctx depth name (.message m) (.struct docs name members)
  | enum {place : String} {e : EnumDescriptor} {docs : List String}
      {variants : List EnumVariant} :
      ctx.enumItem place e = .ok (.enum docs name variants) →
      EmittedFor ctx depth name (.enum e) (.enum docs name variants)

/-- The path, followed from the module `above`, leads to what is generated for the
definition. -/
def LeadsTo (ctx : Context) (items : List Item) (above steps : List String) (d : Definition) :
    Prop :=
  ∃ modules name item, follow above steps = some (modules, name) ∧ Within items modules item ∧
    EmittedFor ctx modules.length name d item

/-- The element is written for the type of this field: for a field of the file, or for
the value of one that is a map. -/
inductive WrittenFor (ctx : Context) (file : FileDescriptor) (depth : Nat) (element : Element) :
    FieldDescriptor → Prop
  | field {scope : String} {f : FieldDescriptor} :
      (scope, f) ∈ fileFields file → ctx.element f depth = .ok element →
      WrittenFor ctx file depth element f
  | mapValue {scope : String} {f key value : FieldDescriptor} :
      (scope, f) ∈ fileFields file → ctx.mapFields? f = some (key, value) →
      ctx.mapValue f value depth = .ok element → WrittenFor ctx file depth element value

theorem PlainAt.eq_append {ms : List MessageDescriptor} {path : List String}
    {n : MessageDescriptor} (h : PlainAt ms path n) : ∃ outer, path = outer ++ [n.name] := by
  induction h with
  | here _ _ => exact ⟨[], rfl⟩
  | @inside _ m _ _ _ _ _ ih =>
      obtain ⟨outer, rfl⟩ := ih
      exact ⟨m.name :: outer, rfl⟩

theorem modulesOf_append_singleton (path : List String) (name : String) :
    modulesOf (path ++ [name]) = path.map moduleName := by
  rw [modulesOf, List.dropLast_concat]

theorem PlainAt.modulesOf_nested {ms : List MessageDescriptor} {path : List String}
    {n : MessageDescriptor} (h : PlainAt ms path n) (name : String) :
    modulesOf (path ++ [name]) = modulesOf path ++ [moduleName n.name] := by
  obtain ⟨outer, rfl⟩ := h.eq_append
  rw [modulesOf_append_singleton, modulesOf_append_singleton, List.map_append, List.map_singleton]

/-- Every definition has an entry of its file in the index. -/
theorem mem_fileIndex_of_definedAt {file : FileDescriptor} {path : List String} {d : Definition}
    (h : DefinedAt file path d) :
    ∃ kind mapFields?, indexed file path kind mapFields? ∈ fileIndex file := by
  cases h with
  | message hm =>
      exact ⟨_, _, (mem_fileIndex_iff file _).mpr (.inl ⟨path, _, hm.messageAt, .inl rfl⟩)⟩
  | @nested path m e hm he =>
      exact ⟨_, _, (mem_fileIndex_iff file _).mpr
        (.inl ⟨path, _, hm.messageAt, .inr ⟨e, he, rfl⟩⟩)⟩
  | @enum e he => exact ⟨_, _, (mem_fileIndex_iff file _).mpr (.inr ⟨e, he, rfl⟩)⟩

namespace Context

variable {ctx : Context}

/-- A type of the same file is referred to by the names of its path. -/
theorem reference_inFile {typeName : String} {info : TypeInfo}
    (h : ctx.types.find? typeName = some info) (hfile : info.file = ctx.fileName) (depth : Nat) :
    ctx.reference typeName depth = .ok (.inFile depth (modulesOf info.path)
      (Name.typeName (info.path.getLast?.getD ""))) := by
  rw [reference, TypeIndex.get, h]
  exact if_pos hfile

/-- The path written for a message or an enum of the file is that of the reference. -/
theorem path?_of_reference {typeName : String} {depth : Nat} {modules : List String}
    {item : String} {element : Element}
    (hreference : ctx.reference typeName depth = .ok (.inFile depth modules item))
    (hmodules : ∀ s ∈ modules, IsPathName s) (hitem : IsPathName item)
    (h : ctx.messageElement typeName depth = .ok element ∨
      ctx.enumElement typeName depth = .ok element) :
    element.path? = some (Reference.steps depth modules item) := by
  have hsteps : ∀ s ∈ Reference.steps depth modules item, IsStep s := by
    simp only [Reference.steps, List.forall_mem_append, List.forall_mem_singleton]
    exact ⟨⟨fun s hs => .inl (List.eq_of_mem_replicate hs), fun s hs => .inr (hmodules s hs)⟩,
      .inr hitem⟩
  have hne : Reference.steps depth modules item ≠ [] := by simp [Reference.steps]
  rcases h with h | h
  · obtain ⟨reference, type, href, htype, rfl⟩ := messageElement_eq_ok h
    obtain rfl := Except.ok.inj (hreference.symm.trans href)
    rw [Reference.text, TypeExpr.parse_path _ hsteps hne] at htype
    obtain rfl := Except.ok.inj htype
    exact TypeExpr.names?_ofNames _
  · obtain ⟨reference, href, rfl⟩ := enumElement_eq_ok h
    obtain rfl := Except.ok.inj (hreference.symm.trans href)
    exact pathOfText?_intercalate _ hsteps hne

/-- Every element but a scalar one is written for a name of the schema. -/
theorem WrittenFor.scalar_or_named {file : FileDescriptor} {depth : Nat} {element : Element}
    {f : FieldDescriptor} (h : WrittenFor ctx file depth element f) :
    (∃ type, element = .scalar type) ∨ ctx.messageElement f.typeName depth = .ok element ∨
      ctx.enumElement f.typeName depth = .ok element := by
  cases h with
  | field _ h =>
      obtain ⟨type, -, rfl⟩ | ⟨-, -, h⟩ | ⟨-, -, h⟩ := Context.element_eq_ok h
      · exact .inl ⟨type, rfl⟩
      · exact .inr (.inl h)
      · exact .inr (.inr h)
  | mapValue _ _ h =>
      obtain ⟨type, -, rfl⟩ | ⟨-, h⟩ | ⟨-, h⟩ := mapValue_eq_ok h
      · exact .inl ⟨type, rfl⟩
      · exact .inr (.inl h)
      · exact .inr (.inr h)

/-- Every element in the tree is written for a field of the file, at the depth of the
module that it stands in. -/
theorem writtenFor_of_writes {file : FileDescriptor} {items : List Item}
    (h : TreeFrom ctx (fun f => ∃ scope, (scope, f) ∈ fileFields file) 0 items)
    {above : List String} {element : Element} (hwrites : Writes items above element) :
    ∃ f, WrittenFor ctx file above.length element f := by
  cases hwrites with
  | field hitem hmember =>
      have hfrom := h above _ hitem _ hmember
      rw [Nat.zero_add] at hfrom
      obtain ⟨f, ⟨scope, hf⟩, helement⟩ := hfrom
      exact ⟨f, .field hf helement⟩
  | mapValue hitem hmember =>
      have hfrom := h above _ hitem _ hmember
      rw [Nat.zero_add] at hfrom
      obtain ⟨f, key, value, ⟨scope, hf⟩, hmap, hvalue⟩ := hfrom
      exact ⟨value, .mapValue hf hmap hvalue⟩
  | variant hitem hmem =>
      have hfrom := h above _ hitem _ hmem
      rw [Nat.zero_add] at hfrom
      obtain ⟨f, ⟨scope, hf⟩, helement⟩ := hfrom
      exact ⟨f, .field hf helement⟩

end Context

/-- The items of a file as they are put together. -/
structure FileEmission (ctx : Context) (file : FileDescriptor) where
  messages : List Item
  enums : List Item
  messages_ok : rootItems ctx file.messages = .ok messages
  enums_ok : file.enums.mapM (fun e => ctx.enumItem e.name e) = .ok enums

namespace FileEmission

variable {ctx : Context} {file : FileDescriptor}

def items (e : FileEmission ctx file) : List Item := e.messages ++ e.enums

theorem treeFrom_items (e : FileEmission ctx file) :
    TreeFrom ctx (fun f => ∃ scope, (scope, f) ∈ fileFields file) 0 e.items :=
  treeFrom_append
    (Context.treeFrom_rootItems _ _ _ _ (fun p hp => ⟨p.1, hp⟩) e.messages_ok)
    (Context.treeFrom_enumItems (Context.enum_of_mem_enumItems e.enums_ok))

theorem oneofsStand_items (e : FileEmission ctx file) : OneofsStand ctx e.items :=
  oneofsStand_append (Context.oneofsStand_rootItems _ _ e.messages_ok)
    (Context.oneofsStand_enumItems (Context.enum_of_mem_enumItems e.enums_ok))

/-- What is generated for a definition stands in the modules of the messages around it,
under its own name. -/
theorem emittedFor_of_definedAt (e : FileEmission ctx file) {path : List String}
    {d : Definition} (h : DefinedAt file path d) :
    (∀ s ∈ modulesOf path, IsPathName s) ∧ IsPathName (typeName (path.getLast?.getD "")) ∧
      ∃ item, Within e.items (modulesOf path) item ∧
        EmittedFor ctx (modulesOf path).length (typeName (path.getLast?.getD "")) d item := by
  have hall := emitsAll_rootItems ctx file.messages e.messages e.messages_ok
  have hsub : e.messages ⊆ e.items := List.subset_append_left _ _
  cases h with
  | message hm =>
      have hemission := emission_of_plainAt hm 0 _ hall
      rw [Nat.zero_add] at hemission
      obtain ⟨place, m, hok, hnames, hwithin⟩ := hemission
      obtain ⟨outer, rfl⟩ := hm.eq_append
      rw [List.getLast?_concat, Option.getD_some]
      refine ⟨hnames, m.isPathName_typeName, m.struct, ?_, .message hok⟩
      have hstruct := hwithin [] _ m.within_struct
      rw [List.append_nil] at hstruct
      exact hstruct.mono hsub
  | @nested outer n d hm hd =>
      obtain ⟨place, m, -, hnames, hwithin⟩ := emission_of_plainAt hm 0 _ hall
      obtain ⟨item, hmem, hitem⟩ := exists_of_mapM_mem _ _ _ m.enums_ok d hd
      obtain ⟨variants, rfl, hname, -⟩ := Context.enumItem_eq_ok hitem
      have hinner : .enum _ _ variants ∈ m.inner := List.mem_append_right _ hmem
      have hmodule := m.module_ok (List.ne_nil_of_mem hinner)
      rw [hm.modulesOf_nested, List.getLast?_concat, Option.getD_some, List.forall_mem_append,
        List.forall_mem_singleton]
      refine ⟨⟨hnames, hmodule⟩, hname, _, ?_, .enum hitem⟩
      have hrest : Within m.items [moduleName n.name] (.enum _ _ variants) :=
        (m.within_items_iff _ _).mpr (.inr ⟨[], rfl, .here hinner⟩)
      exact (hwithin _ _ hrest).mono hsub
  | @enum d hd =>
      obtain ⟨item, hmem, hitem⟩ := exists_of_mapM_mem _ _ _ e.enums_ok d hd
      obtain ⟨variants, rfl, hname, -⟩ := Context.enumItem_eq_ok hitem
      exact ⟨by simp [modulesOf], hname, _, .here (List.mem_append_right _ hmem), .enum hitem⟩

/-- An element that names a definition of the file leads to what is generated for it. -/
theorem leadsTo_of_writtenFor (e : FileEmission ctx file)
    (hnodup : (ctx.types.map Prod.fst).Nodup) (hindex : fileIndex file ⊆ ctx.types)
    (hfile : ctx.fileName = file.name) {above : List String} {element : Element}
    {f : FieldDescriptor} (hf : WrittenFor ctx file above.length element f) {path : List String}
    {d : Definition} (hd : DefinedAt file path d)
    (hname : f.typeName = fullName file.package path) :
    (∃ type, element = .scalar type) ∨
      ∃ steps, element.path? = some steps ∧ LeadsTo ctx e.items above steps d := by
  obtain ⟨kind, mapFields?, hentry⟩ := mem_fileIndex_of_definedAt hd
  have hfind := TypeIndex.find?_of_mem ctx.types _ _ hnodup (hindex hentry)
  rw [← hname] at hfind
  have hreference := Context.reference_inFile hfind hfile.symm above.length
  obtain ⟨hmodules, hitem, item, hwithin, hemitted⟩ := e.emittedFor_of_definedAt hd
  rcases Context.WrittenFor.scalar_or_named hf with hscalar | helement
  · exact .inl hscalar
  · refine .inr ⟨_, Context.path?_of_reference hreference hmodules hitem helement, ?_⟩
    exact ⟨_, _, item, follow_steps above _ _ fun s hs => (hmodules s hs).ne_super, hwithin,
      hemitted⟩

end FileEmission

/-- What the generation of the file refers to. -/
def contextOf (file : FileDescriptor) (types : TypeIndex) (mapping : PathMapping)
    (edition : Edition) : Context :=
  ⟨file.name, types, mapping, Comments.ofFile file, edition⟩

theorem fileItems_eq_ok {file : FileDescriptor} {types : TypeIndex} {mapping : PathMapping}
    {items : List Item} (h : fileItems file types mapping = .ok items) :
    ∃ edition, ∃ e : FileEmission (contextOf file types mapping edition) file,
      Edition.ofName? file.syntaxName = some edition ∧ items = e.items := by
  rw [fileItems] at h
  split at h
  · simp at h
  · rename_i edition hedition
    obtain ⟨messages, hmessages, h⟩ := (Outcome.bind_eq_ok_iff _ _ _).mp h
    obtain ⟨enums, henums, h⟩ := (Outcome.bind_eq_ok_iff _ _ _).mp h
    exact ⟨edition, ⟨messages, enums, hmessages, henums⟩, hedition, (Except.ok.inj h).symm⟩

theorem fileText_eq_ok {file : FileDescriptor} {types : TypeIndex} {mapping : PathMapping}
    {text : String} (h : fileText file types mapping = .ok text) :
    ∃ edition, ∃ e : FileEmission (contextOf file types mapping edition) file,
      Edition.ofName? file.syntaxName = some edition ∧
        fileItems file types mapping = .ok e.items ∧ text = renderFile file.name e.items := by
  obtain ⟨items, hitems, h⟩ := (Outcome.bind_eq_ok_iff _ _ _).mp h
  split at h
  · simp at h
  obtain rfl := Except.ok.inj h
  obtain ⟨edition, e, hedition, rfl⟩ := fileItems_eq_ok hitems
  exact ⟨edition, e, hedition, hitems, rfl⟩

/-- In the text that is generated for a file every element is written for a field. If
the field names something that the file defines outside of its map entries, the element
has a path, which leads from the module that the element is written in to what is
generated for the definition, unless the field is scalar. The path that a structure
gives for a oneof leads to the enumeration for that oneof. -/
theorem local_paths_lead_to_definitions (files : List FileDescriptor) (mapping : PathMapping)
    (file : FileDescriptor) (hfile : file ∈ files)
    (hnodup : ((TypeIndex.ofFiles files).map Prod.fst).Nodup) (text : String)
    (h : fileText file (TypeIndex.ofFiles files) mapping = .ok text) :
    ∃ edition items, Edition.ofName? file.syntaxName = some edition ∧
      fileItems file (TypeIndex.ofFiles files) mapping = .ok items ∧
      text = renderFile file.name items ∧
      let ctx := contextOf file (TypeIndex.ofFiles files) mapping edition
      (∀ above element, Writes items above element →
        (∃ f, WrittenFor ctx file above.length element f) ∧
          ∀ f, WrittenFor ctx file above.length element f → ∀ path d, DefinedAt file path d →
            f.typeName = fullName file.package path →
            (∃ type, element = .scalar type) ∨
              ∃ steps, element.path? = some steps ∧ LeadsTo ctx items above steps d) ∧
      ∀ above docs name members, Within items above (.struct docs name members) →
        ∀ docs' member module type numbers, .oneof docs' member module type numbers ∈ members →
          pathOfText? (module ++ "::" ++ type) = some [module, type] ∧
            ∃ modules variants, follow above [module, type] = some (modules, type) ∧
              Within items modules (.oneof docs' type variants) ∧
              AreTwins ctx (.oneof docs' member module type numbers)
                (.oneof docs' type variants) := by
  obtain ⟨edition, e, hedition, hitems, htext⟩ := fileText_eq_ok h
  refine ⟨edition, e.items, hedition, hitems, htext, ?_, ?_⟩
  · intro above element hwrites
    refine ⟨Context.writtenFor_of_writes e.treeFrom_items hwrites, fun f hf path d hd hname => ?_⟩
    have hindex : fileIndex file ⊆ TypeIndex.ofFiles files :=
      fun t ht => (TypeIndex.mem_ofFiles_iff files t).mpr ⟨file, hfile, ht⟩
    exact e.leadsTo_of_writtenFor hnodup hindex rfl hf hd hname
  · intro above docs name members hstruct docs' member module type numbers hmember
    obtain ⟨hmodule, htype, variants, hitem, htwins⟩ :=
      e.oneofsStand_items above docs name members hstruct docs' member module type numbers hmember
    have hsteps : ∀ s ∈ [module, type], IsStep s := by
      simp only [List.forall_mem_cons, List.not_mem_nil, false_implies, implies_true, and_true]
      exact ⟨.inr hmodule, .inr htype⟩
    have htext : "::".intercalate [module, type] = module ++ "::" ++ type := by simp
    refine ⟨?_, _, variants, ?_, hitem, htwins⟩
    · rw [← htext]
      exact pathOfText?_intercalate _ hsteps (by simp)
    · refine follow_down above [module] type fun s hs => ?_
      rw [List.mem_singleton.mp hs]
      exact hmodule.ne_super

/-- Every path in the text for a track leads to the point that is nested in it. -/
theorem track_paths_lead_to_point :
    let file := trackFile ".tracks.Track.Point"
    let types := TypeIndex.ofFiles [file]
    (types.map Prod.fst).Nodup ∧ ∃ text edition items point,
      fileText file types .empty = .ok text ∧ PlainAt file.messages ["Track", "Point"] point ∧
        ∀ above element, Writes items above element → (∃ type, element = .scalar type) ∨
          ∃ steps, element.path? = some steps ∧
            LeadsTo (contextOf file types .empty edition) items above steps (.message point) := by
  intro file types
  have hnodup : (types.map Prod.fst).Nodup := by decide +kernel
  have hok : (fileText file types .empty).isOk = true := by decide +kernel
  obtain ⟨text, htext⟩ : ∃ text, fileText file types .empty = .ok text := by
    cases h : fileText file types .empty with
    | ok text => exact ⟨text, rfl⟩
    | error e => simp [h, Except.isOk, Except.toBool] at hok
  obtain ⟨edition, items, -, -, -, hpaths, -⟩ := local_paths_lead_to_definitions [file] .empty file
    (List.mem_singleton_self file) hnodup text htext
  have hpoint : PlainAt file.messages ["Track", "Point"] _ :=
    .inside List.mem_cons_self rfl (.here List.mem_cons_self rfl)
  refine ⟨hnodup, text, edition, items, _, htext, hpoint, fun above element hwrites => ?_⟩
  obtain ⟨⟨f, hf⟩, hleads⟩ := hpaths above element hwrites
  refine hleads f hf _ _ (.message hpoint) ?_
  -- The one field of the file is single, so no value of a map comes from it.
  cases hf with
  | field hmem _ =>
      obtain ⟨-, rfl⟩ := Prod.mk.inj (List.mem_singleton.mp hmem)
      decide +kernel
  | mapValue hmem hmap _ =>
      obtain ⟨-, rfl⟩ := Prod.mk.inj (List.mem_singleton.mp hmem)
      rw [Context.mapFields?, if_neg (by decide)] at hmap
      simp at hmap

end Generator

end Protogen
