import Protogen.Proofs.Generator.Yields
import Protogen.Proofs.Source.Written

/-!
# Every declaration is generated once

Where the places of what declarations yield do not matter, they are left open. Then every
structure and every enumeration in a generated file can be traced back to the message or
the oneof that yields it, and every declaration is generated once.
-/

namespace Protogen

namespace Generator

open Descriptor Name Source

/-- What is generated for a declaration, with the modules in which it stands. -/
inductive Yields (ctx : Context) : Declared → List String × Item → Prop
  | message {outer : List String} {m : MessageBody} {place : String} {fields : List Member} :
      isIdentifier m.name →
      List.Forall₂ (fun f member => ctx.member place f outer.length = .ok member)
        (plainFields m) fields →
      Yields ctx (.message outer m) (outer.map moduleName, .struct (ctx.docs place)
        (typeName m.name) (fields ++ (spelledOneofs m).map (oneofMember ctx place m)))
  | oneof {outer : List String} {m : MessageBody} {o : OneofDescriptor} {index : Nat}
      {place : String} {docs : List String} {variants : List Variant} :
      List.Forall₂ (fun f variant => ctx.variant place outer.length f = .ok variant)
        (oneofMembers m index) variants →
      Yields ctx (.oneof outer m o index)
        ((outer ++ [m.name]).map moduleName, .oneof docs (typeName o.name) variants)
  | enum {outer : List String} {e : EnumDescriptor} {place : String} {item : Item} :
      ctx.enumItem place e = .ok item → Yields ctx (.enum outer e) (outer.map moduleName, item)

theorem YieldsInPlace.yields {ctx : Context} {d : Declared} {entry : List String × Item}
    (h : YieldsInPlace ctx d entry) : Yields ctx d entry := by
  cases h with
  | message hname hfields => exact .message hname hfields
  | oneof hvariants => exact .oneof hvariants
  | enum hitem => exact .enum hitem

namespace FileEmission

variable {ctx : Context} {file : FileDescriptor}

theorem yields_items (e : FileEmission ctx file) :
    List.Forall₂ (Yields ctx) (declaredByFile file) (contentsOf [] e.items) :=
  e.yieldsInPlace_items.imp fun _ _ => YieldsInPlace.yields

theorem exists_declared_of_within (e : FileEmission ctx file) {path : List String} {item : Item}
    (h : Within e.items path item) (hitem : ¬item.IsModule) :
    ∃ d ∈ declaredByFile file, Yields ctx d (path, item) :=
  Outcome.exists_left_of_forall₂ e.yields_items _
    ((mem_contentsOf_iff path item [] e.items).mpr ⟨path, rfl, h, hitem⟩)

theorem exists_within_of_declared (e : FileEmission ctx file) {d : Declared}
    (hd : d ∈ declaredByFile file) :
    ∃ path item, Within e.items path item ∧ Yields ctx d (path, item) := by
  obtain ⟨⟨path, item⟩, hmem, hyields⟩ := Outcome.exists_right_of_forall₂ e.yields_items d hd
  obtain ⟨_, rfl, hwithin, -⟩ := (mem_contentsOf_iff path item [] e.items).mp hmem
  exact ⟨_, item, hwithin, hyields⟩

/-- Every structure is that of a message. -/
theorem exists_message_of_struct (e : FileEmission ctx file) {above docs : List String}
    {name : String} {members : List Member} (h : Within e.items above (.struct docs name members)) :
    ∃ outer m place fields, EmittedAt file outer m ∧ isIdentifier m.name ∧
      above = outer.map moduleName ∧ name = typeName m.name ∧
      members = fields ++ (spelledOneofs m.body).map (oneofMember ctx place m.body) ∧
      List.Forall₂ (fun f member => ctx.member place f outer.length = .ok member)
        (plainFields m.body) fields := by
  obtain ⟨d, hd, hyields⟩ := e.exists_declared_of_within h (by simp [Item.IsModule])
  cases hyields with
  | @message outer body place fields hname hfields =>
      rcases (mem_declaredByFile_iff _ _).mp hd with ⟨_, m, hm, hof⟩ | ⟨_, -, heq⟩
      · obtain _ | _ | _ := hof
        exact ⟨outer, m, place, fields, hm, hname, rfl, rfl, rfl, hfields⟩
      · simp at heq
  | enum hitem =>
      obtain ⟨_, heq, -⟩ := Context.enumItem_eq_ok hitem
      simp at heq

theorem exists_struct_of_message (e : FileEmission ctx file) {outer : List String}
    {m : MessageDescriptor} (hm : EmittedAt file outer m) :
    isIdentifier m.name ∧ ∃ docs place fields,
      Within e.items (outer.map moduleName) (.struct docs (typeName m.name)
        (fields ++ (spelledOneofs m.body).map (oneofMember ctx place m.body))) ∧
      List.Forall₂ (fun f member => ctx.member place f outer.length = .ok member)
        (plainFields m.body) fields := by
  have hd : .message outer m.body ∈ declaredByFile file :=
    (mem_declaredByFile_iff _ _).mpr (.inl ⟨outer, m, hm, .message⟩)
  obtain ⟨path, item, hwithin, hyields⟩ := e.exists_within_of_declared hd
  obtain ⟨hname, hfields⟩ | _ | _ := hyields
  exact ⟨hname, _, _, _, hwithin, hfields⟩

/-- Every enumeration of variants is that of a oneof. -/
theorem exists_message_of_oneof (e : FileEmission ctx file) {above docs : List String}
    {name : String} {variants : List Variant}
    (h : Within e.items above (.oneof docs name variants)) :
    ∃ outer m p place, EmittedAt file outer m ∧ p ∈ spelledOneofs m.body ∧
      above = (outer ++ [m.name]).map moduleName ∧ name = typeName p.1.name ∧
      List.Forall₂ (fun f variant => ctx.variant place outer.length f = .ok variant)
        (oneofMembers m.body p.2) variants := by
  obtain ⟨d, hd, hyields⟩ := e.exists_declared_of_within h (by simp [Item.IsModule])
  cases hyields with
  | @oneof outer body o index place docs variants hvariants =>
      rcases (mem_declaredByFile_iff _ _).mp hd with ⟨_, m, hm, hof⟩ | ⟨_, -, heq⟩
      · obtain _ | hp | _ := hof
        exact ⟨outer, m, _, place, hm, hp, rfl, rfl, hvariants⟩
      · simp at heq
  | enum hitem =>
      obtain ⟨_, heq, -⟩ := Context.enumItem_eq_ok hitem
      simp at heq

theorem exists_oneof_of_message (e : FileEmission ctx file) {outer : List String}
    {m : MessageDescriptor} (hm : EmittedAt file outer m) {p : OneofDescriptor × Nat}
    (hp : p ∈ spelledOneofs m.body) :
    ∃ docs place variants,
      Within e.items ((outer ++ [m.name]).map moduleName)
        (.oneof docs (typeName p.1.name) variants) ∧
      List.Forall₂ (fun f variant => ctx.variant place outer.length f = .ok variant)
        (oneofMembers m.body p.2) variants := by
  have hd : .oneof outer m.body p.1 p.2 ∈ declaredByFile file :=
    (mem_declaredByFile_iff _ _).mpr (.inl ⟨outer, m, hm, .oneof hp⟩)
  obtain ⟨path, item, hwithin, hyields⟩ := e.exists_within_of_declared hd
  obtain _ | hvariants | _ := hyields
  exact ⟨_, _, _, hwithin, hvariants⟩

end FileEmission

/-- The member of a structure is for the field, and has its number. -/
inductive IsMemberFor (f : FieldDescriptor) : Member → Prop
  | field {docs : List String} {element : Element} {cardinality : Cardinality} :
      IsMemberFor f (.field docs (fieldName f.name) f.number element cardinality)
  | map {docs : List String} {key : Scalar} {value : Element} :
      IsMemberFor f (.map docs (fieldName f.name) f.number key value)

def IsVariantFor (f : FieldDescriptor) (v : Variant) : Prop :=
  v.name = typeName f.name ∧ v.number = f.number

/-- The member of a structure is for the oneof with this index, and lists the numbers of
its members in their order. -/
inductive IsOneofFor (m : MessageBody) (p : OneofDescriptor × Nat) : Member → Prop
  | mk {docs : List String} : IsOneofFor m p (.oneof docs (fieldName p.1.name) (moduleName m.name)
      (typeName p.1.name) ((oneofMembers m p.2).map FieldDescriptor.number))

/-- The item in the modules is the one for the declaration. -/
inductive Represents : Declared → List String × Item → Prop
  | message {outer : List String} {m : MessageBody} {docs : List String}
      {fields oneofs : List Member} :
      List.Forall₂ IsMemberFor (plainFields m) fields →
      List.Forall₂ (IsOneofFor m) (spelledOneofs m) oneofs →
      Represents (.message outer m)
        (outer.map moduleName, .struct docs (typeName m.name) (fields ++ oneofs))
  | oneof {outer : List String} {m : MessageBody} {o : OneofDescriptor} {index : Nat}
      {docs : List String} {variants : List Variant} :
      List.Forall₂ IsVariantFor (oneofMembers m index) variants →
      Represents (.oneof outer m o index)
        ((outer ++ [m.name]).map moduleName, .oneof docs (typeName o.name) variants)
  | enum {outer : List String} {e : EnumDescriptor} {docs : List String}
      {variants : List EnumVariant} :
      Represents (.enum outer e) (outer.map moduleName, .enum docs (typeName e.name) variants)

namespace Context

variable {ctx : Context}

theorem isMemberFor_of_member {place : String} {depth : Nat} {f : FieldDescriptor}
    {member : Member} (h : ctx.member place f depth = .ok member) : IsMemberFor f member := by
  obtain ⟨-, ⟨-, _, -, rfl⟩ | ⟨_, _, _, _, -, -, -, rfl⟩⟩ := member_eq_ok h
  · exact .field
  · exact .map

theorem isVariantFor_of_variant {place : String} {depth : Nat} {f : FieldDescriptor}
    {v : Variant} (h : ctx.variant place depth f = .ok v) : IsVariantFor f v := by
  obtain ⟨-, _, -, rfl⟩ := variant_eq_ok h
  exact ⟨rfl, rfl⟩

end Context

theorem represents_of_yields {ctx : Context} {d : Declared} {entry : List String × Item}
    (h : Yields ctx d entry) : Represents d entry := by
  cases h with
  | message _ hfields =>
      refine .message (hfields.imp fun f member => Context.isMemberFor_of_member) ?_
      rw [List.forall₂_map_right_iff, List.forall₂_same]
      exact fun p _ => .mk
  | oneof hvariants => exact .oneof (hvariants.imp fun f v => Context.isVariantFor_of_variant)
  | enum hitem =>
      obtain ⟨variants, rfl, -⟩ := Context.enumItem_eq_ok hitem
      exact .enum

/-- In the text that is generated for a file there is one item for each declaration, and
no other, and all of them are written out, with the numbers of their members. If the oneofs
that fields name are there, every field of a message has its place in the structure or in
one of the enumerations of its oneofs, and only one: in the structure if it is in no oneof
or optional, else in that of the oneof it names. -/
theorem every_declaration_generated_once (file : FileDescriptor) (types : TypeIndex)
    (mapping : PathMapping)
    (honeofs : ∀ path m, MessageAt file.messages path m → OneofsInRange m.body) (text : String)
    (h : fileText file types mapping = .ok text) :
    ∃ items, fileItems file types mapping = .ok items ∧ text = renderFile file.name items ∧
      FileWrittenAs file.name items text ∧
      List.Forall₂ Represents (declaredByFile file) (contentsOf [] items) ∧
      ∀ outer m, .message outer m ∈ declaredByFile file →
        (plainFields m ++ (spelledOneofs m).flatMap fun p => oneofMembers m p.2).Perm m.fields ∧
        (∀ f ∈ plainFields m, f.oneofIndex? = none ∨ f.isProto3Optional) ∧
        ∀ p ∈ spelledOneofs m, m.oneofs[p.2]? = some p.1 ∧
          ∀ f ∈ oneofMembers m p.2, f.isProto3Optional = false ∧
            f.oneofIndex?.map Int32.toInt = some (Int.ofNat p.2) := by
  obtain ⟨edition, e, -, hitems, htext⟩ := fileText_eq_ok h
  refine ⟨e.items, hitems, htext, htext ▸ fileWrittenAs_renderFile file.name e.items,
    e.yields_items.imp fun d entry => represents_of_yields, ?_⟩
  intro outer m hm
  have hperm : (plainFields m ++ (spelledOneofs m).flatMap fun p => oneofMembers m p.2).Perm
      m.fields := by
    rcases (mem_declaredByFile_iff _ _).mp hm with ⟨_, n, hn, hd⟩ | ⟨_, _, heq⟩
    · obtain _ | _ | _ := hd
      exact fields_perm n.body (honeofs _ n hn.messageAt)
    · simp at heq
  refine ⟨hperm, fun f hf => ((mem_plainFields_iff m f).mp hf).2, fun p hp => ⟨?_, fun f hf => ?_⟩⟩
  · exact List.mem_zipIdx_iff_getElem?.mp (List.mem_of_mem_filter hp)
  · obtain ⟨-, hone, hindex⟩ := (mem_oneofMembers_iff m p.2 f).mp hf
    rw [FieldDescriptor.isOneofMember, Bool.and_eq_true] at hone
    exact ⟨by simpa using hone.2, hindex⟩

/-- A signal has a name, a level or a quality, an optional count, and labels. -/
def signalFile : FileDescriptor :=
  let field (name : String) (number type : Int32) : FieldDescriptor :=
    { FieldDescriptor.blank with name? := name, number? := number, label? := some 1, type? := type }
  let entry : MessageBody :=
    { MessageBody.blank with
      name? := "LabelsEntry"
      fields := [field "key" 1 9, field "value" 2 9]
      options? := some ⟨none, none, none, some true, []⟩ }
  let signal : MessageBody :=
    { MessageBody.blank with
      name? := "Signal"
      fields :=
        [field "name" 1 9, { field "level" 4 1 with oneofIndex? := some 0 },
          { field "count" 2 5 with oneofIndex? := some 1, proto3Optional? := some true },
          { field "quality" 3 14 with
            oneofIndex? := some 0, typeName? := ".signals.Signal.Quality" },
          { field "labels" 5 11 with
            label? := some 3, typeName? := ".signals.Signal.LabelsEntry" }]
      enums := [⟨"Quality", [⟨"GOOD", some 0, none⟩], none, [], []⟩]
      oneofs := [⟨"value", none⟩, ⟨"_count", none⟩] }
  { FileDescriptor.blank with
    name? := "signal.proto"
    package? := "signals"
    messages := [⟨signal, [⟨entry, []⟩]⟩]
    syntaxName? := "proto3" }

/-- For a signal there are three items. Its level and its quality stand in the
enumeration, everything else in the structure, and there is nothing for the entries of its
labels. -/
theorem signal_generated_once :
    (∀ path m, MessageAt signalFile.messages path m → OneofsInRange m.body) ∧
      ∃ text items signal quality,
        fileText signalFile (TypeIndex.ofFiles [signalFile]) .empty = .ok text ∧
          text = renderFile "signal.proto" items ∧ FileWrittenAs "signal.proto" items text ∧
          List.Forall₂ Represents
            [.message [] signal, .oneof [] signal ⟨"value", none⟩ 0, .enum ["Signal"] quality]
            (contentsOf [] items) ∧
          (plainFields signal).map FieldDescriptor.number = [1, 2, 5] ∧
          (oneofMembers signal 0).map FieldDescriptor.number = [4, 3] := by
  have honeofs : ∀ path m, MessageAt signalFile.messages path m → OneofsInRange m.body := by
    intro path m hm
    rcases MessageAt.singleton_iff.mp hm with ⟨-, rfl⟩ | ⟨rest, -, hm⟩
    · decide
    rcases MessageAt.singleton_iff.mp hm with ⟨-, rfl⟩ | ⟨rest, -, hm⟩
    · decide
    · exact absurd hm MessageAt.not_nil
  have hok : (fileText signalFile (TypeIndex.ofFiles [signalFile]) .empty).isOk = true := by
    decide +kernel
  obtain ⟨text, htext⟩ := Outcome.exists_of_isOk hok
  obtain ⟨items, -, hrender, hwritten, hitems, -⟩ := every_declaration_generated_once signalFile
    (TypeIndex.ofFiles [signalFile]) .empty honeofs text htext
  exact ⟨honeofs, text, items, _, _, htext, hrender, hwritten, hitems, by decide, by decide⟩

end Generator

end Protogen
