import Protogen.Proofs.Descriptor.Places
import Protogen.Proofs.Generator.Declared
import Protogen.Proofs.Generator.LocalPaths
import Protogen.Proofs.Source.Contents

/-!
# What declarations yield

The contents of a generated file are what its declarations yield, one item for each and in
the same order: a structure for a message, an enumeration for a oneof and for an enum. The
structure has a member for each plain field and for each oneof, and the enumeration of a
oneof has a variant for each of its members. Everything is generated at the place that the
names of the messages around it make up.
-/

namespace Protogen

namespace Generator

open Descriptor Name Source

/-- The member of a structure for one of its oneofs. -/
def oneofMember (ctx : Context) (place : String) (m : MessageBody) (p : OneofDescriptor × Nat) :
    Member :=
  .oneof (ctx.docs (placeIn place p.1.name)) (fieldName p.1.name) (moduleName m.name)
    (typeName p.1.name) ((oneofMembers m p.2).map FieldDescriptor.number)

/-- What is generated for a declaration at its place, with the modules in which it stands. -/
inductive YieldsInPlace (ctx : Context) : Declared → List String × Item → Prop
  | message {outer : List String} {m : MessageBody} {fields : List Member} :
      isIdentifier m.name →
      List.Forall₂ (fun f member =>
        ctx.member (placeOf (outer ++ [m.name])) f outer.length = .ok member)
        (plainFields m) fields →
      YieldsInPlace ctx (.message outer m)
        (outer.map moduleName, .struct (ctx.docs (placeOf (outer ++ [m.name]))) (typeName m.name)
          (fields ++ (spelledOneofs m).map (oneofMember ctx (placeOf (outer ++ [m.name])) m)))
  | oneof {outer : List String} {m : MessageBody} {o : OneofDescriptor} {index : Nat}
      {variants : List Variant} :
      List.Forall₂ (fun f variant =>
        ctx.variant (placeOf (outer ++ [m.name])) outer.length f = .ok variant)
        (oneofMembers m index) variants →
      YieldsInPlace ctx (.oneof outer m o index)
        ((outer ++ [m.name]).map moduleName,
          .oneof (ctx.docs (placeIn (placeOf (outer ++ [m.name])) o.name)) (typeName o.name)
            variants)
  | enum {outer : List String} {e : EnumDescriptor} {item : Item} :
      ctx.enumItem (placeOf (outer ++ [e.name])) e = .ok item →
      YieldsInPlace ctx (.enum outer e) (outer.map moduleName, item)

/-- The members and the items for the oneofs of a message, one for each that has members. -/
theorem Emission.oneofs_spec {ctx : Context} {place : String} {depth : Nat} {m : MessageDescriptor}
    (e : Emission ctx place depth m) :
    e.oneofs.members = (spelledOneofs m.body).map (oneofMember ctx place m.body) ∧
      List.Forall₂ (fun p item => ∃ variants,
        (oneofMembers m.body p.2).mapM (ctx.variant place depth) = .ok variants ∧
          item = .oneof (ctx.docs (placeIn place p.1.name)) (typeName p.1.name) variants)
        (spelledOneofs m.body) e.oneofs.items := by
  obtain ⟨pieces, hparts, hpieces⟩ := Context.exists_pieces_of_oneofsParts 0 _ _ e.oneofs_ok
  rw [hparts]
  clear hparts
  rw [spelledOneofs]
  generalize m.body.oneofs.zipIdx.filter _ = spelled at hpieces ⊢
  induction hpieces with
  | nil => exact ⟨rfl, .nil⟩
  | cons hp _ ih =>
      obtain ⟨variants, hvariants, -, -, rfl⟩ := Context.oneofParts_eq_ok e.isIdentifier_name hp
      exact ⟨congrArg (_ :: ·) ih.1, .cons ⟨variants, hvariants, rfl⟩ ih.2⟩

theorem Emission.contentsOf_items {ctx : Context} {place : String} {depth : Nat}
    {m : MessageDescriptor} (e : Emission ctx place depth m) (above : List String) :
    contentsOf above e.items =
      (above, e.struct) :: contentsOf (above ++ [moduleName m.name]) e.inner := by
  rw [items, contentsOf, Emission.struct, Item.contents, module]
  split
  · rename_i hempty
    rw [List.isEmpty_iff.mp hempty, contentsOf, contentsOf]
    rfl
  · rw [contentsOf, Item.contents, contentsOf, List.append_nil]
    rfl

/-- Enums are generated one by one. -/
theorem yields_enumItems {ctx : Context} (outer : List String)
    {place : EnumDescriptor → String} {es : List EnumDescriptor} {items : List Item}
    (hplace : ∀ e, place e = placeOf (outer ++ [e.name]))
    (h : es.mapM (fun e => ctx.enumItem (place e) e) = .ok items) :
    List.Forall₂ (YieldsInPlace ctx) (es.map (.enum outer))
      (contentsOf (outer.map moduleName) items) := by
  have hflat : ∀ item ∈ items, ¬item.IsModule := by
    intro item hitem
    obtain ⟨docs, name, variants, rfl⟩ := Context.enum_of_mem_enumItems h item hitem
    simp [Item.IsModule]
  rw [contentsOf_of_flat _ _ hflat, List.forall₂_map_left_iff, List.forall₂_map_right_iff]
  refine ((Outcome.mapM_eq_ok_iff _ _ _).mp h).imp fun e item hitem => .enum ?_
  rw [← hplace]
  exact hitem

theorem Emission.yields_oneofs {ctx : Context} {outer : List String} {m : MessageDescriptor}
    (e : Emission ctx (placeOf (outer ++ [m.name])) outer.length m) :
    List.Forall₂ (YieldsInPlace ctx)
      ((spelledOneofs m.body).map fun p => .oneof outer m.body p.1 p.2)
      (contentsOf ((outer ++ [m.name]).map moduleName) e.oneofs.items) := by
  have hflat : ∀ item ∈ e.oneofs.items, ¬item.IsModule := by
    rintro _ hitem ⟨docs, name, inner, rfl⟩
    exact Context.oneofs_flat e docs name inner hitem
  rw [contentsOf_of_flat _ _ hflat, List.forall₂_map_left_iff, List.forall₂_map_right_iff]
  refine e.oneofs_spec.2.imp fun p item hitem => ?_
  obtain ⟨variants, hvariants, rfl⟩ := hitem
  exact .oneof ((Outcome.mapM_eq_ok_iff _ _ _).mp hvariants)

mutual

/-- A message yields its structure, and in its module what is declared in it. -/
theorem yields_messageItems (ctx : Context) : ∀ (outer : List String) (m : MessageDescriptor)
    (items : List Item),
    ctx.messageItems (placeOf (outer ++ [m.name])) outer.length m = .ok items →
    List.Forall₂ (YieldsInPlace ctx) (declaredBy outer m) (contentsOf (outer.map moduleName) items)
  | outer, ⟨m, nested⟩, items => by
      intro h
      change ctx.messageItems (placeOf (outer ++ [m.name])) _ _ = _ at h
      obtain ⟨e, rfl⟩ := Emission.exists_of_messageItems items h
      have hinner : outer.map moduleName ++ [moduleName m.name] =
          (outer ++ [m.name]).map moduleName := by simp
      have hnested := yields_nestedItems ctx (outer ++ [m.name]) nested e.messages (by simp)
        (by simpa using e.messages_ok)
      have henums := yields_enumItems (outer ++ [m.name])
        (fun e => (placeOf_concat (by simp) e.name).symm) e.enums_ok
      have honeofs := Emission.yields_oneofs (m := ⟨m, nested⟩) e
      rw [e.contentsOf_items, declaredBy, MessageDescriptor.name, hinner, Emission.inner,
        contentsOf_append, contentsOf_append, Emission.struct, e.oneofs_spec.1]
      have hmembers := (Outcome.mapM_eq_ok_iff _ _ _).mp e.members_ok
      refine .cons (.message e.isIdentifier_name hmembers) ?_
      exact List.rel_append (List.rel_append honeofs hnested) henums

theorem yields_nestedItems (ctx : Context) : ∀ (outer : List String)
    (ms : List MessageDescriptor) (items : List Item), outer ≠ [] →
    ctx.nestedItems (placeOf outer) outer.length ms = .ok items →
    List.Forall₂ (YieldsInPlace ctx) (declaredIn outer ms) (contentsOf (outer.map moduleName) items)
  | outer, [], items => by
      intro _ h
      obtain rfl := Except.ok.inj h
      exact .nil
  | outer, m :: ms, items => by
      intro hne h
      rw [Context.nestedItems] at h
      rw [declaredIn]
      split at h
      · rename_i hentry
        rw [if_pos hentry]
        exact yields_nestedItems ctx outer ms items hne h
      · rename_i hplain
        obtain ⟨first, hfirst, h⟩ := (Outcome.bind_eq_ok_iff _ _ _).mp h
        obtain ⟨rest, hrest, h⟩ := (Outcome.bind_eq_ok_iff _ _ _).mp h
        obtain rfl := Except.ok.inj h
        rw [← placeOf_concat hne] at hfirst
        rw [if_neg hplain, contentsOf_append]
        exact List.rel_append (yields_messageItems ctx outer m first hfirst)
          (yields_nestedItems ctx outer ms rest hne hrest)

end

theorem yields_rootItems (ctx : Context) (ms : List MessageDescriptor) (items : List Item)
    (h : rootItems ctx ms = .ok items) :
    List.Forall₂ (YieldsInPlace ctx) (ms.flatMap (declaredBy [])) (contentsOf [] items) := by
  induction ms generalizing items with
  | nil =>
      obtain rfl := Except.ok.inj h
      exact .nil
  | cons m ms ih =>
      obtain ⟨first, hfirst, h⟩ := (Outcome.bind_eq_ok_iff _ _ _).mp h
      obtain ⟨rest, hrest, h⟩ := (Outcome.bind_eq_ok_iff _ _ _).mp h
      obtain rfl := Except.ok.inj h
      rw [List.flatMap_cons, contentsOf_append]
      exact List.rel_append (yields_messageItems ctx [] m first hfirst) (ih rest hrest)

/-- What is declared by a file yields the contents of what is generated for it. -/
theorem FileEmission.yieldsInPlace_items {ctx : Context} {file : FileDescriptor}
    (e : FileEmission ctx file) :
    List.Forall₂ (YieldsInPlace ctx) (declaredByFile file) (contentsOf [] e.items) := by
  rw [declaredByFile, FileEmission.items, contentsOf_append]
  exact List.rel_append (yields_rootItems ctx _ _ e.messages_ok)
    (yields_enumItems [] (fun _ => rfl) e.enums_ok)

end Generator

end Protogen
