import Protogen.Proofs.Generator.Emission

/-!
# Where generated items stand

Every oneof of a structure stands in the module beside the structure, under the name
that the structure gives for it. Every message and enum that is no map entry and lies
in none stands in the module of the messages around it.
-/

namespace Protogen

namespace Generator

open Descriptor Name Source

/-- The member and the item are generated for one oneof. -/
def AreTwins (ctx : Context) (member : Member) (item : Item) : Prop :=
  ∃ (m : MessageBody) (place : String) (depth : Nat) (name : String)
    (fields : List FieldDescriptor),
    ctx.oneofParts m place depth name fields = .ok ⟨[member], [item]⟩

/-- Every oneof of a structure in the tree stands where the structure says. -/
def OneofsStand (ctx : Context) (items : List Item) : Prop :=
  ∀ path docs name members, Within items path (.struct docs name members) →
    ∀ docs' member module type numbers, .oneof docs' member module type numbers ∈ members →
      IsPathName module ∧ IsPathName type ∧
        ∃ variants, Within items (path ++ [module]) (.oneof docs' type variants) ∧
          AreTwins ctx (.oneof docs' member module type numbers) (.oneof docs' type variants)

theorem oneofsStand_nil (ctx : Context) : OneofsStand ctx [] :=
  fun _ _ _ _ h => absurd h Within.not_nil

theorem oneofsStand_append {ctx : Context} {items more : List Item} (h : OneofsStand ctx items)
    (h' : OneofsStand ctx more) : OneofsStand ctx (items ++ more) := by
  intro path docs name members hstruct docs' member module type numbers hmember
  rcases Within.append_iff.mp hstruct with hstruct | hstruct
  · obtain ⟨hmodule, htype, variants, hitem, htwins⟩ :=
      h path docs name members hstruct docs' member module type numbers hmember
    exact ⟨hmodule, htype, variants, Within.append_iff.mpr (.inl hitem), htwins⟩
  · obtain ⟨hmodule, htype, variants, hitem, htwins⟩ :=
      h' path docs name members hstruct docs' member module type numbers hmember
    exact ⟨hmodule, htype, variants, Within.append_iff.mpr (.inr hitem), htwins⟩

/-- Trees without structures have no oneofs to look for. -/
theorem oneofsStand_of_no_struct {ctx : Context} {items : List Item}
    (hflat : ∀ docs name inner, Item.module docs name inner ∉ items)
    (hstruct : ∀ docs name members, Item.struct docs name members ∉ items) :
    OneofsStand ctx items := by
  intro path docs name members h
  obtain ⟨-, hmem⟩ := within_of_flat hflat h
  exact absurd hmem (hstruct docs name members)

namespace Context

variable {ctx : Context}

theorem oneof_not_mem_members {place : String} {depth : Nat} {m : MessageDescriptor}
    (e : Emission ctx place depth m) (docs : List String) (name module type : String)
    (numbers : List Int32) : Member.oneof docs name module type numbers ∉ e.members := by
  intro hmem
  obtain ⟨f, -, h⟩ := exists_of_mem_mapM _ _ _ e.members_ok _ hmem
  obtain ⟨-, ⟨-, _, -, heq⟩ | ⟨_, _, _, _, -, -, -, heq⟩⟩ := member_eq_ok h
  · simp at heq
  · simp at heq

theorem oneofsStand_enumItems {items : List Item}
    (h : ∀ item ∈ items, ∃ docs name variants, item = .enum docs name variants) :
    OneofsStand ctx items := by
  refine oneofsStand_of_no_struct (enumItems_flat h) fun docs name members hmem => ?_
  obtain ⟨_, _, _, heq⟩ := h _ hmem
  simp at heq

theorem inner_oneofsStand {place : String} {depth : Nat} {m : MessageDescriptor}
    (e : Emission ctx place depth m) (h : OneofsStand ctx e.messages) :
    OneofsStand ctx e.inner := by
  have honeofs : OneofsStand ctx e.oneofs.items := by
    refine oneofsStand_of_no_struct (oneofs_flat e) fun docs name members hmem => ?_
    obtain ⟨_, _, _, _, heq, -⟩ := oneof_of_mem_oneofs e hmem
    simp at heq
  have henums : OneofsStand ctx e.enums := oneofsStand_enumItems (enum_of_mem_enumItems e.enums_ok)
  exact oneofsStand_append (oneofsStand_append honeofs h) henums

mutual

theorem oneofsStand_messageItems : ∀ (place : String) (depth : Nat) (m : MessageDescriptor)
    (items : List Item), ctx.messageItems place depth m = .ok items → OneofsStand ctx items
  | place, depth, ⟨m, nested⟩, items => by
      intro h
      obtain ⟨e, rfl⟩ := Emission.exists_of_messageItems items h
      have hinner := inner_oneofsStand e
        (oneofsStand_nestedItems place (depth + 1) nested e.messages e.messages_ok)
      intro path docs name members hstruct docs' member module type numbers hmember
      rcases (e.within_items_iff _ _).mp hstruct with ⟨rfl, heq | hmem⟩ | ⟨rest, rfl, hrest⟩
      -- The structure of the message itself: its oneofs are in its own module.
      · obtain ⟨-, -, rfl⟩ := Item.struct.inj heq
        rcases List.mem_append.mp hmember with hmember | hmember
        · exact absurd hmember (oneof_not_mem_members e _ _ _ _ _)
        obtain ⟨i, o, part, hpart, hmem, hsub⟩ :=
          (oneofsParts_eq_ok 0 _ _ e.oneofs_ok).1 _ hmember
        obtain ⟨variants, -, hmodule, htype, rfl⟩ := oneofParts_eq_ok e.isIdentifier_name hpart
        obtain ⟨rfl, rfl, rfl, rfl, rfl⟩ := Member.oneof.inj (List.mem_singleton.mp hmem)
        refine ⟨hmodule, htype, variants, ?_, _, _, _, _, _, hpart⟩
        refine (e.within_items_iff _ _).mpr (.inr ⟨[], rfl, .here ?_⟩)
        exact List.mem_append_left _ (List.mem_append_left _ (hsub (List.mem_singleton_self _)))
      · obtain ⟨_, _, _, heq⟩ := module_of_mem_module e hmem
        simp at heq
      · obtain ⟨hmodule, htype, variants, hitem, htwins⟩ :=
          hinner rest docs name members hrest docs' member module type numbers hmember
        exact ⟨hmodule, htype, variants,
          (e.within_items_iff _ _).mpr (.inr ⟨_, rfl, hitem⟩), htwins⟩

theorem oneofsStand_nestedItems : ∀ (place : String) (depth : Nat)
    (ms : List MessageDescriptor) (items : List Item), ctx.nestedItems place depth ms = .ok items →
    OneofsStand ctx items
  | place, depth, [], items => by
      intro h
      obtain rfl := Except.ok.inj h
      exact oneofsStand_nil ctx
  | place, depth, m :: ms, items => by
      intro h
      rw [nestedItems] at h
      split at h
      · exact oneofsStand_nestedItems place depth ms items h
      · obtain ⟨first, hfirst, h⟩ := (Outcome.bind_eq_ok_iff _ _ _).mp h
        obtain ⟨rest, hrest, h⟩ := (Outcome.bind_eq_ok_iff _ _ _).mp h
        obtain rfl := Except.ok.inj h
        exact oneofsStand_append (oneofsStand_messageItems _ depth m first hfirst)
          (oneofsStand_nestedItems place depth ms rest hrest)

end

theorem oneofsStand_rootItems (ms : List MessageDescriptor) (items : List Item)
    (h : rootItems ctx ms = .ok items) : OneofsStand ctx items := by
  induction ms generalizing items with
  | nil =>
      obtain rfl := Except.ok.inj h
      exact oneofsStand_nil ctx
  | cons m ms ih =>
      obtain ⟨first, hfirst, h⟩ := (Outcome.bind_eq_ok_iff _ _ _).mp h
      obtain ⟨rest, hrest, h⟩ := (Outcome.bind_eq_ok_iff _ _ _).mp h
      obtain rfl := Except.ok.inj h
      exact oneofsStand_append (oneofsStand_messageItems _ 0 m first hfirst) (ih rest hrest)

end Context

/-- The message is found below the messages by the names of the path, and no map entry
is on the way, nor is it one itself. -/
inductive PlainAt : List MessageDescriptor → List String → MessageDescriptor → Prop
  | here {ms : List MessageDescriptor} {m : MessageDescriptor} :
      m ∈ ms → m.isMapEntry = false → PlainAt ms [m.name] m
  | inside {ms : List MessageDescriptor} {m n : MessageDescriptor} {path : List String} :
      m ∈ ms → m.isMapEntry = false → PlainAt m.nested path n → PlainAt ms (m.name :: path) n

theorem PlainAt.messageAt {ms : List MessageDescriptor} {path : List String}
    {n : MessageDescriptor} (h : PlainAt ms path n) : MessageAt ms path n := by
  induction h with
  | here hm _ => exact .here hm
  | inside hm _ _ ih => exact .inside hm ih

/-- The items hold those of every message of the list that is no map entry. -/
def EmitsAll (ctx : Context) (ms : List MessageDescriptor) (depth : Nat) (items : List Item) :
    Prop :=
  ∀ m ∈ ms, m.isMapEntry = false →
    ∃ place own, ctx.messageItems place depth m = .ok own ∧ own ⊆ items

theorem emitsAll_cons {ctx : Context} {m : MessageDescriptor} {ms : List MessageDescriptor}
    {depth : Nat} {first rest : List Item} (place : String)
    (hfirst : ctx.messageItems place depth m = .ok first) (hrest : EmitsAll ctx ms depth rest) :
    EmitsAll ctx (m :: ms) depth (first ++ rest) := by
  refine List.forall_mem_cons.mpr
    ⟨fun _ => ⟨place, first, hfirst, List.subset_append_left _ _⟩, fun n hn hplain => ?_⟩
  obtain ⟨place', own, hown, hsub⟩ := hrest n hn hplain
  exact ⟨place', own, hown, List.subset_append_of_subset_right _ hsub⟩

theorem emitsAll_nestedItems (ctx : Context) (place : String) (depth : Nat)
    (ms : List MessageDescriptor) (items : List Item)
    (h : ctx.nestedItems place depth ms = .ok items) : EmitsAll ctx ms depth items := by
  induction ms generalizing items with
  | nil => simp [EmitsAll]
  | cons m ms ih =>
      rw [Context.nestedItems] at h
      split at h
      · rename_i hentry
        refine List.forall_mem_cons.mpr ⟨fun hplain => ?_, ih items h⟩
        rw [hplain] at hentry
        simp at hentry
      · obtain ⟨first, hfirst, h⟩ := (Outcome.bind_eq_ok_iff _ _ _).mp h
        obtain ⟨rest, hrest, h⟩ := (Outcome.bind_eq_ok_iff _ _ _).mp h
        obtain rfl := Except.ok.inj h
        exact emitsAll_cons _ hfirst (ih rest hrest)

theorem emitsAll_rootItems (ctx : Context) (ms : List MessageDescriptor) (items : List Item)
    (h : rootItems ctx ms = .ok items) : EmitsAll ctx ms 0 items := by
  induction ms generalizing items with
  | nil => simp [EmitsAll]
  | cons m ms ih =>
      obtain ⟨first, hfirst, h⟩ := (Outcome.bind_eq_ok_iff _ _ _).mp h
      obtain ⟨rest, hrest, h⟩ := (Outcome.bind_eq_ok_iff _ _ _).mp h
      obtain rfl := Except.ok.inj h
      exact emitsAll_cons _ hfirst (ih rest hrest)

/-- The modules around the item at a path. -/
def modulesOf (path : List String) : List String := path.dropLast.map moduleName

theorem modulesOf_cons (name : String) (path : List String) (hne : path ≠ []) :
    modulesOf (name :: path) = moduleName name :: modulesOf path := by
  rw [modulesOf, List.dropLast_cons_of_ne_nil hne, List.map_cons, modulesOf]

/-- The items of a message that is no map entry, nor in one, stand in the module that
the messages around it lead to. -/
theorem emission_of_plainAt {ctx : Context} {ms : List MessageDescriptor} {path : List String}
    {n : MessageDescriptor} (h : PlainAt ms path n) (depth : Nat) (items : List Item)
    (hall : EmitsAll ctx ms depth items) :
    ∃ place, ∃ e : Emission ctx place (depth + (modulesOf path).length) n,
      ctx.messageItems place (depth + (modulesOf path).length) n = .ok e.items ∧
        (∀ s ∈ modulesOf path, IsPathName s) ∧
        ∀ rest item, Within e.items rest item → Within items (modulesOf path ++ rest) item := by
  induction h generalizing depth items with
  | here hm hplain =>
      obtain ⟨place, own, hown, hsub⟩ := hall _ hm hplain
      obtain ⟨e, rfl⟩ := Emission.exists_of_messageItems own hown
      exact ⟨place, e, hown, by simp [modulesOf], fun rest item hitem => hitem.mono hsub⟩
  | @inside ms m n path hm hplain hn ih =>
      obtain ⟨place, own, hown, hsub⟩ := hall _ hm hplain
      obtain ⟨e, rfl⟩ := Emission.exists_of_messageItems own hown
      have hnested := emitsAll_nestedItems ctx place (depth + 1) _ _ e.messages_ok
      obtain ⟨place', e', hown', hnames, hwithin⟩ := ih (depth + 1) e.messages hnested
      have hne := hn.messageAt.path_ne_nil
      have hlength : depth + (modulesOf (m.name :: path)).length =
          depth + 1 + (modulesOf path).length := by
        rw [modulesOf_cons _ _ hne, List.length_cons]
        omega
      have hinner (rest : List String) (item : Item) (hitem : Within e'.items rest item) :
          Within e.inner (modulesOf path ++ rest) item :=
        Within.append_iff.mpr (.inl (Within.append_iff.mpr (.inr (hwithin rest item hitem))))
      have hmodule : IsPathName (moduleName m.name) := by
        refine e.module_ok fun hempty => ?_
        have hstruct := hinner [] _ e'.within_struct
        rw [Emission.inner, hempty] at hstruct
        exact Within.not_nil hstruct
      rw [hlength, modulesOf_cons _ _ hne]
      refine ⟨place', e', hown', List.forall_mem_cons.mpr ⟨hmodule, hnames⟩, ?_⟩
      intro rest item hitem
      refine Within.mono ?_ hsub
      exact (e.within_items_iff _ _).mpr (.inr ⟨_, rfl, hinner rest item hitem⟩)

end Generator

end Protogen
