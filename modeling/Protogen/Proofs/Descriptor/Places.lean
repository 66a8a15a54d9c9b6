import Mathlib.Data.List.Nodup
import Protogen.Descriptor.Comments

/-!
# Paths and places

A file has messages and enums as its parts, a message its fields, oneofs and whatever is
nested in it, an enum its values. A path leads from part to part by two numbers for each:
the number of the list in its descriptor, then the index there. A place is made of the
names on the way. If parts of one element always differ in their names, and there are no
dots in these, an element has one path only and no other element has its place.
-/

namespace Protogen

namespace Descriptor

/-- What a comment can be about, and the file around it. -/
inductive Subject
  | file (f : FileDescriptor)
  | message (m : MessageDescriptor)
  | field (f : FieldDescriptor)
  | oneof (o : OneofDescriptor)
  | enum (e : EnumDescriptor)
  | value (v : EnumValueDescriptor)

/-- A part with the number of its list and its index there. -/
structure Part where
  list : Int32
  index : Nat
  subject : Subject

def listed {α : Type} (list : Int32) (subject : α → Subject) (xs : List α) : List Part :=
  xs.zipIdx.map fun p => ⟨list, p.2, subject p.1⟩

namespace Subject

def name : Subject → String
  | file f => f.name
  | message m => m.name
  | field f => f.name
  | oneof o => o.name
  | enum e => e.name
  | value v => v.name

def parts : Subject → List Part
  | file f => listed 4 message f.messages ++ listed 5 enum f.enums
  | message m =>
    listed 2 field m.body.fields ++ listed 3 message m.nested ++ listed 4 enum m.body.enums ++
      listed 8 oneof m.body.oneofs
  | enum e => listed 2 value e.values
  | field _ | oneof _ | value _ => []

/-- The names of the parts are distinct and have no dots. -/
structure PartsApart (s : Subject) : Prop where
  nodup : (s.parts.map fun p => p.subject.name).Nodup
  no_dot : ∀ p ∈ s.parts, '.' ∉ p.subject.name.toList

/-- The path leads from the first element inwards to the second, by way of elements with
these names. -/
inductive Leads : Subject → List Int → List String → Subject → Prop
  | here (s : Subject) : Leads s [] [] s
  | inside {s t : Subject} {p : Part} {path : List Int} {names : List String} :
      p ∈ s.parts → Leads p.subject path names t →
      Leads s (p.list.toInt :: p.index :: path) (p.subject.name :: names) t

/-- The names of siblings are distinct and have no dots, from the element inwards. -/
def ApartInside (s : Subject) : Prop :=
  ∀ path names t, s.Leads path names t → t.PartsApart

end Subject

/-- The names of siblings are distinct and have no dots, everywhere in the file. -/
def FileDescriptor.SiblingsApart (file : FileDescriptor) : Prop := (Subject.file file).ApartInside

/-- The place of the element with these names on the way to it. -/
def placeOf (names : List String) : String := ".".intercalate names

theorem placeOf_cons (name : String) (names : List String) :
    placeOf (name :: names) = names.foldl placeIn name := by
  induction names generalizing name with
  | nil => rfl
  | cons next names ih => exact ih (placeIn name next)

theorem placeOf_concat {names : List String} (hne : names ≠ []) (name : String) :
    placeOf (names ++ [name]) = placeIn (placeOf names) name := by
  obtain ⟨first, names, rfl⟩ := List.exists_cons_of_ne_nil hne
  rw [List.cons_append, placeOf_cons, placeOf_cons, List.foldl_concat]

/-- Names without dots can be read off the place. -/
theorem eq_of_placeOf_eq {names names' : List String} (hne : names ≠ []) (hne' : names' ≠ [])
    (hdot : ∀ name ∈ names, '.' ∉ name.toList) (hdot' : ∀ name ∈ names', '.' ∉ name.toList)
    (h : placeOf names = placeOf names') : names = names' := by
  have hsplit {ns : List String} (hne : ns ≠ []) (hdot : ∀ name ∈ ns, '.' ∉ name.toList) :
      (placeOf ns).toList.splitOn '.' = ns.map String.toList := by
    rw [placeOf, String.toList_intercalate]
    exact List.splitOn_intercalate '.' (List.forall_mem_map.mpr hdot) (by simpa using hne)
  refine List.map_injective_iff.mpr (fun a b => String.toList_inj.mp) ?_
  rw [← hsplit hne hdot, h, hsplit hne' hdot']

theorem mem_listed_iff {α : Type} {list : Int32} {subject : α → Subject} {xs : List α} {p : Part} :
    p ∈ listed list subject xs ↔
      ∃ x, xs[p.index]? = some x ∧ p.list = list ∧ p.subject = subject x := by
  rw [listed, List.mem_map]
  constructor
  · rintro ⟨⟨x, index⟩, hmem, rfl⟩
    exact ⟨x, List.mem_zipIdx_iff_getElem?.mp hmem, rfl, rfl⟩
  · rintro ⟨x, hget, hlist, hsubject⟩
    refine ⟨(x, p.index), List.mem_zipIdx_iff_getElem?.mpr hget, ?_⟩
    rw [← hlist, ← hsubject]

@[simp] theorem map_subject_listed {α : Type} (list : Int32) (subject : α → Subject)
    (xs : List α) : (listed list subject xs).map Part.subject = xs.map subject := by
  have hfirst := congrArg (List.map subject) (List.zipIdx_map_fst 0 xs)
  rw [List.map_map] at hfirst
  rw [listed, List.map_map]
  exact hfirst

theorem elementAt?_eq_some_iff {α : Type} (xs : List α) (index : Int32) (x : α) :
    elementAt? xs index = some x ↔ ∃ i : Nat, (i : Int) = index.toInt ∧ xs[i]? = some x := by
  rw [elementAt?]
  split
  · rename_i hpos
    constructor
    · exact fun h => ⟨index.toInt.toNat, by omega, h⟩
    · rintro ⟨i, hi, hget⟩
      rw [← hi, Int.toNat_natCast]
      exact hget
  · rename_i hneg
    refine iff_of_false (by simp) ?_
    rintro ⟨i, hi, -⟩
    omega

namespace Subject

/-- The path leads from the element to one with the place, if its own place is this. -/
def PlacedAt (s : Subject) (place : String) (path : List Int) (found : String) : Prop :=
  ∃ names t, Leads s path names t ∧ found = names.foldl placeIn place

theorem not_leads_singleton {s t : Subject} {list : Int} {names : List String} :
    ¬s.Leads [list] names t := nofun

theorem placedAt_nil_iff (s : Subject) (place found : String) :
    s.PlacedAt place [] found ↔ found = place := by
  constructor
  · rintro ⟨names, t, hleads, rfl⟩
    cases hleads
    rfl
  · rintro rfl
    exact ⟨[], s, .here s, rfl⟩

theorem not_placedAt_singleton (s : Subject) (place found : String) (list : Int) :
    ¬s.PlacedAt place [list] found := by
  rintro ⟨names, t, hleads, -⟩
  exact not_leads_singleton hleads

theorem leads_cons_iff {s t : Subject} {list index : Int32} {path : List Int}
    {names : List String} : s.Leads (list.toInt :: index.toInt :: path) names t ↔
      ∃ p ∈ s.parts, p.list = list ∧ p.index = index.toInt ∧
        ∃ inner, names = p.subject.name :: inner ∧ p.subject.Leads path inner t := by
  constructor
  · generalize hlist : list.toInt = l
    generalize index.toInt = i
    rintro (_ | ⟨hp, hleads⟩)
    exact ⟨_, hp, Int32.toInt_inj.mp hlist.symm, rfl, _, rfl, hleads⟩
  · rintro ⟨p, hp, rfl, hindex, inner, rfl, hleads⟩
    rw [← hindex]
    exact .inside hp hleads

theorem placedAt_cons_iff (s : Subject) (place found : String) (list index : Int32)
    (path : List Int) : s.PlacedAt place (list.toInt :: index.toInt :: path) found ↔
      ∃ p ∈ s.parts, p.list = list ∧ p.index = index.toInt ∧
        p.subject.PlacedAt (placeIn place p.subject.name) path found := by
  constructor
  · rintro ⟨names, t, hleads, rfl⟩
    obtain ⟨p, hp, hlist, hindex, inner, rfl, hinner⟩ := leads_cons_iff.mp hleads
    exact ⟨p, hp, hlist, hindex, inner, t, hinner, rfl⟩
  · rintro ⟨p, hp, hlist, hindex, inner, t, hleads, rfl⟩
    exact ⟨_, t, leads_cons_iff.mpr ⟨p, hp, hlist, hindex, inner, rfl, hleads⟩, rfl⟩

theorem exists_mem_listed_iff {α : Type} (number : Int32) (subject : α → Subject) (xs : List α)
    (list index : Int32) (P : Subject → Prop) :
    (∃ p ∈ listed number subject xs, p.list = list ∧ p.index = index.toInt ∧ P p.subject) ↔
      list = number ∧ ∃ x, elementAt? xs index = some x ∧ P (subject x) := by
  constructor
  · rintro ⟨p, hp, rfl, hindex, h⟩
    obtain ⟨x, hget, rfl, hsubject⟩ := mem_listed_iff.mp hp
    rw [hsubject] at h
    exact ⟨rfl, x, (elementAt?_eq_some_iff _ _ _).mpr ⟨p.index, hindex, hget⟩, h⟩
  · rintro ⟨rfl, x, hget, h⟩
    obtain ⟨i, hi, hget⟩ := (elementAt?_eq_some_iff _ _ _).mp hget
    exact ⟨⟨list, i, subject x⟩, mem_listed_iff.mpr ⟨x, hget, rfl, rfl⟩, rfl, hi, h⟩

theorem exists_mem_append_iff {α : Type} {xs ys : List α} {P : α → Prop} :
    (∃ x ∈ xs ++ ys, P x) ↔ (∃ x ∈ xs, P x) ∨ ∃ x ∈ ys, P x := by
  simp [or_and_right, exists_or]

theorem placedAt_leaf_iff {s : Subject} (h : s.parts = []) (place found : String)
    (path : List Int) : s.PlacedAt place path found ↔ path = [] ∧ found = place := by
  constructor
  · rintro ⟨names, t, hleads, rfl⟩
    cases hleads with
    | here => exact ⟨rfl, rfl⟩
    | inside hp _ => simp [h] at hp
  · rintro ⟨rfl, rfl⟩
    exact (placedAt_nil_iff _ _ _).mpr rfl

end Subject

theorem EnumDescriptor.placeAt?_eq_some_iff (found : String) (e : EnumDescriptor) (place : String)
    (path : List Int32) : e.placeAt? place path = some found ↔
      (Subject.enum e).PlacedAt place (path.map Int32.toInt) found := by
  match path with
  | [] => rw [placeAt?, List.map_nil, Subject.placedAt_nil_iff, Option.some.injEq, eq_comm]
  | [list] =>
      rw [placeAt?]
      · exact iff_of_false (by simp) (Subject.not_placedAt_singleton _ _ _ _)
      all_goals simp
  | list :: index :: rest =>
      rw [List.map_cons, List.map_cons, Subject.placedAt_cons_iff, Subject.parts,
        Subject.exists_mem_listed_iff (P := fun s => s.PlacedAt (placeIn place s.name) _ found)]
      have hvalue (v : EnumValueDescriptor) := Subject.placedAt_leaf_iff (s := .value v) rfl
      simp only [hvalue, List.map_eq_nil_iff]
      cases rest with
      | nil => simp [placeAt?, Subject.name, eq_comm (a := found)]
      | cons next rest => simp [placeAt?]

theorem MessageDescriptor.placeAt?_eq_some_iff (found : String) : ∀ (m : MessageDescriptor)
    (place : String) (path : List Int32),
    m.placeAt? place path = some found ↔
      (Subject.message m).PlacedAt place (path.map Int32.toInt) found
  | m, place, [] => by
      rw [placeAt?, List.map_nil, Subject.placedAt_nil_iff, Option.some.injEq, eq_comm]
  | m, place, [list] => by
      rw [placeAt?]
      exact iff_of_false (by simp) (Subject.not_placedAt_singleton _ _ _ _)
  | m, place, list :: index :: rest => by
      have hlisted {α : Type} (number : Int32) (subject : α → Subject) (xs : List α) :=
        Subject.exists_mem_listed_iff number subject xs list index
          fun s => s.PlacedAt (placeIn place s.name) (rest.map Int32.toInt) found
      have hfield (f : FieldDescriptor) := Subject.placedAt_leaf_iff (s := .field f) rfl
      have honeof (o : OneofDescriptor) := Subject.placedAt_leaf_iff (s := .oneof o) rfl
      rw [placeAt?, List.map_cons, List.map_cons, Subject.placedAt_cons_iff]
      simp only [Subject.parts, Subject.exists_mem_append_iff, hlisted, hfield, honeof,
        List.map_eq_nil_iff, ← EnumDescriptor.placeAt?_eq_some_iff]
      by_cases h3 : list = 3
      · simp [h3, Subject.name, MessageDescriptor.placeAt?_eq_some_iff, Option.bind_eq_some_iff]
      by_cases h4 : list = 4
      · simp [h4, Subject.name, Option.bind_eq_some_iff]
      -- fields and oneofs have no parts, so the path has to end at them
      by_cases h2 : list = 2
      · cases rest <;> simp [h2, Subject.name, eq_comm (a := found)]
      · cases rest <;> simp [h2, h3, h4, Subject.name, eq_comm (a := found)]

namespace FileDescriptor

theorem exists_leads_iff (file : FileDescriptor) (list index : Int32) (path : List Int)
    (found : String) :
    (∃ names s, Subject.Leads (.file file) (list.toInt :: index.toInt :: path) names s ∧
      names ≠ [] ∧ found = placeOf names) ↔
    ∃ p ∈ (Subject.file file).parts, p.list = list ∧ p.index = index.toInt ∧
      p.subject.PlacedAt p.subject.name path found := by
  constructor
  · rintro ⟨names, s, hleads, -, rfl⟩
    obtain ⟨p, hp, hlist, hindex, inner, rfl, hinner⟩ := Subject.leads_cons_iff.mp hleads
    exact ⟨p, hp, hlist, hindex, inner, s, hinner, placeOf_cons _ _⟩
  · rintro ⟨p, hp, hlist, hindex, inner, s, hinner, rfl⟩
    exact ⟨_, s, Subject.leads_cons_iff.mpr ⟨p, hp, hlist, hindex, inner, rfl, hinner⟩,
      List.cons_ne_nil _ _, (placeOf_cons _ _).symm⟩

/-- The place at the end of a path is made of the names on the way. -/
theorem placeAt?_eq_some_iff (file : FileDescriptor) (path : List Int32) (found : String) :
    file.placeAt? path = some found ↔
      ∃ names s, Subject.Leads (.file file) (path.map Int32.toInt) names s ∧ names ≠ [] ∧
        found = placeOf names := by
  match path with
  | [] =>
      refine iff_of_false (by simp [placeAt?]) ?_
      rintro ⟨names, s, hleads, hne, -⟩
      cases hleads
      exact hne rfl
  | [list] =>
      refine iff_of_false (by simp [placeAt?]) ?_
      rintro ⟨names, s, hleads, -⟩
      exact Subject.not_leads_singleton hleads
  | list :: index :: rest =>
      have hlisted {α : Type} (number : Int32) (subject : α → Subject) (xs : List α) :=
        Subject.exists_mem_listed_iff number subject xs list index
          fun s => s.PlacedAt s.name (rest.map Int32.toInt) found
      rw [placeAt?, List.map_cons, List.map_cons, exists_leads_iff]
      simp only [Subject.parts, Subject.exists_mem_append_iff, hlisted]
      by_cases h4 : list = 4
      · simp [h4, Subject.name, MessageDescriptor.placeAt?_eq_some_iff, Option.bind_eq_some_iff]
      · simp [h4, Subject.name, EnumDescriptor.placeAt?_eq_some_iff, Option.bind_eq_some_iff]

end FileDescriptor

namespace Subject

instance (s : Subject) : Decidable s.PartsApart :=
  decidable_of_iff ((s.parts.map fun p => p.subject.name).Nodup ∧
      ∀ p ∈ s.parts, '.' ∉ p.subject.name.toList)
    ⟨fun ⟨hnodup, hdot⟩ => ⟨hnodup, hdot⟩, fun ⟨hnodup, hdot⟩ => ⟨hnodup, hdot⟩⟩

theorem apartInside_iff {s : Subject} :
    s.ApartInside ↔ s.PartsApart ∧ ∀ u ∈ s.parts.map Part.subject, u.ApartInside := by
  rw [List.forall_mem_map]
  constructor
  · exact fun h => ⟨h [] [] s (.here s), fun p hp path names t hleads =>
      h _ _ t (.inside hp hleads)⟩
  · rintro ⟨hparts, hinside⟩ path names t hleads
    cases hleads with
    | here => exact hparts
    | inside hp hleads => exact hinside _ hp _ _ t hleads

theorem apartInside_of_leaf {s : Subject} (h : s.parts = []) : s.ApartInside := by
  rw [apartInside_iff, h]
  exact ⟨⟨by simp [h], by simp [h]⟩, by simp⟩

theorem apartInside_enum_iff {e : EnumDescriptor} :
    (enum e).ApartInside ↔ (enum e).PartsApart := by
  have hvalue (v : EnumValueDescriptor) : (value v).ApartInside := apartInside_of_leaf rfl
  rw [apartInside_iff]
  simp [parts, hvalue]

theorem apartInside_message_iff {m : MessageDescriptor} :
    (message m).ApartInside ↔ (message m).PartsApart ∧
      (∀ n ∈ m.nested, (message n).ApartInside) ∧ ∀ e ∈ m.body.enums, (enum e).PartsApart := by
  have hfield (f : FieldDescriptor) : (field f).ApartInside := apartInside_of_leaf rfl
  have honeof (o : OneofDescriptor) : (oneof o).ApartInside := apartInside_of_leaf rfl
  rw [apartInside_iff]
  simp [parts, or_imp, forall_and, hfield, honeof, apartInside_enum_iff]

theorem apartInside_file_iff {f : FileDescriptor} :
    (file f).ApartInside ↔ (file f).PartsApart ∧
      (∀ m ∈ f.messages, (message m).ApartInside) ∧ ∀ e ∈ f.enums, (enum e).PartsApart := by
  rw [apartInside_iff]
  simp [parts, or_imp, forall_and, apartInside_enum_iff]

theorem ApartInside.of_mem_parts {s : Subject} (h : s.ApartInside) {p : Part} (hp : p ∈ s.parts) :
    p.subject.ApartInside :=
  (apartInside_iff.mp h).2 _ (List.mem_map_of_mem hp)

theorem Leads.concat {s t : Subject} {path : List Int} {names : List String}
    (h : s.Leads path names t) {p : Part} (hp : p ∈ t.parts) :
    s.Leads (path ++ [p.list.toInt, ↑p.index]) (names ++ [p.subject.name]) p.subject := by
  induction h with
  | here => exact .inside hp (.here _)
  | inside hfirst _ ih => exact .inside hfirst (ih hp)

/-- An element that lies in another one can be reached through it. -/
theorem Leads.exists_concat {s t : Subject} {path : List Int} {names : List String}
    (h : s.Leads path names t) (u : Subject) (hu : u ∈ t.parts.map Part.subject) :
    ∃ path, s.Leads path (names ++ [u.name]) u := by
  obtain ⟨p, hp, rfl⟩ := List.mem_map.mp hu
  exact ⟨_, h.concat hp⟩

theorem Leads.no_dot {s t : Subject} {path : List Int} {names : List String}
    (h : s.Leads path names t) (hapart : s.ApartInside) : ∀ name ∈ names, '.' ∉ name.toList := by
  induction h with
  | here => exact fun name hname => absurd hname List.not_mem_nil
  | inside hp hleads ih =>
      have hparts := (apartInside_iff.mp hapart).1
      exact List.forall_mem_cons.mpr ⟨hparts.no_dot _ hp, ih (hapart.of_mem_parts hp)⟩

/-- Where siblings are apart, the names on the way tell the path and the element. -/
theorem Leads.unique {s t t' : Subject} {path path' : List Int} {names : List String}
    (h : s.Leads path names t) (hapart : s.ApartInside) (h' : s.Leads path' names t') :
    path = path' ∧ t = t' := by
  induction h generalizing path' t' with
  | here =>
      cases h'
      exact ⟨rfl, rfl⟩
  | inside hp hleads ih =>
      have hparts := (apartInside_iff.mp hapart).1
      generalize hnames : _ :: _ = names at h'
      cases h' with
      | here => simp at hnames
      | inside hp' hleads' =>
          injection hnames with hname hnames
          subst hnames
          obtain rfl := List.inj_on_of_nodup_map hparts.nodup hp hp' hname
          obtain ⟨rfl, rfl⟩ := ih (hapart.of_mem_parts hp) hleads'
          exact ⟨rfl, rfl⟩

end Subject

/-- Where siblings are apart, only one path leads to the place of an element. -/
theorem FileDescriptor.SiblingsApart.placeAt?_eq_placeOf_iff {file : FileDescriptor}
    (hapart : file.SiblingsApart) {path : List Int} {names : List String} {s : Subject}
    (hleads : Subject.Leads (.file file) path names s) (hne : names ≠ []) (numbers : List Int32) :
    file.placeAt? numbers = some (placeOf names) ↔ numbers.map Int32.toInt = path := by
  rw [FileDescriptor.placeAt?_eq_some_iff]
  constructor
  · rintro ⟨names', s', hleads', hne', hplace⟩
    obtain rfl := eq_of_placeOf_eq hne hne' (hleads.no_dot hapart) (hleads'.no_dot hapart) hplace
    exact (hleads'.unique hapart hleads).1
  · rintro rfl
    exact ⟨names, s, hleads, hne, rfl⟩

end Descriptor

end Protogen
