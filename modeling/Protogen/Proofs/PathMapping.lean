import Protogen.PathMapping
import Protogen.Proofs.Generator.Index

/-!
# Paths of mapped types

The entry that decides about a type name is the longest one that covers it, and the
modules below its path are the names that the type name goes on with. The two sides meet
in `dotted`: what `dotted` joins, one name after a dot each, is taken apart again by
`dottedParts`.
-/

namespace Protogen

namespace PathMapping

open Generator Name Request

/-- The name is the proto path, or goes on after it with a dot. -/
def Covers (proto typeName : String) : Prop :=
  ∃ rest : List Char, typeName.toList = proto.toList ++ rest ∧ (rest = [] ∨ rest.head? = some '.')

/-- Of all entries that cover the type name, the one for `proto` is the longest. -/
structure IsLongestCover (mapping : PathMapping) (typeName proto path : String) : Prop where
  mem : (proto, path) ∈ mapping.entries
  covers : Covers proto typeName
  longest : ∀ e ∈ mapping.entries, Covers e.1 typeName →
    e.1.length < proto.length ∨ e = (proto, path)

theorem remainder?_eq_some_iff (proto typeName : String) (rest : List Char) :
    remainder? proto typeName = some rest ↔
      typeName.toList = proto.toList ++ rest ∧ (rest = [] ∨ rest.head? = some '.') := by
  have hprefix (cs : List Char) : proto.toList.isPrefixOf? typeName.toList = some cs ↔
      typeName.toList = proto.toList ++ cs := by
    rw [List.isPrefixOf?_eq_some_iff_append_eq, eq_comm]
  rw [← hprefix, remainder?]
  split
  · rename_i h
    rw [h]
    grind
  · rename_i cs h
    rw [h]
    grind
  · rename_i hnil hdot
    constructor
    · simp
    · rintro ⟨h, rfl | hhead⟩
      · exact absurd h hnil
      · obtain ⟨cs, rfl⟩ := List.head?_eq_some_iff.mp hhead
        exact absurd h (hdot cs)

theorem covers_iff (proto typeName : String) :
    Covers proto typeName ↔ ∃ rest, remainder? proto typeName = some rest := by
  simp only [remainder?_eq_some_iff]
  rfl

instance (proto typeName : String) : Decidable (Covers proto typeName) :=
  decidable_of_iff ((remainder? proto typeName).isSome = true)
    (by rw [covers_iff, Option.isSome_iff_exists])

instance (mapping : PathMapping) (typeName proto path : String) :
    Decidable (IsLongestCover mapping typeName proto path) :=
  decidable_of_iff ((proto, path) ∈ mapping.entries ∧ Covers proto typeName ∧
      ∀ e ∈ mapping.entries, Covers e.1 typeName → e.1.length < proto.length ∨ e = (proto, path))
    ⟨fun h => ⟨h.1, h.2.1, h.2.2⟩, fun h => ⟨h.mem, h.covers, h.longest⟩⟩

theorem bestCover?_eq_none_iff (typeName : String) (entries : List (String × String)) :
    bestCover? typeName entries = none ↔ ∀ e ∈ entries, remainder? e.1 typeName = none := by
  induction entries with
  | nil => simp [bestCover?]
  | cons e entries ih =>
      rw [List.forall_mem_cons, ← ih, bestCover?]
      cases remainder? e.1 typeName with
      | none => simp
      | some rest =>
          cases bestCover? typeName entries with
          | none => simp
          | some best => grind

/-- What is found is an entry, and no entry that covers the name leaves less of it. -/
theorem bestCover?_eq_some {typeName path : String} {rest : List Char}
    {entries : List (String × String)} (h : bestCover? typeName entries = some (path, rest)) :
    (∃ proto, (proto, path) ∈ entries ∧ remainder? proto typeName = some rest) ∧
      ∀ e ∈ entries, ∀ rest', remainder? e.1 typeName = some rest' →
        rest.length ≤ rest'.length := by
  induction entries generalizing path rest with
  | nil => simp [bestCover?] at h
  | cons e entries ih =>
      rw [bestCover?] at h
      rw [List.forall_mem_cons]
      split at h
      · rename_i own path' rest' hown hbest
        obtain ⟨⟨proto, hmem, hproto⟩, hleast⟩ := ih hbest
        split at h
        · rename_i hlt
          obtain ⟨rfl, rfl⟩ := Prod.mk.inj (Option.some.inj h)
          refine ⟨⟨e.1, List.mem_cons_self, hown⟩, by simp [hown], fun e' he' rest'' h'' => ?_⟩
          exact Nat.le_trans (Nat.le_of_lt hlt) (hleast e' he' rest'' h'')
        · rename_i hnot
          obtain ⟨rfl, rfl⟩ := Prod.mk.inj (Option.some.inj h)
          refine ⟨⟨proto, List.mem_cons_of_mem _ hmem, hproto⟩, fun rest'' h'' => ?_, hleast⟩
          obtain rfl := Option.some.inj (hown.symm.trans h'')
          exact Nat.le_of_not_lt hnot
      · rename_i own hown hbest
        obtain ⟨rfl, rfl⟩ := Prod.mk.inj (Option.some.inj h)
        refine ⟨⟨e.1, List.mem_cons_self, hown⟩, by simp [hown], fun e' he' rest'' h'' => ?_⟩
        simp [(bestCover?_eq_none_iff _ _).mp hbest e' he'] at h''
      · rename_i hown
        obtain ⟨⟨proto, hmem, hproto⟩, hleast⟩ := ih h
        refine ⟨⟨proto, List.mem_cons_of_mem _ hmem, hproto⟩, fun rest'' h'' => ?_, hleast⟩
        simp [hown] at h''

/-- The longest entry that covers a type name decides about its path. -/
theorem resolve?_of_isLongestCover {mapping : PathMapping} {typeName proto path : String}
    {rest : List Char} (h : IsLongestCover mapping typeName proto path)
    (hrest : remainder? proto typeName = some rest) :
    mapping.resolve? typeName = some (pathBelow path (dottedParts rest)) := by
  cases hbest : bestCover? typeName mapping.entries with
  | none =>
      rw [(bestCover?_eq_none_iff _ _).mp hbest _ h.mem] at hrest
      simp at hrest
  | some best =>
      obtain ⟨path', rest'⟩ := best
      obtain ⟨⟨proto', hmem, hproto'⟩, hleast⟩ := bestCover?_eq_some hbest
      have hle := hleast _ h.mem rest hrest
      obtain ⟨htail, -⟩ := (remainder?_eq_some_iff _ _ _).mp hrest
      obtain ⟨htail', -⟩ := (remainder?_eq_some_iff _ _ _).mp hproto'
      -- What the two entries leave of the name has the lengths that they do not cover.
      have hlength : proto.length + rest.length = proto'.length + rest'.length := by
        rw [← String.length_toList, ← String.length_toList, ← List.length_append,
          ← List.length_append, ← htail, ← htail']
      rcases h.longest _ hmem ((covers_iff _ _).mpr ⟨rest', hproto'⟩) with hlt | heq
      · simp only at hlt
        omega
      · obtain ⟨rfl, rfl⟩ := Prod.mk.inj heq
        obtain rfl := Option.some.inj (hrest.symm.trans hproto')
        rw [resolve?, hbest]
        rfl

/-- What is joined with dots is taken apart again. -/
theorem dottedParts_dotted (parts : List String)
    (h : ∀ part ∈ parts, part ≠ "" ∧ '.' ∉ part.toList) :
    dottedParts (dotted parts).toList = parts := by
  have hdots : ∀ cs ∈ [] :: parts.map String.toList, '.' ∉ cs := by
    simpa using fun part hpart => (h part hpart).2
  have hnonempty : (parts.map String.toList).filter (fun cs => !cs.isEmpty) =
      parts.map String.toList := by
    simpa [List.filter_eq_self] using fun part hpart => (h part hpart).1
  rw [dottedParts, toList_dotted, List.splitOn_intercalate _ hdots (by simp),
    List.filter_cons_of_neg (by simp), hnonempty, List.map_map]
  simp [Function.comp_def]

/-- Below the root there is a module for each name but the last. -/
theorem pathBelow_append_singleton (root : String) (outer : List String) (name : String) :
    pathBelow root (outer ++ [name]) =
      "::".intercalate (root :: outer.map moduleName ++ [typeName name]) := by
  induction outer generalizing root with
  | nil => simp [pathBelow]
  | cons part outer ih =>
      have hne : outer ++ [name] = [] → False := by simp
      rw [List.cons_append, pathBelow.eq_3 _ _ _ hne, ih]
      cases outer with
      | nil => simp [String.append_assoc]
      | cons next rest => simp [String.append_assoc]

/-- The entry for no package would have to be followed by a second dot. -/
theorem not_covers_dot {name : String} (hname : name ≠ "") (hdots : '.' ∉ name.toList)
    (rest : List String) : ¬Covers "." (dotted (name :: rest)) := by
  obtain ⟨c, cs, hc⟩ := List.exists_cons_of_ne_nil (by simpa using hname : name.toList ≠ [])
  have hdot : ".".toList = ['.'] := rfl
  have htail : (dotted (name :: rest)).toList = ['.'] ++ c :: (cs ++ (dotted rest).toList) := by
    simp [hdot, hc]
  rintro ⟨rest', heq, hnext⟩
  rw [htail, hdot, List.append_cancel_left_eq] at heq
  rw [← heq] at hnext
  have hfirst : c = '.' := by simpa using hnext
  simp [hc, hfirst] at hdots

/-- A type whose package is mapped has its path below that of the package, if the names
are such that dots only stand between them. -/
theorem resolve?_fullName {mapping : PathMapping} {package root : String} {path : List String}
    (hpackage : IsPlainPackage package) (hne : path ≠ [])
    (hpath : ∀ name ∈ path, name ≠ "" ∧ '.' ∉ name.toList)
    (h : IsLongestCover mapping (fullName package path) ("." ++ package) root) :
    mapping.resolve? (fullName package path) = some (pathBelow root path) := by
  have hname : fullName package path = packageScope package ++ dotted path := by
    rw [fullName, dotted_append, (dotted_packageParts_eq_iff package).mpr hpackage]
  obtain ⟨first, rest, rfl⟩ := List.exists_cons_of_ne_nil hne
  by_cases hempty : package = ""
  · have hcovers := h.covers
    rw [hname, hempty] at hcovers
    obtain ⟨hfirst, hdots⟩ := hpath first List.mem_cons_self
    exact absurd (by simpa [packageScope] using hcovers) (not_covers_dot hfirst hdots rest)
  · have hdot : ".".toList = ['.'] := rfl
    have hhead : (dotted (first :: rest)).toList.head? = some '.' := by simp [hdot]
    have hrest : remainder? ("." ++ package) (fullName package (first :: rest)) =
        some (dotted (first :: rest)).toList := by
      rw [remainder?_eq_some_iff, hname, packageScope, if_neg (by simpa using hempty)]
      exact ⟨String.toList_append, .inr hhead⟩
    rw [resolve?_of_isLongestCover h hrest, dottedParts_dotted _ hpath]

end PathMapping

end Protogen
