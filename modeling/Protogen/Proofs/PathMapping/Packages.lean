import Protogen.Proofs.PathMapping.Inserts
import Protogen.Proofs.Text.Pieces

/-!
# Mapped packages

An entry is meant for a package, and every type of the package gets a path by it. The name of a
type has no empty components, because the full name leaves out those of its package. An entry
for a package that has one, such as one behind a dot at the end, covers no type at all.
-/

namespace Protogen

namespace PathMapping

open Generator Name Request

/-- The names of a type and of the messages around it, so that dots only stand between them. -/
def AreTypeNames (names : List String) : Prop :=
  names ≠ [] ∧ ∀ name ∈ names, name ≠ "" ∧ '.' ∉ name.toList

/-- Every type of the package has its path below the root. -/
def MapsPackage (mapping : PathMapping) (package root : String) : Prop :=
  ∀ names, AreTypeNames names → mapping.resolve? (fullName package names) =
    some ("::".intercalate (root :: namesBelow names))

/-- No type of any package has a path. -/
def IsDead (mapping : PathMapping) : Prop :=
  ∀ package names, AreTypeNames names → mapping.resolve? (fullName package names) = none

theorem not_isDead_of_mapsPackage {mapping : PathMapping} {package root : String}
    (h : MapsPackage mapping package root) : ¬IsDead mapping := by
  intro hdead
  have hnames : AreTypeNames ["Track"] := ⟨by simp, by simp⟩
  have hnone := hdead package _ hnames
  rw [h _ hnames] at hnone
  simp at hnone

theorem normalProto_eq (proto : String) : normalProto proto = "." ++ withoutLeadingDots proto := by
  have hdot : ".".toList = ['.'] := rfl
  rw [← String.toList_inj, normalProto, withoutLeadingDots, String.toList_append, hdot,
    String.toList_ofList, String.toList_ofList, List.singleton_append]

theorem not_dot_of_mem_packageParts {package part : String} (h : part ∈ packageParts package) :
    part ≠ "" ∧ '.' ∉ part.toList := by
  obtain ⟨cs, hcs, rfl⟩ := List.mem_map.mp h
  obtain ⟨hsplit, hne⟩ := List.mem_filter.mp hcs
  rw [String.toList_ofList]
  exact ⟨by simpa [← String.toList_eq_nil_iff] using hne, Text.not_mem_of_mem_splitOn hsplit⟩

/-- A part of a text that ends where one of its pieces does has no other pieces. -/
theorem splitOn_append_subset {separator : Char} {cs rest : List Char}
    (h : rest = [] ∨ rest.head? = some separator) :
    cs.splitOn separator ⊆ (cs ++ rest).splitOn separator := by
  rcases h with rfl | h
  · rw [List.append_nil]
    exact List.Subset.refl _
  · obtain ⟨behind, rfl⟩ := List.head?_eq_some_iff.mp h
    rw [List.splitOn_append_cons_self]
    exact List.subset_append_left _ _

/-- Behind its first dot the name is made of the parts again. -/
theorem splitOn_of_toList_dotted {parts : List String} {cs : List Char}
    (hparts : ∀ part ∈ parts, part ≠ "" ∧ '.' ∉ part.toList)
    (h : (dotted parts).toList = '.' :: cs) : cs.splitOn '.' = parts.map String.toList := by
  have hdots : ∀ part ∈ parts.map String.toList, '.' ∉ part :=
    List.forall_mem_map.mpr fun part hpart => (hparts part hpart).2
  rw [toList_dotted] at h
  cases parts with
  | nil => simp at h
  | cons first others =>
      have hjoin : ['.'].intercalate ((first :: others).map String.toList) = cs := by
        simpa using h
      rw [← hjoin, List.splitOn_intercalate _ hdots (by simp)]

/-- What covers a name without empty components has none itself. -/
theorem isPlainPackage_of_covers_dotted {package : String} {parts : List String}
    (hparts : ∀ part ∈ parts, part ≠ "" ∧ '.' ∉ part.toList)
    (h : Covers ("." ++ package) (dotted parts)) : IsPlainPackage package := by
  obtain ⟨rest, hname, hrest⟩ := h
  have hdot : ".".toList = ['.'] := rfl
  rw [String.toList_append, hdot] at hname
  have hsplit := splitOn_of_toList_dotted hparts hname
  refine .inr fun cs hcs => ?_
  obtain ⟨part, hpart, rfl⟩ := List.mem_map.mp (hsplit ▸ splitOn_append_subset hrest hcs)
  simpa using (hparts part hpart).1

/-! ### A single entry -/

section Alone

variable {proto path : String}

theorem resolve?_alone_eq_none_iff (typeName : String) :
    (PathMapping.empty.insert proto path).resolve? typeName = none ↔
      ¬Covers ("." ++ withoutLeadingDots proto) typeName := by
  have hentries : (PathMapping.empty.insert proto path).entries =
      [(normalProto proto, normalPath path)] := rfl
  rw [resolve?, Option.map_eq_none_iff, bestCover?_eq_none_iff, hentries, List.forall_mem_singleton,
    covers_iff, ← normalProto_eq, Option.eq_none_iff_forall_ne_some, not_exists]

theorem isDead_alone (h : ¬IsPlainPackage (withoutLeadingDots proto)) :
    IsDead (PathMapping.empty.insert proto path) := by
  intro package names hnames
  refine (resolve?_alone_eq_none_iff _).mpr fun hcovers => h ?_
  refine isPlainPackage_of_covers_dotted ?_ hcovers
  exact List.forall_mem_append.mpr ⟨fun _ => not_dot_of_mem_packageParts, hnames.2⟩

theorem mapsPackage_alone (hne : withoutLeadingDots proto ≠ "")
    (h : IsPlainPackage (withoutLeadingDots proto)) :
    MapsPackage (PathMapping.empty.insert proto path) (withoutLeadingDots proto)
      (normalPath path) := by
  rintro names ⟨hnil, hnames⟩
  obtain ⟨first, rest, rfl⟩ := List.exists_cons_of_ne_nil hnil
  have hdot : ".".toList = ['.'] := rfl
  have hcovers : Covers ("." ++ withoutLeadingDots proto)
      (fullName (withoutLeadingDots proto) (first :: rest)) := by
    refine ⟨(dotted (first :: rest)).toList, ?_, .inr (by simp [hdot])⟩
    rw [fullName, dotted_append, (dotted_packageParts_eq_iff _).mpr h, packageScope,
      if_neg (by simpa using hne), String.toList_append]
  have hlongest : IsLongestCover (PathMapping.empty.insert proto path)
      (fullName (withoutLeadingDots proto) (first :: rest)) ("." ++ withoutLeadingDots proto)
      (normalPath path) := by
    refine ⟨?_, hcovers, fun e he _ => .inr ?_⟩
    · exact normalProto_eq proto ▸ List.mem_singleton_self _
    · exact normalProto_eq proto ▸ List.mem_singleton.mp he
  rw [resolve?_fullName h hnil hnames hlongest, pathBelow_eq]

/-- A mapping applies to its package, or to nothing. -/
theorem mapsPackage_alone_iff (hne : withoutLeadingDots proto ≠ "") :
    (MapsPackage (PathMapping.empty.insert proto path) (withoutLeadingDots proto)
      (normalPath path) ↔ IsPlainPackage (withoutLeadingDots proto)) ∧
    (IsDead (PathMapping.empty.insert proto path) ↔
      ¬IsPlainPackage (withoutLeadingDots proto)) := by
  refine ⟨⟨fun hmaps => ?_, mapsPackage_alone hne⟩, fun hdead hplain => ?_, isDead_alone⟩
  · by_contra hplain
    exact not_isDead_of_mapsPackage hmaps (isDead_alone hplain)
  · exact not_isDead_of_mapsPackage (mapsPackage_alone hne hplain) hdead

end Alone

end PathMapping

end Protogen
