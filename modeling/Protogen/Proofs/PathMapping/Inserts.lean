import Mathlib.Data.List.Induction
import Mathlib.Data.List.TakeWhile
import Protogen.Proofs.PathMapping

/-!
# Mappings by their inserts

A mapping is built by inserts, one after the other, and a later one for the same proto path takes
the place of an earlier one. So what a type name is resolved to can be read off the inserts: of
all proto paths that cover the name the longest decides, with the path that was inserted for it
last. The inserts for different proto paths do not meet, so their order does not matter.
-/

namespace Protogen

namespace PathMapping

open Name

/-- What a mapping is built on. -/
inductive Start
  | empty
  | standard

namespace Start

def mapping : Start → PathMapping
  | empty => .empty
  | standard => .standard

/-- The inserts that are there already. -/
def inserts : Start → List (String × String)
  | empty => []
  | standard =>
    [(".google.protobuf", "::prost_types"),
      ("." ++ WellKnown.sharedTypesPackage, "crate::datasets::v1")]

end Start

/-- The mapping after inserts, the first of them made first. -/
def insertAll (mapping : PathMapping) (inserts : List (String × String)) : PathMapping :=
  inserts.foldl (fun mapping i => mapping.insert i.1 i.2) mapping

/-- The proto path has one dot in front, where any number of them may be written. -/
def IsNormalProto (written proto : String) : Prop :=
  ∃ dots rest, written.toList = List.replicate dots '.' ++ rest ∧ rest.head? ≠ some '.' ∧
    proto.toList = '.' :: rest

/-- The path has no double colon at its end, where any number of them may be written. -/
def IsNormalPath (written path : String) : Prop :=
  ∃ pairs, written.toList = path.toList ++ (List.replicate pairs [':', ':']).flatten ∧
    ¬[':', ':'] <:+ path.toList

theorem dropColonPairs_flatten {cs : List Char} (h : ¬[':', ':'] <+: cs) (pairs : Nat) :
    dropColonPairs ((List.replicate pairs [':', ':']).flatten ++ cs) = cs := by
  induction pairs with
  | zero =>
      rw [List.replicate_zero, List.flatten_nil, List.nil_append, dropColonPairs.eq_def]
      split
      · exact absurd (List.prefix_append [':', ':'] _) h
      · rfl
  | succ pairs ih => rwa [List.replicate_succ, List.flatten_cons]

theorem exists_flatten_dropColonPairs (cs : List Char) :
    ∃ pairs, cs = (List.replicate pairs [':', ':']).flatten ++ dropColonPairs cs ∧
      ¬[':', ':'] <+: dropColonPairs cs := by
  induction cs using dropColonPairs.induct with
  | case1 cs ih =>
      obtain ⟨pairs, hcs, hfree⟩ := ih
      refine ⟨pairs + 1, ?_, hfree⟩
      rw [List.replicate_succ, List.flatten_cons, List.append_assoc]
      exact congrArg ([':', ':'] ++ ·) hcs
  | case2 cs hother =>
      have hself : dropColonPairs cs = cs := by
        rw [dropColonPairs.eq_def]
        split
        · exact absurd rfl (hother _)
        · rfl
      refine ⟨0, by simp [hself], ?_⟩
      rw [hself]
      rintro ⟨rest, rfl⟩
      exact hother rest rfl

theorem reverse_flatten_pairs (pairs : Nat) :
    (List.replicate pairs [':', ':']).flatten.reverse =
      (List.replicate pairs [':', ':']).flatten := by
  simp [List.reverse_flatten]

theorem normalPath_eq_iff (written path : String) :
    normalPath written = path ↔ IsNormalPath written path := by
  constructor
  · rintro rfl
    obtain ⟨pairs, hreverse, hfree⟩ := exists_flatten_dropColonPairs written.toList.reverse
    refine ⟨pairs, ?_, ?_⟩
    · rw [normalPath, String.toList_ofList, ← reverse_flatten_pairs, ← List.reverse_append,
        ← hreverse, List.reverse_reverse]
    · rw [normalPath, String.toList_ofList]
      intro hsuffix
      exact hfree (by simpa using List.reverse_prefix.mpr hsuffix)
  · rintro ⟨pairs, hwritten, hfree⟩
    have hreverse : ¬[':', ':'] <+: path.toList.reverse := fun hprefix =>
      hfree (by simpa using List.reverse_suffix.mpr hprefix)
    rw [← String.toList_inj, normalPath, String.toList_ofList, hwritten, List.reverse_append,
      reverse_flatten_pairs, dropColonPairs_flatten hreverse, List.reverse_reverse]

/-! ### The inserts in force -/

/-- The last of the inserts for the proto path maps it to the path. -/
def InForce (inserts : List (String × String)) (proto path : String) : Prop :=
  ∃ before i after, inserts = before ++ i :: after ∧ IsNormalProto i.1 proto ∧
    IsNormalPath i.2 path ∧ ∀ later ∈ after, ¬IsNormalProto later.1 proto

theorem inForce_append_singleton_iff (inserts : List (String × String)) (i : String × String)
    (proto path : String) :
    InForce (inserts ++ [i]) proto path ↔
      (InForce inserts proto path ∧ ¬IsNormalProto i.1 proto) ∨
        (IsNormalProto i.1 proto ∧ IsNormalPath i.2 path) := by
  constructor
  · rintro ⟨before, j, after, heq, hproto, hpath, hlast⟩
    rcases List.eq_nil_or_concat after with rfl | ⟨after, k, rfl⟩
    · obtain ⟨-, hj⟩ := List.append_inj' heq rfl
      obtain rfl := List.singleton_inj.mp hj
      exact .inr ⟨hproto, hpath⟩
    · rw [List.concat_eq_append, ← List.cons_append, ← List.append_assoc] at heq
      obtain ⟨rfl, hk⟩ := List.append_inj' heq rfl
      obtain rfl := List.singleton_inj.mp hk
      rw [List.concat_eq_append, List.forall_mem_append] at hlast
      exact .inl ⟨⟨before, j, after, rfl, hproto, hpath, hlast.1⟩, hlast.2 i (by simp)⟩
  · rintro (⟨⟨before, j, after, rfl, hproto, hpath, hlast⟩, hother⟩ | ⟨hproto, hpath⟩)
    · refine ⟨before, j, after ++ [i], by simp, hproto, hpath, ?_⟩
      exact List.forall_mem_append.mpr ⟨hlast, by simpa using hother⟩
    · exact ⟨inserts, i, [], rfl, hproto, hpath, by simp⟩

theorem InForce.unique {inserts : List (String × String)} {proto path path' : String}
    (h : InForce inserts proto path) (h' : InForce inserts proto path') : path = path' := by
  induction inserts using List.reverseRecOn with
  | nil =>
      obtain ⟨before, i, after, heq, -⟩ := h
      simp at heq
  | append_singleton inserts i ih =>
      rw [inForce_append_singleton_iff] at h h'
      rcases h with ⟨h, hother⟩ | ⟨hproto, hpath⟩
      · rcases h' with ⟨h', -⟩ | ⟨hproto, -⟩
        · exact ih h h'
        · exact absurd hproto hother
      · rcases h' with ⟨-, hother⟩ | ⟨-, hpath'⟩
        · exact absurd hproto hother
        · exact ((normalPath_eq_iff _ _).mpr hpath).symm.trans ((normalPath_eq_iff _ _).mpr hpath')

/-- The names that follow the path of a mapping: modules, and a type as the last one. -/
def namesBelow (parts : List String) : List String :=
  parts.dropLast.map moduleName ++ parts.getLast?.toList.map typeName

theorem pathBelow_eq (root : String) (parts : List String) :
    pathBelow root parts = "::".intercalate (root :: namesBelow parts) := by
  rcases List.eq_nil_or_concat parts with rfl | ⟨outer, name, rfl⟩
  · simp [pathBelow, namesBelow]
  · rw [List.concat_eq_append, pathBelow_append_singleton]
    simp [namesBelow]

/-- For each proto path the same inserts are made in the same order. -/
def SameInserts (inserts inserts' : List (String × String)) : Prop :=
  ∀ proto, inserts.filter (fun i => normalProto i.1 == proto) =
    inserts'.filter (fun i => normalProto i.1 == proto)

namespace SameInserts

variable {inserts inserts' : List (String × String)}

protected theorem symm (h : SameInserts inserts inserts') : SameInserts inserts' inserts :=
  fun proto => (h proto).symm

theorem append_left (before : List (String × String)) (h : SameInserts inserts inserts') :
    SameInserts (before ++ inserts) (before ++ inserts') := by
  intro proto
  rw [List.filter_append, List.filter_append, h proto]

/-- Two inserts for different proto paths may change places. -/
theorem swap {i j : String × String} (h : normalProto i.1 ≠ normalProto j.1)
    (after : List (String × String)) : SameInserts (i :: j :: after) (j :: i :: after) := by
  intro proto
  by_cases hi : normalProto i.1 = proto
  · have hj : normalProto j.1 ≠ proto := fun hj => h (hi.trans hj.symm)
    simp [hi, hj]
  · simp [List.filter_cons, hi]

end SameInserts

end PathMapping

end Protogen
