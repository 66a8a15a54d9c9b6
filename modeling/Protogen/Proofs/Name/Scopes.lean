import Protogen.Name.Scope

/-!
# Scopes inside a scope

The scopes around a place in a named thing fall apart in three: those that lie in
the thing, those that end within its name, and those around the thing. Only the
first do not depend on what the thing is called.
-/

namespace Protogen

namespace Name

/-- A place and the scopes around it, as far as the place itself tells them. -/
def innerScopes (place : String) : List String := place :: beforeDots place.toList.reverse

theorem outerScopes_eq (scope : String) : outerScopes scope = innerScopes scope ++ [""] := rfl

theorem beforeDots_append (cs ds : List Char) :
    beforeDots (cs ++ ds) =
      (beforeDots cs).map (fun s => String.ofList ds.reverse ++ s) ++ beforeDots ds := by
  induction cs with
  | nil => rfl
  | cons c cs ih =>
      by_cases hdot : c = '.'
      · simp [beforeDots, hdot, ih]
      · simp [beforeDots, hdot, ih]

theorem beforeDots_of_dotless (cs : List Char) (h : '.' ∉ cs) : beforeDots cs = [] := by
  induction cs with
  | nil => rfl
  | cons c cs ih =>
      rw [List.mem_cons, not_or] at h
      have hdot : c ≠ '.' := fun heq => h.1 heq.symm
      rw [beforeDots, if_neg hdot, ih h.2]

theorem innerScopes_append (scope place : String) :
    innerScopes (scope ++ place) =
      (innerScopes place).map (scope ++ ·) ++ beforeDots scope.toList.reverse := by
  simp [innerScopes, beforeDots_append]

/-- The scopes around a place in the thing `name` of a scope. -/
theorem outerScopes_inside (scope name place : String) :
    outerScopes (scope ++ "." ++ name ++ place) =
      (innerScopes place).map (scope ++ "." ++ name ++ ·) ++
        ((beforeDots name.toList.reverse).map (scope ++ "." ++ ·) ++ outerScopes scope) := by
  have hname : beforeDots (scope ++ "." ++ name).toList.reverse =
      (beforeDots name.toList.reverse).map (scope ++ "." ++ ·) ++ innerScopes scope := by
    have hdot : ".".toList = ['.'] := rfl
    simp [innerScopes, beforeDots_append, beforeDots, hdot, List.append_assoc]
  rw [outerScopes_eq, innerScopes_append, hname, outerScopes_eq]
  simp only [List.append_assoc]

theorem innerScopes_subset (scope name place s : String) (hs : s ∈ innerScopes place) :
    scope ++ "." ++ name ++ s ∈ outerScopes (scope ++ "." ++ name ++ place) := by
  rw [outerScopes_inside]
  exact List.mem_append_left _ (List.mem_map_of_mem hs)

theorem scope_mem_outerScopes (scope name place : String) :
    scope ∈ outerScopes (scope ++ "." ++ name ++ place) := by
  rw [outerScopes_inside]
  exact List.mem_append_right _ (List.mem_append_right _ List.mem_cons_self)

theorem empty_mem_outerScopes (scope : String) : "" ∈ outerScopes scope := by
  simp [outerScopes]

end Name

end Protogen
