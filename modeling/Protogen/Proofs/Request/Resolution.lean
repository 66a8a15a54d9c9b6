import Mathlib.Data.List.TakeWhile
import Protogen.Proofs.Request.WellFormed

/-!
# Resolution of relative names

A relative type name is tried as a whole in every scope around the place where it is used, the
innermost scope first. By the rule for dotted names the first component alone decides which scope
is meant, and the rest has to exist there. The two agree exactly if no other scope than the one
that decides is the innermost to have the whole name; a name of one component always does.
-/

namespace Protogen

namespace Request

open Descriptor Name

/-- The scope encloses the place, or it is the empty scope, which lies around everything. -/
def LiesAround (place scope : String) : Prop := Encloses scope place ∨ scope = ""

/-- Of the scopes around the place that have the property, this is the innermost. All of them
are beginnings of the place, so the innermost is the longest. -/
structure IsInnermost (place : String) (p : String → Prop) (scope : String) : Prop where
  around : LiesAround place scope
  holds : p scope
  longest : ∀ other, LiesAround place other → p other → other.length ≤ scope.length

theorem LiesAround.isPrefix {place scope : String} (h : LiesAround place scope) :
    scope.toList <+: place.toList := by
  rcases h with (rfl | ⟨rest, rfl⟩) | rfl
  · exact List.prefix_refl _
  · exact ⟨'.' :: rest.toList, by simp⟩
  · exact List.nil_prefix

theorem IsInnermost.unique {place scope scope' : String} {p : String → Prop}
    (h : IsInnermost place p scope) (h' : IsInnermost place p scope') : scope = scope' := by
  have hlength : scope.toList.length = scope'.toList.length :=
    Nat.le_antisymm (h'.longest scope h.around h.holds) (h.longest scope' h'.around h'.holds)
  have hstart :=
    List.prefix_of_prefix_length_le h.around.isPrefix h'.around.isPrefix (Nat.le_of_eq hlength)
  exact String.toList_inj.mp (hstart.eq_of_length hlength)

theorem length_lt_of_mem_beforeDots {cs : List Char} {s : String} (h : s ∈ beforeDots cs) :
    s.length < cs.length := by
  obtain ⟨rest, rfl⟩ := (mem_beforeDots_iff cs s).mp h
  rw [List.length_append, List.length_cons, List.length_reverse, String.length_toList]
  omega

theorem pairwise_beforeDots (cs : List Char) :
    (beforeDots cs).Pairwise fun s t => t.length ≤ s.length := by
  induction cs with
  | nil => exact .nil
  | cons c cs ih =>
      rw [beforeDots]
      split
      · refine List.pairwise_cons.mpr ⟨fun t ht => ?_, ih⟩
        have hlt := length_lt_of_mem_beforeDots ht
        rw [String.length_ofList, List.length_reverse]
        omega
      · exact ih

/-- The walk along the dots of a place goes from the inside outwards. -/
theorem pairwise_outerScopes (place : String) :
    (outerScopes place).Pairwise fun s t => t.length ≤ s.length := by
  have hbefore : ∀ t ∈ beforeDots place.toList.reverse, t.length ≤ place.length := by
    intro t ht
    have hlt := length_lt_of_mem_beforeDots ht
    rw [List.length_reverse, String.length_toList] at hlt
    omega
  rw [outerScopes, List.cons_append, List.pairwise_cons, List.pairwise_append]
  refine ⟨?_, pairwise_beforeDots _, List.pairwise_singleton _ _, ?_⟩
  · exact List.forall_mem_append.mpr ⟨hbefore, by simp⟩
  · simp

theorem find?_outerScopes_eq_some_iff (place scope : String) (p : String → Bool) :
    (outerScopes place).find? p = some scope ↔ IsInnermost place (fun s => p s = true) scope := by
  have hforward {found : String} (h : (outerScopes place).find? p = some found) :
      IsInnermost place (fun s => p s = true) found := by
    obtain ⟨hfound, before, after, hsplit, hbefore⟩ := List.find?_eq_some_iff_append.mp h
    have hmem : found ∈ outerScopes place := by simp [hsplit]
    refine ⟨(mem_outerScopes_iff _ _).mp hmem, hfound, fun other hother hp => ?_⟩
    have hpairwise := pairwise_outerScopes place
    have hlater : other ∈ found :: after := by
      have hall := (mem_outerScopes_iff _ _).mpr hother
      rw [hsplit] at hall
      exact (List.mem_append.mp hall).resolve_left fun hfirst =>
        absurd hp (by simpa using hbefore other hfirst)
    rw [hsplit, List.pairwise_append, List.pairwise_cons] at hpairwise
    rcases List.mem_cons.mp hlater with rfl | hlater
    · exact Nat.le_refl _
    · exact hpairwise.2.1.1 other hlater
  refine ⟨hforward, fun h => ?_⟩
  have hsome : ((outerScopes place).find? p).isSome :=
    List.find?_isSome.mpr ⟨scope, (mem_outerScopes_iff _ _).mpr h.around, h.holds⟩
  obtain ⟨found, hfound⟩ := Option.isSome_iff_exists.mp hsome
  rw [hfound, (hforward hfound).unique h]

section

variable (types : List String) {place name : String} (hname : ¬IsAbsolute name)

include hname

/-- A relative name stands for what it means in the innermost scope that has it as a whole. -/
theorem resolveType?_eq_some_iff_innermost (t : String) :
    resolveType? types place name = some t ↔
      ∃ scope, IsInnermost place (fun s => s ++ "." ++ name ∈ types) scope ∧
        t = scope ++ "." ++ name := by
  rw [resolveType?_of_relative types place hname, List.find?_map, Option.map_eq_some_iff]
  simp only [find?_outerScopes_eq_some_iff, Function.comp_apply, List.contains_iff_mem,
    eq_comm (b := t)]

theorem resolveType?_eq_none_iff_of_relative :
    resolveType? types place name = none ↔
      ∀ scope, LiesAround place scope → scope ++ "." ++ name ∉ types := by
  rw [← Option.not_isSome_iff_eq_none, resolveType?_isSome_of_relative types place hname]
  simp only [mem_outerScopes_iff, LiesAround, not_exists, not_and]

end

/-- A name up to its first dot. -/
def firstComponent (name : String) : String :=
  String.ofList (name.toList.takeWhile fun c => c != '.')

theorem firstComponent_of_dotless {name : String} (h : '.' ∉ name.toList) :
    firstComponent name = name := by
  have hall : name.toList.takeWhile (fun c => c != '.') = name.toList :=
    List.takeWhile_eq_self_iff.mpr fun c hc => by
      simpa using ne_of_mem_of_not_mem hc h
  rw [firstComponent, hall, String.ofList_toList]

/-- The scope decides about the name: of the scopes around the place it is the innermost one in
which the first component of the name is a type. -/
def ScopeDecides (types : List String) (place name scope : String) : Prop :=
  IsInnermost place (fun s => s ++ "." ++ firstComponent name ∈ types) scope

/-- What a name stands for in one scope, whatever the scopes around it have. -/
def typeBelow? (types : List String) (scope name : String) : Option String :=
  if types.contains (scope ++ "." ++ name) then some (scope ++ "." ++ name) else none

theorem typeBelow?_eq_some_iff (types : List String) (scope name t : String) :
    typeBelow? types scope name = some t ↔
      scope ++ "." ++ name ∈ types ∧ scope ++ "." ++ name = t := by
  simp [typeBelow?]

/-- A relative name stands for what it means in the innermost scope that has it as a whole. That
is what it means in the scope that decides about it exactly if the two scopes are not different
ones, as for every name of one component. -/
theorem resolveType?_eq_typeBelow?_iff (types : List String) (place name scope : String)
    (hname : ¬IsAbsolute name) (hscope : ScopeDecides types place name scope) :
    (∀ t, resolveType? types place name = some t ↔
      ∃ inner, IsInnermost place (fun s => s ++ "." ++ name ∈ types) inner ∧
        t = inner ++ "." ++ name) ∧
    (resolveType? types place name = typeBelow? types scope name ↔
      ∀ inner, IsInnermost place (fun s => s ++ "." ++ name ∈ types) inner → inner = scope) ∧
    ('.' ∉ name.toList → resolveType? types place name = some (scope ++ "." ++ name)) := by
  have hsome := @resolveType?_eq_some_iff_innermost types place name hname
  refine ⟨hsome, ⟨fun heq inner hinner => ?_, fun hsame => ?_⟩, fun hdotless => ?_⟩
  · have hresolved := (hsome _).mpr ⟨inner, hinner, rfl⟩
    rw [heq] at hresolved
    have hbelow := ((typeBelow?_eq_some_iff _ _ _ _).mp hresolved).2
    exact (String.append_left_inj _).mp ((String.append_left_inj _).mp hbelow.symm)
  · cases hresolved : resolveType? types place name with
    | none =>
        have hnone := (resolveType?_eq_none_iff_of_relative types hname).mp hresolved
        rw [typeBelow?, if_neg (by simpa using hnone scope hscope.around)]
    | some t =>
        obtain ⟨inner, hinner, rfl⟩ := (hsome t).mp hresolved
        obtain rfl := hsame inner hinner
        rw [typeBelow?, if_pos (by simpa using hinner.holds)]
  · rw [ScopeDecides, firstComponent_of_dotless hdotless] at hscope
    exact (hsome _).mpr ⟨scope, hscope, rfl⟩

/-- A track with a field for a label of a point, which is the point at the top of the file unless
one is nested in the track. -/
def labelledFile (nested : List MessageDescriptor) : FileDescriptor :=
  { FileDescriptor.blank with
    name? := some "track.proto"
    package? := some "tracks"
    syntaxName? := some "proto3"
    messages :=
      [⟨{ MessageBody.blank with
          name? := some "Track"
          fields :=
            [{ FieldDescriptor.blank with
              name? := some "label"
              number? := some 1
              label? := some Label.optional.toNumber
              type? := some DeclaredType.message.toNumber
              typeName? := some "Point.Label" }] }, nested⟩,
        ⟨{ MessageBody.blank with name? := some "Point" },
          [⟨{ MessageBody.blank with name? := some "Label" }, []⟩]⟩] }

def bareMessage (name : String) : MessageDescriptor :=
  ⟨{ MessageBody.blank with name? := some name }, []⟩

/-- Without another point in between, the label is the one of the point at the top. -/
theorem label_found_in_point :
    let types := definedTypes [labelledFile []]
    ScopeDecides types ".tracks.Track" "Point.Label" ".tracks" ∧
      resolveType? types ".tracks.Track" "Point.Label" =
        typeBelow? types ".tracks" "Point.Label" ∧
      typeBelow? types ".tracks" "Point.Label" = some ".tracks.Point.Label" := by
  intro types
  have hdecides : ScopeDecides types ".tracks.Track" "Point.Label" ".tracks" := by
    have hfind : (outerScopes ".tracks.Track").find?
        (fun s => types.contains (s ++ "." ++ firstComponent "Point.Label")) = some ".tracks" := by
      decide +kernel
    simpa [ScopeDecides] using (find?_outerScopes_eq_some_iff _ _ _).mp hfind
  have hwhole : (outerScopes ".tracks.Track").find?
      (fun s => types.contains (s ++ "." ++ "Point.Label")) = some ".tracks" := by decide +kernel
  have hinner := (find?_outerScopes_eq_some_iff _ _ _).mp hwhole
  simp only [List.contains_iff_mem] at hinner
  refine ⟨hdecides, ?_, by decide +kernel⟩
  exact (resolveType?_eq_typeBelow?_iff types _ _ _ (by decide) hdecides).2.1.mpr
    fun inner h => h.unique hinner

/-- A point nested in the track has no label, but it is passed over: the label of the point at
the top is found all the same, and the request is refused only when the files are linked. -/
theorem label_found_past_point :
    let q : GeneratorRequest :=
      ⟨["track.proto"], none, [labelledFile [bareMessage "Point"]], none⟩
    let types := definedTypes q.files
    ScopeDecides types ".tracks.Track" "Point.Label" ".tracks.Track" ∧
      typeBelow? types ".tracks.Track" "Point.Label" = none ∧
      resolveType? types ".tracks.Track" "Point.Label" = some ".tracks.Point.Label" ∧
      validate q =
        .error (.unlinked (.shadowedName "Point.Label" "tracks.Track.Point.Label")) := by
  intro q types
  have hfind : (outerScopes ".tracks.Track").find?
      (fun s => types.contains (s ++ "." ++ firstComponent "Point.Label")) =
        some ".tracks.Track" := by decide +kernel
  refine ⟨?_, by decide +kernel, by decide +kernel, by decide +kernel⟩
  simpa [ScopeDecides] using (find?_outerScopes_eq_some_iff _ _ _).mp hfind

end Request

end Protogen
