import Protogen.Proofs.Source.PathTokens
import Protogen.Source.TypeParser

/-!
# Reading a path

The text of a path inside a file, read as a type, is that path again: every component
becomes a segment without arguments, and nothing is left over.
-/

namespace Protogen

namespace Source

open Name

/-- The reader takes `x` from the front of the tokens and leaves `rest`. -/
def Reads {α : Type} (r : Reader α) (ts : List Token) (x : α) (rest : List Token) : Prop :=
  ∀ leftOver, r.run ⟨ts, leftOver⟩ = .ok (x, ⟨rest, leftOver⟩)

namespace Reads

variable {α β : Type} {ts mid rest : List Token}

theorem pure (x : α) (ts : List Token) : Reads (pure x) ts x ts := fun _ => rfl

theorem bind {r : Reader α} {f : α → Reader β} {x : α} {y : β} (hr : Reads r ts x mid)
    (hf : Reads (f x) mid y rest) : Reads (r >>= f) ts y rest := by
  intro leftOver
  have hfirst := hr leftOver
  rw [StateT.run_bind, hfirst]
  exact hf leftOver

theorem tokens (ts : List Token) : Reads Reader.tokens ts ts ts := fun _ => rfl

theorem drop (count : Nat) (ts : List Token) :
    Reads (Reader.drop count) ts () (ts.drop count) := fun _ => rfl

theorem marks (text : String) (ts : List Token) (h : starts text ts = true) :
    Reads (Reader.marks text) ts () (ts.drop text.length) := by
  refine (tokens ts).bind ?_
  rw [if_pos h]
  exact drop _ ts

theorem no_marks? (text : String) (ts : List Token) (h : starts text ts = false) :
    Reads (Reader.marks? text) ts false ts := by
  refine (tokens ts).bind ?_
  rw [if_neg (by simp [h])]
  exact pure false ts

theorem anyWord (w : String) (ts : List Token) :
    Reads Reader.anyWord (.word w :: ts) w ts :=
  (tokens _).bind ((drop 1 _).bind (pure w ts))

theorem name (w : String) (ts : List Token) (h : isReserved w = false) :
    Reads Reader.name (.word w :: ts) w ts := by
  refine (tokens _).bind ?_
  show Reads (if isReserved w then _ else _) _ _ _
  rw [if_neg (by simp [h])]
  exact (drop 1 _).bind (pure w ts)

end Reads

theorem isReserved_of_isPathName {s : String} (h : IsPathName s) : isReserved s = false := by
  have hbar : s ≠ "_" := by
    rintro rfl
    exact absurd h.identifier (by decide)
  simp [isReserved, h.notKeyword, hbar]

theorem startsMarks_word (c : Char) (cs : List Char) (w : String) (ts : List Token) :
    startsMarks (c :: cs) (.word w :: ts) = false := by
  cases cs <;> rfl

theorem reads_segment (g : Grammar) (s : String) (rest : List String) (hs : IsStep s) :
    Reads (g.segment false) (pathTokens (s :: rest)) (.plain s) (tailTokens rest) := by
  refine (Reads.tokens _).bind ?_
  rcases hs with rfl | hname
  · exact (Reads.anyWord _ _).bind (Reads.pure _ _)
  · have hkeyword := hname.notKeyword
    have hkeywords : ∀ k ∈ placeWords ++ ["Self"], isKeyword k := by decide +kernel
    have hne (k : String) (hk : k ∈ placeWords ++ ["Self"]) : (s == k) = false := by
      rw [Bool.eq_false_iff]
      intro heq
      rw [eq_of_beq heq, hkeywords k hk] at hkeyword
      simp at hkeyword
    have hplace : startsPlace (pathTokens (s :: rest)) = false := by
      rw [startsPlace, startsAnyOf, List.any_eq_false]
      exact fun k hk => by simpa [startsWord, pathTokens] using hne k (List.mem_append_left _ hk)
    have hself : startsWord "Self" (pathTokens (s :: rest)) = false := hne "Self" (by decide)
    have harguments : Grammar.startsArguments false (tailTokens rest) = false := by
      cases rest <;> rfl
    rw [if_neg (by simp [hplace])]
    refine (Reads.tokens _).bind ?_
    rw [if_neg (by simp [hself])]
    refine (Reads.name s _ (isReserved_of_isPathName hname)).bind ?_
    refine (Reads.tokens _).bind ?_
    rw [if_neg (by simp [harguments])]
    exact Reads.pure _ _

/-- Whether a path goes on, as it is asked where a path may end before parentheses. -/
def continues (ts : List Token) : Bool :=
  starts "::" ts && !startsGroup .round (ts.drop 2)

theorem reads_moreSegments (g : Grammar) (rest : List String) (h : ∀ s ∈ rest, IsStep s)
    (fuel : Nat) (hfuel : rest.length < fuel) :
    Reads
      (Reader.whileWithin continues
        (do
          Reader.marks "::"
          g.segment false)
        (pure true) fuel)
      (tailTokens rest) (rest.map Segment.plain) [] := by
  induction rest generalizing fuel with
  | nil =>
      obtain ⟨fuel, rfl⟩ : ∃ n, fuel = n + 1 := ⟨fuel - 1, by omega⟩
      exact (Reads.tokens _).bind (Reads.pure _ _)
  | cons s rest ih =>
      rw [List.length_cons] at hfuel
      obtain ⟨fuel, rfl⟩ : ∃ n, fuel = n + 1 := ⟨fuel - 1, by omega⟩
      have hmore := ih (fun t ht => h t (List.mem_cons_of_mem _ ht)) fuel (by omega)
      refine (Reads.tokens _).bind ?_
      have hcontinues : continues (tailTokens (s :: rest)) = true := rfl
      rw [if_pos hcontinues]
      have hitem : Reads
          (do
            Reader.marks "::"
            g.segment false) (tailTokens (s :: rest)) (.plain s) (tailTokens rest) :=
        (Reads.marks "::" _ rfl).bind (reads_segment g s rest (h s List.mem_cons_self))
      refine hitem.bind ((Reads.pure _ _).bind ?_)
      rw [if_pos rfl]
      exact hmore.bind (Reads.pure _ _)

theorem length_tailTokens (rest : List String) : (tailTokens rest).length = 3 * rest.length := by
  induction rest with
  | nil => rfl
  | cons s rest ih =>
      rw [tailTokens, List.length_cons, List.length_cons, List.length_cons, ih, List.length_cons]
      omega

theorem reads_path (g : Grammar) (s : String) (rest : List String)
    (h : ∀ t ∈ s :: rest, IsStep t) :
    Reads (g.path false) (pathTokens (s :: rest)) (false, (s :: rest).map Segment.plain) [] := by
  have hrooted : starts "::" (pathTokens (s :: rest)) = false := startsMarks_word _ _ _ _
  refine (Reads.no_marks? "::" _ hrooted).bind ?_
  refine (reads_segment g s rest (h s List.mem_cons_self)).bind ?_
  have hmore : Reads (g.moreSegments false fun ts => !startsGroup .round (ts.drop 2))
      (tailTokens rest) (rest.map Segment.plain) [] := by
    refine (Reads.tokens _).bind ?_
    refine reads_moreSegments g rest (fun t ht => h t (List.mem_cons_of_mem _ ht)) _ ?_
    rw [length_tailTokens]
    omega
  exact hmore.bind (Reads.pure _ _)

theorem reads_type (g : Grammar) (s : String) (rest : List String)
    (h : ∀ t ∈ s :: rest, IsStep t) :
    Reads (g.readType true) (pathTokens (s :: rest)) (TypeExpr.ofNames false (s :: rest)) [] := by
  have hs := h s List.mem_cons_self
  have hword (w : String) (hw : w ∈ ["for", "fn", "unsafe", "extern"]) :
      startsWord w (pathTokens (s :: rest)) = false := by
    have hreserved : ∀ k ∈ ["for", "fn", "unsafe", "extern"], isKeyword k ∧ k ≠ "super" := by
      decide +kernel
    rw [pathTokens, startsWord, beq_eq_false_iff_ne]
    rintro rfl
    rcases hs with hsuper | hname
    · exact (hreserved s hw).2 hsuper
    · have hkeyword := hname.notKeyword
      rw [(hreserved s hw).1] at hkeyword
      simp at hkeyword
  have hplace : startsNamedPlace (pathTokens (s :: rest)) = true := by
    rcases hs with rfl | hname
    · rfl
    · simp [startsNamedPlace, startsName, pathTokens, isReserved_of_isPathName hname]
  have hfunction : startsFunction (pathTokens (s :: rest)) = false := by
    rw [startsFunction, hword "fn" (by decide), hword "unsafe" (by decide),
      hword "extern" (by decide)]
    rfl
  have hangle : starts "<" (pathTokens (s :: rest)) = false := startsMarks_word _ _ _ _
  refine (Reads.tokens _).bind ?_
  rw [if_neg (by simp [hword "for" (by decide)]), if_neg (by simp [startsGroup, pathTokens]),
    if_neg (by simp [hfunction]), if_pos (by simp [hplace])]
  refine (Reads.tokens _).bind ?_
  rw [if_neg (by simp [hangle])]
  refine (reads_path g s rest h).bind ?_
  exact (Reads.tokens _).bind (Reads.pure _ _)

/-- The text of a path inside a file is read as that path. -/
theorem TypeExpr.parse_path (steps : List String) (h : ∀ s ∈ steps, IsStep s) (hne : steps ≠ []) :
    TypeExpr.parse ("::".intercalate steps) = .ok (TypeExpr.ofNames false steps) := by
  obtain ⟨s, rest, rfl⟩ := List.exists_cons_of_ne_nil hne
  rw [TypeExpr.parse, Token.all?_path _ h hne]
  simp only [reads_type _ s rest h none]
  rfl

end Source

end Protogen
