import Protogen.Proofs.Name.Converted
import Protogen.Source.Token

/-!
# The tokens of a path

A path inside a file is written with double colons between its names. Read as source
text it falls into one word for each name, with the two colons as marks between them,
of which the first knows that the second follows.
-/

namespace Protogen

namespace Source

open Text Name

/-- A component of a path inside a file: a step out of a module, or a name. -/
def IsStep (s : String) : Prop := s = "super" ∨ IsPathName s

theorem IsStep.isIdentifier {s : String} (h : IsStep s) : isIdentifier s := by
  rcases h with rfl | h
  · decide
  · exact h.identifier

/-- The characters of paths. -/
def isPathChar (c : Char) : Bool := isIdentifierPart c || c == ':'

theorem isPathChar_of_part {c : Char} (h : isIdentifierPart c) : isPathChar c := by
  rw [isPathChar, h]
  rfl

/-- The tokens of the components behind the first one. -/
def tailTokens : List String → List Token
  | [] => []
  | s :: rest => .mark ':' true :: .mark ':' false :: .word s :: tailTokens rest

/-- The tokens of a path. -/
def pathTokens : List String → List Token
  | [] => []
  | s :: rest => .word s :: tailTokens rest

theorem tailTokens_of_ne_nil (rest : List String) (hne : rest ≠ []) :
    tailTokens rest = .mark ':' true :: .mark ':' false :: pathTokens rest := by
  obtain ⟨t, rest, rfl⟩ := List.exists_cons_of_ne_nil hne
  rfl

theorem text_cons (s : String) (rest : List String) (hne : rest ≠ []) :
    ("::".intercalate (s :: rest)).toList =
      s.toList ++ ':' :: ':' :: ("::".intercalate rest).toList := by
  obtain ⟨t, rest, rfl⟩ := List.exists_cons_of_ne_nil hne
  rw [String.intercalate_cons_cons, String.toList_append, String.toList_append]
  simp

theorem pathChar_of_mem_text (steps : List String) (h : ∀ s ∈ steps, IsStep s) :
    ∀ c ∈ ("::".intercalate steps).toList, isPathChar c := by
  have hcolons : ∀ c ∈ "::".toList, isPathChar c :=
    List.forall_mem_cons.mpr ⟨rfl, List.forall_mem_singleton.mpr rfl⟩
  refine intercalate_chars _ _ _ hcolons fun s hs c hc => isPathChar_of_part ?_
  exact identifierPart_of_isIdentifier s (h s hs).isIdentifier c hc

namespace Token

/-- No comment, literal or raw word begins with characters of paths. -/
theorem afterRaw?_of_pathChars (kind : StringKind) (cs : List Char)
    (h : ∀ c ∈ cs, isPathChar c) : Literal.afterRaw? kind cs = none := by
  rw [Literal.afterRaw?]
  cases cs with
  | nil => rfl
  | cons c cs =>
      have hc := h c List.mem_cons_self
      have hhash : (c == '#') = false := by
        rw [Bool.eq_false_iff]
        intro heq
        rw [eq_of_beq heq] at hc
        exact absurd hc (by decide)
      rw [List.dropWhile_cons, hhash]
      split
      · rename_i rest heq
        obtain ⟨rfl, -⟩ := List.cons.inj heq
        exact absurd hc (by decide)
      · rfl

theorem literal_after?_of_pathChars (c : Char) (cs : List Char)
    (h : ∀ d ∈ c :: cs, isPathChar d) (hdigit : Literal.isDigitChar c = false) :
    Literal.after? (c :: cs) = none := by
  rw [Literal.after?.eq_def]
  split
  · exact absurd (h '"' (by simp_all)) (by decide)
  · rename_i heq
    obtain ⟨-, rfl⟩ := List.cons.inj heq
    exact afterRaw?_of_pathChars _ _ fun d hd => h d (List.mem_cons_of_mem _ hd)
  · exact absurd (h '"' (by simp_all)) (by decide)
  · rename_i heq
    obtain ⟨-, rfl⟩ := List.cons.inj heq
    exact afterRaw?_of_pathChars _ _ fun d hd =>
      h d (List.mem_cons_of_mem _ (List.mem_cons_of_mem _ hd))
  · exact absurd (h '"' (by simp_all)) (by decide)
  · rename_i heq
    obtain ⟨-, rfl⟩ := List.cons.inj heq
    exact afterRaw?_of_pathChars _ _ fun d hd =>
      h d (List.mem_cons_of_mem _ (List.mem_cons_of_mem _ hd))
  · exact absurd (h '\'' (by simp_all)) (by decide)
  · exact absurd (h '\'' (by simp_all)) (by decide)
  · simp [Literal.afterNumber?, hdigit]

/-- What the lexer tells characters of paths from. -/
theorem isPathChar_facts (c : Char) (h : isPathChar c) :
    isSeparator c = false ∧ c ≠ '/' ∧ c ≠ '(' ∧ Bracket.ofOpening? c = none ∧
      Bracket.ofClosing? c = none ∧ c ≠ '\'' ∧ c ≠ '\uFEFF' := by
  rw [isPathChar, Bool.or_eq_true] at h
  rcases h with hpart | hcolon
  · exact forall_identifierPart (fun c => isSeparator c = false ∧ c ≠ '/' ∧ c ≠ '(' ∧
      Bracket.ofOpening? c = none ∧ Bracket.ofClosing? c = none ∧ c ≠ '\'' ∧ c ≠ '\uFEFF')
      (by decide +kernel) c hpart
  · rw [eq_of_beq hcolon]
    decide +kernel

/-- A character of a path begins a token that is neither a comment nor a bracket. -/
theorem lexemes?_of_leaf? (fuel : Nat) (c : Char) (cs : List Char) (hc : isPathChar c)
    (token : Token) (rest : List Char) (hleaf : leaf? (c :: cs) = some (token, rest)) :
    lexemes? (fuel + 1) (c :: cs) = (lexemes? fuel rest).map (.leaf token :: ·) := by
  obtain ⟨hseparator, hslash, hround, hopening, hclosing, -, -⟩ := isPathChar_facts c hc
  have hcomment : afterComment? (c :: cs) = none := by
    rw [afterComment?.eq_def]
    split <;> simp_all
  have hdoc : doc? (c :: cs) = none := by
    rw [doc?.eq_def]
    split <;> simp_all
  have hplaceholder : placeholder.isPrefixOf (c :: cs) = false := by
    have hchars : placeholder = '(' :: "/*ERROR*/)".toList := rfl
    rw [hchars, List.isPrefixOf_cons_cons, beq_eq_false_iff_ne.mpr fun heq => hround heq.symm]
    rfl
  simp [lexemes?, hseparator, hcomment, hdoc, hplaceholder, hopening, hclosing, hleaf]

theorem leaf?_colon (rest : List Char) :
    leaf? (':' :: rest) = some (.mark ':' (startsMark rest), rest) := by
  have hliteral : Literal.after? (':' :: rest) = none := by
    simp [Literal.after?, Literal.afterNumber?, Literal.isDigitChar]
  have hmark : startsMark (':' :: rest) = true := by
    simp [startsMark, isMarkChar]
  simp [leaf?, hliteral, hmark]

/-- No literal begins with characters of paths only. -/
theorem literalStarts_of_pathChars (cs : List Char) (h : ∀ c ∈ cs, isPathChar c) :
    (literalStarts.any fun start => start.isPrefixOf cs) = false := by
  have hstarts : ∀ start ∈ literalStarts, start.any (!isPathChar ·) := by decide
  rw [List.any_eq_false]
  intro start hstart hprefix
  obtain ⟨c, hc, hnot⟩ := List.any_eq_true.mp (hstarts start hstart)
  have hmem := (List.isPrefixOf_iff_prefix.mp hprefix).subset hc
  rw [h c hmem] at hnot
  simp at hnot

theorem afterWord?_of_pathChars (cs : List Char) (h : ∀ c ∈ cs, isPathChar c) :
    afterWord? cs = afterPlainWord? cs := by
  rw [afterWord?.eq_def]
  split
  · exact absurd (h '#' (by simp)) (by decide)
  · rfl

theorem wordChar_facts (c : Char) (h : isIdentifierPart c) :
    isWordPart c ∧ isMarkChar c = false ∧ (isIdentifierStart c →
      isWordStart c ∧ Literal.isDigitChar c = false) :=
  forall_identifierPart (fun c => isWordPart c ∧ isMarkChar c = false ∧ (isIdentifierStart c →
    isWordStart c ∧ Literal.isDigitChar c = false)) (by decide +kernel) c h

theorem dropWhile_wordPart (cs rest : List Char) (hcs : ∀ c ∈ cs, isIdentifierPart c)
    (hrest : ∀ c, rest.head? = some c → c = ':') : (cs ++ rest).dropWhile isWordPart = rest := by
  induction cs with
  | nil =>
      cases rest with
      | nil => rfl
      | cons c rest =>
          obtain rfl := hrest c rfl
          have hcolon : isWordPart ':' = false := by decide +kernel
          rw [List.nil_append, List.dropWhile_cons, if_neg (by simp [hcolon])]
  | cons c cs ih =>
      have hpart := (wordChar_facts c (hcs c List.mem_cons_self)).1
      rw [List.cons_append, List.dropWhile_cons, if_pos hpart]
      exact ih fun d hd => hcs d (List.mem_cons_of_mem _ hd)

theorem startsMark_of_identifierStart (c : Char) (cs : List Char) (h : isIdentifierStart c) :
    startsMark (c :: cs) = false := by
  have hmark := (wordChar_facts c (identifierPart_of_start h)).2.1
  rw [startsMark.eq_def]
  split <;> simp_all

theorem leaf?_word (c : Char) (cs rest : List Char) (hstart : isIdentifierStart c)
    (hparts : ∀ d ∈ c :: cs, isIdentifierPart d) (hpath : ∀ d ∈ rest, isPathChar d)
    (hrest : ∀ d, rest.head? = some d → d = ':') :
    leaf? (c :: (cs ++ rest)) = some (.word (String.ofList (c :: cs)), rest) := by
  have hall : ∀ d ∈ c :: (cs ++ rest), isPathChar d := by
    rw [← List.cons_append, List.forall_mem_append]
    exact ⟨fun d hd => isPathChar_of_part (hparts d hd), hpath⟩
  have htext : textUntil (c :: (cs ++ rest)) rest = String.ofList (c :: cs) := by
    rw [textUntil, ← List.cons_append, List.length_append, Nat.add_sub_cancel, List.take_left]
  obtain ⟨hwordStart, hdigit⟩ := (wordChar_facts c (hparts c List.mem_cons_self)).2.2 hstart
  have hafter : afterWord? (c :: (cs ++ rest)) = some rest := by
    rw [afterWord?_of_pathChars _ hall, afterPlainWord?, if_pos hwordStart,
      dropWhile_wordPart cs rest (fun d hd => hparts d (List.mem_cons_of_mem _ hd)) hrest]
  simp only [leaf?, literal_after?_of_pathChars c _ hall hdigit,
    startsMark_of_identifierStart c _ hstart, word?, literalStarts_of_pathChars _ hall, hafter,
    Option.map_some, htext, Bool.false_eq_true, if_false]

theorem lexemes?_word (fuel : Nat) (s : String) (rest : List Char) (hs : isIdentifier s)
    (hpath : ∀ d ∈ rest, isPathChar d) (hrest : ∀ d, rest.head? = some d → d = ':') :
    lexemes? (fuel + 1) (s.toList ++ rest) =
      (lexemes? fuel rest).map (.leaf (.word s) :: ·) := by
  obtain ⟨c, cs, hchars, hstart, hparts⟩ := chars_of_isIdentifier s hs
  have hleaf := leaf?_word c cs rest hstart hparts hpath hrest
  rw [← hchars, String.ofList_toList] at hleaf
  rw [hchars, List.cons_append]
  exact lexemes?_of_leaf? fuel c _ (isPathChar_of_part (hparts c List.mem_cons_self)) _ _ hleaf

theorem startsMark_text (steps : List String) (h : ∀ s ∈ steps, IsStep s) (hne : steps ≠ []) :
    startsMark ("::".intercalate steps).toList = false := by
  obtain ⟨s, rest, rfl⟩ := List.exists_cons_of_ne_nil hne
  obtain ⟨c, cs, hchars, hstart, -⟩ :=
    chars_of_isIdentifier s (h s List.mem_cons_self).isIdentifier
  by_cases hrest : rest = []
  · rw [hrest, String.intercalate_singleton, hchars]
    exact startsMark_of_identifierStart c _ hstart
  · rw [text_cons s rest hrest, hchars, List.cons_append]
    exact startsMark_of_identifierStart c _ hstart

theorem lexemes?_path (steps : List String) (h : ∀ s ∈ steps, IsStep s) (hne : steps ≠ [])
    (fuel : Nat) (hfuel : ("::".intercalate steps).toList.length < fuel) :
    lexemes? fuel ("::".intercalate steps).toList = some ((pathTokens steps).map Lexeme.leaf) := by
  induction steps generalizing fuel with
  | nil => exact absurd rfl hne
  | cons s rest ih =>
      have hs := (h s List.mem_cons_self).isIdentifier
      have hlength : 0 < s.toList.length := by
        obtain ⟨c, cs, hchars, -⟩ := chars_of_isIdentifier s hs
        simp [hchars]
      by_cases hrest : rest = []
      · rw [hrest, String.intercalate_singleton] at hfuel ⊢
        obtain ⟨fuel, rfl⟩ : ∃ n, fuel = n + 2 := ⟨fuel - 2, by omega⟩
        have hword := lexemes?_word (fuel + 1) s [] hs (by simp) (by simp)
        rw [List.append_nil] at hword
        rw [hword, lexemes?]
        rfl
      · have hpath := pathChar_of_mem_text (s :: rest) h
        rw [text_cons s rest hrest, List.forall_mem_append] at hpath
        rw [text_cons s rest hrest] at hfuel ⊢
        rw [List.length_append, List.length_cons, List.length_cons] at hfuel
        obtain ⟨fuel, rfl⟩ : ∃ n, fuel = n + 3 := ⟨fuel - 3, by omega⟩
        have htail : ∀ t ∈ rest, IsStep t := fun t ht => h t (List.mem_cons_of_mem _ ht)
        have hjoint : startsMark (':' :: ("::".intercalate rest).toList) = true := by
          simp [startsMark, isMarkChar]
        rw [lexemes?_word (fuel + 2) s _ hs hpath.2 (by simp),
          lexemes?_of_leaf? (fuel + 1) ':' _ (by decide) _ _ (leaf?_colon _), hjoint,
          lexemes?_of_leaf? fuel ':' _ (by decide) _ _ (leaf?_colon _),
          startsMark_text rest htail hrest, ih htail hrest fuel (by omega), pathTokens,
          tailTokens_of_ne_nil rest hrest]
        rfl

theorem assembled?_leaves (done ts : List Token) :
    assembled? [] done (ts.map Lexeme.leaf) = some (done.reverse ++ ts) := by
  induction ts generalizing done with
  | nil => simp [assembled?]
  | cons t ts ih =>
      rw [List.map_cons, assembled?, ih, List.reverse_cons, List.append_assoc]
      rfl

/-- A path inside a file has the tokens of its components. -/
theorem all?_path (steps : List String) (h : ∀ s ∈ steps, IsStep s) (hne : steps ≠ []) :
    all? ("::".intercalate steps) = some (pathTokens steps) := by
  have hmark : withoutOrderMark ("::".intercalate steps).toList =
      ("::".intercalate steps).toList := by
    rw [withoutOrderMark.eq_def]
    split
    · rename_i cs hcs
      have hc := pathChar_of_mem_text steps h '\uFEFF' (by simp [hcs])
      exact absurd rfl (isPathChar_facts _ hc).2.2.2.2.2.2
    · rfl
  rw [all?, hmark, lexemes?_path steps h hne _ (Nat.lt_succ_self _), Option.bind_some,
    assembled?_leaves]
  rfl

end Token

end Source

end Protogen
