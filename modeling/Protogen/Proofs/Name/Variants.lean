import Protogen.Proofs.Name.Legal

/-!
# The names of variants

A value of an enumeration loses the name of the enumeration in front only where a letter follows.
What is left has an identifier then, and the one keyword that a variant can become is `Self`: it
does where nothing but that word was behind the name of the enumeration.
-/

namespace Protogen

namespace Name

open Text Link

/-- Behind the name of the enumeration the value has `rest`, which begins with a letter. -/
structure IsBehindEnumName (enum value rest : String) : Prop where
  value_eq : value = screaming enum ++ "_" ++ rest
  letter : ∃ c, rest.toList.head? = some c ∧ isAlphabetic c

/-- Behind the name of the enumeration the value has only the word `self`, in letters of any case,
and underscores. -/
def LeavesSelf (enum value : String) : Prop :=
  ∃ rest : String, value = screaming enum ++ "_" ++ rest ∧
    ∃ n, (lowercase rest).toList = "self".toList ++ List.replicate n '_'

theorem IsBehindEnumName.withoutEnumName_eq {enum value rest : String}
    (h : IsBehindEnumName enum value rest) : withoutEnumName enum value = rest := by
  obtain ⟨rfl, c, hhead, hletter⟩ := h
  obtain ⟨cs, hrest⟩ := List.head?_eq_some_iff.mp hhead
  have hbehind : (screaming enum ++ "_").toList.isPrefixOf? (screaming enum ++ "_" ++ rest).toList =
      some (c :: cs) :=
    List.isPrefixOf?_eq_some_iff_append_eq.mpr (by rw [← hrest, ← String.toList_append])
  rw [withoutEnumName, hbehind]
  simp [hletter, ← hrest]

theorem withoutEnumName_cases (enum value : String) :
    withoutEnumName enum value = value ∨
      IsBehindEnumName enum value (withoutEnumName enum value) := by
  rw [withoutEnumName]
  split
  · rename_i c cs hbehind
    split
    · rename_i hletter
      refine .inr ⟨?_, c, by simp, hletter⟩
      have happend := List.isPrefixOf?_eq_some_iff_append_eq.mp hbehind
      rw [← String.toList_inj, String.toList_append, String.toList_ofList, happend]
    · exact .inl rfl
  · exact .inl rfl

theorem intercalate_cons_replicate_nil (bar : Char) (w : List Char) (n : Nat) :
    [bar].intercalate (w :: List.replicate n []) = w ++ List.replicate n bar := by
  induction n generalizing w with
  | zero => simp
  | succ n ih =>
      rw [List.replicate_succ, List.intercalate_cons_cons, ih, List.replicate_succ]
      simp

/-- A text without capitals has one word just if nothing but underscores stands behind it. -/
theorem words_eq_singleton_iff {s : String} {w : List Char} (hs : ∀ c ∈ s.toList, IsUncapped c)
    (hbare : s.toList.head? ≠ some '_') (hne : w ≠ []) (hbar : '_' ∉ w) :
    words s = [w] ↔ ∃ n, s.toList = w ++ List.replicate n '_' := by
  rw [words_of_uncapped hs]
  constructor
  · intro hwords
    have hjoined : ['_'].intercalate (s.toList.splitOn '_') = s.toList :=
      List.intercalate_splitOn '_'
    obtain ⟨piece, pieces, hpieces⟩ :=
      List.exists_cons_of_ne_nil (List.splitOn_ne_nil '_' s.toList)
    rw [hpieces] at hwords hjoined
    cases piece with
    | nil =>
        -- An empty first piece means an underscore in front, or no word at all.
        cases pieces with
        | nil => simp at hwords
        | cons p ps =>
            rw [List.intercalate_cons_cons, List.nil_append, List.singleton_append] at hjoined
            exact absurd (by rw [← hjoined]; rfl) hbare
    | cons c cs =>
        rw [List.filter_cons_of_pos rfl, List.cons.injEq, List.filter_eq_nil_iff] at hwords
        obtain ⟨rfl, hempty⟩ := hwords
        have hreplicate : pieces = List.replicate pieces.length [] :=
          List.eq_replicate_iff.mpr ⟨rfl, fun p hp => by simpa using hempty p hp⟩
        refine ⟨pieces.length, ?_⟩
        rw [← hjoined, ← intercalate_cons_replicate_nil, ← hreplicate]
  · rintro ⟨n, hn⟩
    have hpieces : ∀ piece ∈ w :: List.replicate n [], '_' ∉ piece := by
      simp +contextual [hbar, List.mem_replicate]
    rw [hn, ← intercalate_cons_replicate_nil,
      List.splitOn_intercalate '_' hpieces (List.cons_ne_nil _ _)]
    simp [hne]

theorem head?_pascalWord {w : List Char} (h : ∀ c ∈ w, isIdentifierPart c) (hne : w ≠ []) :
    ∃ d ds, pascalWord w = d :: ds ∧ isSmallLetter d = false := by
  obtain ⟨c, cs, rfl⟩ := List.exists_cons_of_ne_nil hne
  obtain ⟨d, hd, -, hsmall⟩ := upperChar_of_identifierPart c (h c List.mem_cons_self)
  exact ⟨d, cs.flatMap lowerChar, by rw [pascalWord, hd]; rfl, hsmall⟩

/-- An identifier in small letters that begins with one of them. -/
structure IsLoweredName (s : String) : Prop where
  lowered : ∀ c ∈ s.toList, IsLowered c
  letter : ∃ c, s.toList.head? = some c ∧ isAsciiLetter c

theorem isLoweredName_lowercase {s : String} (hparts : ∀ c ∈ s.toList, isIdentifierPart c)
    (hletter : ∃ c, s.toList.head? = some c ∧ isAlphabetic c) : IsLoweredName (lowercase s) := by
  obtain ⟨c, hhead, hletter⟩ := hletter
  have hpart := hparts c (List.mem_of_head? hhead)
  have hlower : isAsciiLetter (asciiLower c) :=
    forall_identifierPart (fun c => isAlphabetic c → isAsciiLetter (asciiLower c))
      (by decide +kernel) c hpart hletter
  refine ⟨?_, asciiLower c, ?_, hlower⟩
  · rw [toList_lowercase hparts]
    exact List.forall_mem_map.mpr fun d hd => isLowered_asciiLower d (hparts d hd)
  · rw [toList_lowercase hparts, List.head?_map, hhead, Option.map_some]

namespace IsLoweredName

variable {s : String}

theorem bare (h : IsLoweredName s) : s.toList.head? ≠ some '_' := by
  obtain ⟨c, hhead, hletter⟩ := h.letter
  rw [hhead]
  rintro ⟨⟩
  exact absurd hletter (by decide)

theorem identifier (h : IsLoweredName s) : isIdentifier s := by
  obtain ⟨c, hhead, hletter⟩ := h.letter
  have hbar : c ≠ '_' := by
    rintro rfl
    exact h.bare hhead
  exact (isIdentifier_iff_isAsciiLetter (fun d hd => (h.lowered d hd).part) hhead hbar).mpr hletter

theorem pascal_identifier (h : IsLoweredName s) : isIdentifier (pascal s) := by
  refine ((isStyleOf_pascal h.identifier).isIdentifier_iff h.identifier).mpr ?_
  rw [LeadsWithLetter, withoutBars_of_head?_ne h.bare]
  exact h.letter

theorem flatten_words (h : IsLoweredName s) (hself : pascal s = "Self") :
    (words s).flatten = "self".toList := by
  have hlowered : ∀ c ∈ (words s).flatten, IsLowered c := by
    rw [words, flatten_wordsFrom]
    exact fun c hc => h.lowered c (List.mem_of_mem_filter hc)
  rw [← map_asciiLower_of_isLowered hlowered, ← map_asciiLower_pascal h.identifier, hself]
  decide

/-- Every word begins with a character that is no small letter, so there is one word in `Self`. -/
theorem words_of_pascal_eq_Self (h : IsLoweredName s) (hself : pascal s = "Self") :
    words s = ["self".toList] := by
  have hflatten := h.flatten_words hself
  have hchars : (words s).flatMap pascalWord = ['S', 'e', 'l', 'f'] := by
    rw [← String.toList_inj, pascal, String.toList_ofList] at hself
    exact hself
  have hword (w : List Char) (hw : w ∈ words s) :
      ∃ d ds, pascalWord w = d :: ds ∧ isSmallLetter d = false := by
    refine head?_pascalWord (identifierPart_of_mem_words s h.identifier w hw) ?_
    rintro rfl
    exact nil_not_mem_wordsFrom _ _ _ hw
  cases hwords : words s with
  | nil => simp [hwords] at hchars
  | cons w ws =>
      cases ws with
      | nil =>
          rw [hwords] at hflatten
          simpa using hflatten
      | cons v ws =>
          obtain ⟨d, ds, hd, -⟩ := hword w (by simp [hwords])
          obtain ⟨e, es, he, hsmall⟩ := hword v (by simp [hwords])
          rw [hwords, List.flatMap_cons, List.flatMap_cons, hd, he, List.cons_append,
            List.cons.injEq] at hchars
          have hmem : e ∈ ['e', 'l', 'f'] := by simp [← hchars.2]
          have hall : ['e', 'l', 'f'].all isSmallLetter = true := by decide
          rw [List.all_eq_true.mp hall e hmem] at hsmall
          cases hsmall

theorem pascal_eq_Self_iff (h : IsLoweredName s) :
    pascal s = "Self" ↔ ∃ n, s.toList = "self".toList ++ List.replicate n '_' := by
  have huncapped : ∀ c ∈ s.toList, IsUncapped c := fun c hc => (h.lowered c hc).uncapped
  rw [← words_eq_singleton_iff huncapped h.bare (by decide) (by decide)]
  refine ⟨h.words_of_pascal_eq_Self, fun hwords => ?_⟩
  rw [pascal, hwords]
  decide +kernel

end IsLoweredName

theorem identifierPart_of_append {value front rest : String} (h : isIdentifier value)
    (heq : value = front ++ rest) : ∀ c ∈ rest.toList, isIdentifierPart c := by
  intro c hc
  refine identifierPart_of_isIdentifier value h c ?_
  rw [heq, String.toList_append]
  exact List.mem_append_right _ hc

namespace IsBehindEnumName

variable {enum value rest : String}

theorem isLoweredName (h : IsBehindEnumName enum value rest) (hvalue : isIdentifier value) :
    IsLoweredName (lowercase rest) :=
  isLoweredName_lowercase (identifierPart_of_append hvalue h.value_eq) h.letter

/-- Whether only `self` is left can be seen from what is left. -/
theorem pascal_eq_Self_iff (h : IsBehindEnumName enum value rest) (hvalue : isIdentifier value) :
    pascal (lowercase rest) = "Self" ↔ LeavesSelf enum value := by
  rw [(h.isLoweredName hvalue).pascal_eq_Self_iff]
  refine ⟨fun hself => ⟨rest, h.value_eq, hself⟩, ?_⟩
  rintro ⟨rest', heq, hself⟩
  rw [h.value_eq, String.append_right_inj] at heq
  rwa [heq]

end IsBehindEnumName

theorem LeavesSelf.exists_isBehindEnumName {enum value : String} (hvalue : isIdentifier value)
    (h : LeavesSelf enum value) : ∃ rest, IsBehindEnumName enum value rest := by
  obtain ⟨rest, heq, n, hself⟩ := h
  have hparts := identifierPart_of_append hvalue heq
  rw [toList_lowercase hparts] at hself
  obtain ⟨c, cs, hrest, hc, -⟩ := List.map_eq_cons_iff.mp hself
  have hletter : isAlphabetic c :=
    forall_identifierPart (fun c => asciiLower c = 's' → isAlphabetic c) (by decide +kernel) c
      (hparts c (by simp [hrest])) hc
  exact ⟨rest, heq, c, by rw [hrest, List.head?_cons], hletter⟩

/-- If the whole name of a value becomes an identifier that is no keyword, so does the name without
that of the enumeration, unless only `self` is left of it; an identifier it becomes in any case. -/
theorem variantName_usable_iff (enum : String) {value what : String}
    (h : checkName value what = .ok ()) (hwhole : IsPathName (pascal (lowercase value))) :
    isIdentifier (variantName enum value) ∧
      (IsPathName (variantName enum value) ↔ ¬LeavesSelf enum value) := by
  have hvalue := isIdentifier_of_checkName value what h
  rw [variantName]
  rcases withoutEnumName_cases enum value with heq | hbehind
  · -- The value keeps its whole name, so `self` cannot be all that is left of it.
    rw [heq]
    refine ⟨hwhole.identifier, iff_of_true hwhole fun hself => ?_⟩
    obtain ⟨rest, hrest⟩ := hself.exists_isBehindEnumName hvalue
    have hpascal := (hrest.pascal_eq_Self_iff hvalue).mpr hself
    rw [← hrest.withoutEnumName_eq, heq] at hpascal
    have hkeyword : isKeyword "Self" = true := by decide +kernel
    rw [← hpascal, hwhole.notKeyword] at hkeyword
    cases hkeyword
  · have hlowered := hbehind.isLoweredName hvalue
    have hidentifier := hlowered.pascal_identifier
    refine ⟨hidentifier, ?_⟩
    rw [← hbehind.pascal_eq_Self_iff hvalue, ← isKeyword_pascal_iff _ hlowered.identifier]
    exact ⟨fun h => by simp [h.notKeyword], fun h => ⟨hidentifier, by simpa using h⟩⟩

/-- Behind the name of the enumeration `self` is only the first of two words. -/
theorem selfTest_variant_usable :
    checkName "STATUS_SELF_TEST" "enum value" = .ok () ∧
      IsPathName (pascal (lowercase "STATUS_SELF_TEST")) ∧
      variantName "Status" "STATUS_SELF_TEST" = "SelfTest" ∧
      isIdentifier (variantName "Status" "STATUS_SELF_TEST") ∧
      ¬LeavesSelf "Status" "STATUS_SELF_TEST" := by
  have hcheck : checkName "STATUS_SELF_TEST" "enum value" = .ok () := by decide +kernel
  have hwhole : IsPathName (pascal (lowercase "STATUS_SELF_TEST")) :=
    ⟨by decide +kernel, by decide +kernel⟩
  have hvariant : IsPathName (variantName "Status" "STATUS_SELF_TEST") :=
    ⟨by decide +kernel, by decide +kernel⟩
  obtain ⟨hidentifier, hiff⟩ := variantName_usable_iff "Status" hcheck hwhole
  exact ⟨hcheck, hwhole, by decide +kernel, hidentifier, hiff.mp hvariant⟩

/-- The whole name would be an identifier, but behind that of the enumeration it is a keyword. -/
theorem self_variant_is_keyword :
    checkName "Status" "enum" = .ok () ∧ checkName "STATUS_SELF" "enum value" = .ok () ∧
      IsPathName (pascal (lowercase "STATUS_SELF")) ∧
      variantName "Status" "STATUS_SELF" = "Self" ∧
      ¬IsPathName (variantName "Status" "STATUS_SELF") := by
  refine ⟨by decide +kernel, by decide +kernel, ⟨by decide +kernel, by decide +kernel⟩,
    by decide +kernel, fun h => ?_⟩
  exact absurd h.notKeyword (by decide +kernel)

end Name

end Protogen
