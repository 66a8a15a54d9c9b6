import Mathlib.Data.List.Basic
import Protogen.Proofs.Name.Distinct

/-!
# The styles of a name

The words of a text are what is left of it between the characters that belong to no word and the
changes of case, so together they are its letters and digits. In a text without capitals only
underscores divide words. The snake form of an identifier is such a text, so its words are those of
the identifier in small letters, and the snake form of a snake form is the same again.
-/

namespace Protogen

namespace Name

open Text Link

/-- A letter or digit that a change to small letters leaves as it is. -/
def isSmallAlphanumeric (c : Char) : Bool := isSmallLetter c || isAsciiDigit c

/-- Words of small letters and digits, with one underscore between each two of them. -/
def IsSnakeCase (s : String) : Prop :=
  ∃ ws : List String, s = "_".intercalate ws ∧
    ∀ w ∈ ws, w ≠ "" ∧ ∀ c ∈ w.toList, isSmallAlphanumeric c

/-- What the two styles of one name have to do with each other and with themselves. -/
structure StylesAgree (name : String) : Prop where
  snake_again : snake (snake name) = snake name
  isSnakeCase : IsSnakeCase (snake name)
  same_letters : String.ofList ((snake name).toList.filter (· != '_')) = lowercase (pascal name)

/-- A character that divides words just if it is an underscore. -/
structure IsUncapped (c : Char) : Prop where
  not_upper : isUppercase c = false
  isAlphanumeric : isAlphanumeric c = (c != '_')

/-- Without capitals, the words of a text are what stands between its underscores. -/
theorem wordsFrom_of_uncapped (state : LetterState) (word cs : List Char)
    (h : ∀ c ∈ cs, IsUncapped c) :
    wordsFrom state word cs =
      ((cs.splitOn '_').modifyHead (word.reverse ++ ·)).filter fun w => !w.isEmpty := by
  induction cs generalizing state word with
  | nil =>
      cases word with
      | nil => rfl
      | cons c word => simp [wordsFrom, finishedWord, List.splitOn_nil]
  | cons c cs ih =>
      obtain ⟨⟨hupper, halnum⟩, hcs⟩ := List.forall_mem_cons.mp h
      obtain ⟨piece, pieces, hpieces⟩ := List.exists_cons_of_ne_nil (List.splitOn_ne_nil '_' cs)
      rw [wordsFrom, List.splitOn_cons_eq_if_modifyHead]
      by_cases hbar : c = '_'
      · have hend : isAlphanumeric c = false := by rw [halnum, hbar]; rfl
        rw [if_neg (by simp [hend]), if_pos (by simp [hbar]), ih _ _ hcs, hpieces]
        cases word with
        | nil => simp [finishedWord]
        | cons d word => simp [finishedWord]
      · have hstays : ¬startsWord state word c cs := by simp [startsWord, hupper]
        have hpart : isAlphanumeric c = true := by simp [halnum, hbar]
        rw [if_pos hpart, if_neg hstays, if_neg (by simpa using hbar), ih _ _ hcs, hpieces]
        simp

theorem words_of_uncapped {name : String} (h : ∀ c ∈ name.toList, IsUncapped c) :
    words name = (name.toList.splitOn '_').filter fun w => !w.isEmpty := by
  obtain ⟨piece, pieces, hpieces⟩ :=
    List.exists_cons_of_ne_nil (List.splitOn_ne_nil '_' name.toList)
  rw [words, wordsFrom_of_uncapped _ _ _ h, hpieces]
  rfl

/-- What a change to small letters makes of the characters of identifiers. -/
structure IsLowered (c : Char) : Prop where
  part : isIdentifierPart c
  uncapped : IsUncapped c
  lower : asciiLower c = c
  small : c ≠ '_' → isSmallAlphanumeric c

theorem isLowered_asciiLower (c : Char) (hc : isIdentifierPart c) : IsLowered (asciiLower c) := by
  obtain ⟨h₁, h₂, h₃, h₄, h₅⟩ := forall_identifierPart (fun c =>
    isIdentifierPart (asciiLower c) ∧ isUppercase (asciiLower c) = false ∧
    isAlphanumeric (asciiLower c) = (asciiLower c != '_') ∧
    asciiLower (asciiLower c) = asciiLower c ∧
    (asciiLower c ≠ '_' → isSmallAlphanumeric (asciiLower c))) (by decide +kernel) c hc
  exact ⟨h₁, ⟨h₂, h₃⟩, h₄, h₅⟩

theorem isLowered_of_mem_lowerWords {name : String} (h : isIdentifier name) {w : List Char}
    (hw : w ∈ lowerWords name) : ∀ c ∈ w, IsLowered c := by
  obtain ⟨v, hv, rfl⟩ := List.mem_map.mp hw
  refine List.forall_mem_map.mpr fun c hc => ?_
  exact isLowered_asciiLower c (identifierPart_of_mem_words name h v hv c hc)

theorem snake_eq {name : String} (h : isIdentifier name) :
    snake name = "_".intercalate ((lowerWords name).map String.ofList) := by
  have hbar : "_".toList = ['_'] := rfl
  rw [← String.toList_inj, toList_snake h, String.toList_intercalate, List.map_map, hbar]
  simp [Function.comp_def]

theorem isLowered_of_mem_snake {name : String} (h : isIdentifier name) :
    ∀ c ∈ (snake name).toList, IsLowered c := by
  have hbar : ∀ c ∈ "_".toList, IsLowered c :=
    List.forall_mem_singleton.mpr (isLowered_asciiLower '_' rfl)
  rw [snake_eq h]
  refine intercalate_chars _ _ _ hbar (List.forall_mem_map.mpr fun w hw => ?_)
  rw [String.toList_ofList]
  exact isLowered_of_mem_lowerWords h hw

theorem map_asciiLower_of_isLowered {cs : List Char} (h : ∀ c ∈ cs, IsLowered c) :
    cs.map asciiLower = cs := by
  rw [List.map_congr_left fun c hc => (h c hc).lower]
  exact List.map_id' cs

theorem toList_lowercase {s : String} (h : ∀ c ∈ s.toList, isIdentifierPart c) :
    (lowercase s).toList = s.toList.map asciiLower := by
  rw [lowercase, String.toList_ofList]
  exact lowerFrom_eq_map _ _ fun c hc => isPlainChar_of_identifierPart c (h c hc)

theorem lowercase_of_isLowered {s : String} (h : ∀ c ∈ s.toList, IsLowered c) :
    lowercase s = s := by
  rw [← String.toList_inj, toList_lowercase fun c hc => (h c hc).part,
    map_asciiLower_of_isLowered h]

/-- The words of the snake form are those of the name, in small letters. -/
theorem words_snake {name : String} (h : isIdentifier name) :
    words (snake name) = lowerWords name := by
  rw [words_of_uncapped fun c hc => (isLowered_of_mem_snake h c hc).uncapped, toList_snake h]
  have hspec := lowerWords_spec h
  by_cases hempty : lowerWords name = []
  · rw [hempty]
    rfl
  · rw [List.splitOn_intercalate '_' (fun w hw => (hspec w hw).2) hempty]
    exact List.filter_eq_self.mpr fun w hw => by simpa using (hspec w hw).1

theorem snake_snake {name : String} (h : isIdentifier name) : snake (snake name) = snake name := by
  have hwords : (lowerWords name).map (fun w => lowercase (String.ofList w)) =
      (lowerWords name).map String.ofList := by
    refine List.map_congr_left fun w hw => lowercase_of_isLowered ?_
    rw [String.toList_ofList]
    exact isLowered_of_mem_lowerWords h hw
  rw [snake, words_snake h, hwords, ← snake_eq h]

theorem isSnakeCase_snake {name : String} (h : isIdentifier name) : IsSnakeCase (snake name) := by
  refine ⟨_, snake_eq h, List.forall_mem_map.mpr fun w hw => ?_⟩
  obtain ⟨hne, hbar⟩ := lowerWords_spec h w hw
  refine ⟨by simpa using hne, fun c hc => ?_⟩
  rw [String.toList_ofList] at hc
  refine (isLowered_of_mem_lowerWords h hw c hc).small ?_
  rintro rfl
  exact hbar hc

theorem filter_intercalate {bar : Char} {ws : List (List Char)} (h : ∀ w ∈ ws, bar ∉ w) :
    ([bar].intercalate ws).filter (· != bar) = ws.flatten := by
  have hkept {w : List Char} (hw : bar ∉ w) : w.filter (· != bar) = w := by
    refine List.filter_eq_self.mpr fun c hc => bne_iff_ne.mpr ?_
    rintro rfl
    exact hw hc
  induction ws with
  | nil => rfl
  | cons w ws ih =>
      obtain ⟨hw, hws⟩ := List.forall_mem_cons.mp h
      cases ws with
      | nil => simp [hkept hw]
      | cons v ws =>
          rw [List.intercalate_cons_cons, List.filter_append, List.filter_append, hkept hw,
            ih hws, List.flatten_cons]
          simp

theorem map_asciiLower_upperChar (c : Char) (hc : isIdentifierPart c) :
    (upperChar c).map asciiLower = [asciiLower c] :=
  forall_identifierPart (fun c => (upperChar c).map asciiLower = [asciiLower c])
    (by decide +kernel) c hc

theorem map_asciiLower_pascalWord {w : List Char} (h : ∀ c ∈ w, isIdentifierPart c) :
    (pascalWord w).map asciiLower = w.map asciiLower := by
  cases w with
  | nil => rfl
  | cons c cs =>
      obtain ⟨hc, hcs⟩ := List.forall_mem_cons.mp h
      have hrest : (cs.flatMap lowerChar).map asciiLower = cs.map asciiLower := by
        rw [List.map_flatMap, List.map_eq_flatMap]
        refine List.flatMap_congr fun d hd => ?_
        have hd := hcs d hd
        rw [(isPlainChar_of_identifierPart d hd).lower, List.map_singleton,
          (isLowered_asciiLower d hd).lower]
      rw [pascalWord, List.map_append, map_asciiLower_upperChar c hc, hrest]
      rfl

theorem map_asciiLower_pascal {name : String} (h : isIdentifier name) :
    (pascal name).toList.map asciiLower = (words name).flatten.map asciiLower := by
  have hparts := identifierPart_of_mem_words name h
  rw [pascal, String.toList_ofList, List.map_flatMap, List.map_flatten, ← List.flatMap_def]
  exact List.flatMap_congr fun w hw => map_asciiLower_pascalWord (hparts w hw)

theorem lowercase_pascal {name : String} (h : isIdentifier name) :
    lowercase (pascal name) = String.ofList (lowerWords name).flatten := by
  rw [← String.toList_inj, toList_lowercase (pascal_parts name h), map_asciiLower_pascal h,
    String.toList_ofList, lowerWords, List.map_flatten]

/-- Nothing of a name is lost in its words, whatever the name, and both styles of an identifier
are made of the same letters and digits, the snake form being final. -/
theorem words_lossless_and_styles_agree (name : String) :
    [] ∉ words name ∧ (words name).flatten = name.toList.filter isAlphanumeric ∧
      ∀ what, checkName name what = .ok () → StylesAgree name := by
  refine ⟨nil_not_mem_wordsFrom _ _ _, flatten_wordsFrom _ _ _, fun what hcheck => ?_⟩
  have h := isIdentifier_of_checkName name what hcheck
  refine ⟨snake_snake h, isSnakeCase_snake h, ?_⟩
  rw [toList_snake h, filter_intercalate fun w hw => (lowerWords_spec h w hw).2, lowercase_pascal h]

/-- A row of capitals, a change of case and an underscore in one name. -/
theorem httpServer_styles_agree :
    checkName "HTTPServer__2D" "message" = .ok () ∧ snake "HTTPServer__2D" = "http_server_2d" ∧
      pascal "HTTPServer__2D" = "HttpServer2d" ∧ StylesAgree "HTTPServer__2D" := by
  have hcheck : checkName "HTTPServer__2D" "message" = .ok () := by decide +kernel
  refine ⟨hcheck, by decide +kernel, by decide +kernel, ?_⟩
  exact (words_lossless_and_styles_agree "HTTPServer__2D").2.2 "message" hcheck

end Name

end Protogen
