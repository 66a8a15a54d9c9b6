import Protogen.Link.NameTable
import Protogen.Proofs.Name.Converted

/-!
# Names that are converted alike

The words of an identifier, in small letters, decide about all of its converted forms, and
can be read back from the snake form. Two names with one module name have therefore one
type name, and two names with one field name are one name to the linker, which leaves out
underscores and does not tell capitals from small letters.
-/

namespace Protogen

namespace Name

open Text Link

/-- What changes of case do to the characters of identifiers. -/
structure IsPlainChar (c : Char) : Prop where
  ne_sigma : c ≠ 'Σ'
  lower : lowerChar c = [asciiLower c]
  lower_lower : lowerChar (asciiLower c) = [asciiLower c]
  upper_lower : upperChar (asciiLower c) = upperChar c
  isAlphanumeric : isAlphanumeric c = (c != '_')
  lower_ne_bar : c ≠ '_' → asciiLower c ≠ '_'

theorem isPlainChar_of_identifierPart (c : Char) (hc : isIdentifierPart c) : IsPlainChar c := by
  obtain ⟨h₁, h₂, h₃, h₄, h₅, h₆⟩ := forall_identifierPart (fun c => c ≠ 'Σ' ∧
    lowerChar c = [asciiLower c] ∧ lowerChar (asciiLower c) = [asciiLower c] ∧
    upperChar (asciiLower c) = upperChar c ∧ isAlphanumeric c = (c != '_') ∧
    (c ≠ '_' → asciiLower c ≠ '_')) (by decide +kernel) c hc
  exact ⟨h₁, h₂, h₃, h₄, h₅, h₆⟩

theorem flatten_finishedWord (word : List Char) : (finishedWord word).flatten = word.reverse := by
  cases word with
  | nil => rfl
  | cons c cs => simp [finishedWord]

theorem nil_not_mem_finishedWord (word : List Char) : [] ∉ finishedWord word := by
  cases word with
  | nil => simp [finishedWord]
  | cons c cs => simp [finishedWord]

/-- The words of a name hold its letters and digits in their order. -/
theorem flatten_wordsFrom (state : LetterState) (word cs : List Char) :
    (wordsFrom state word cs).flatten = word.reverse ++ cs.filter isAlphanumeric := by
  induction cs generalizing state word with
  | nil => simp [wordsFrom, flatten_finishedWord]
  | cons c cs ih =>
      rw [wordsFrom]
      split
      · rename_i halnum
        rw [List.filter_cons_of_pos halnum]
        split
        · simp [ih]
        · simp [ih]
      · rename_i halnum
        rw [List.filter_cons_of_neg (by simpa using halnum), List.flatten_append,
          flatten_finishedWord, ih]
        rfl

theorem nil_not_mem_wordsFrom (state : LetterState) (word cs : List Char) :
    [] ∉ wordsFrom state word cs := by
  induction cs generalizing state word with
  | nil => exact nil_not_mem_finishedWord word
  | cons c cs ih =>
      rw [wordsFrom]
      split
      · split
        · rename_i hstarts
          rw [startsWord, Bool.and_eq_true, Bool.and_eq_true] at hstarts
          have hword : word ≠ [] := by simpa using hstarts.1.2
          rw [List.mem_cons, not_or]
          exact ⟨by simpa using hword.symm, ih _ _⟩
        · exact ih _ _
      · rw [List.mem_append, not_or]
        exact ⟨nil_not_mem_finishedWord word, ih _ _⟩

/-- The words of a name in small letters. -/
def lowerWords (name : String) : List (List Char) := (words name).map (List.map asciiLower)

theorem isPlainChar_of_mem_words {name : String} (h : isIdentifier name) {w : List Char}
    (hw : w ∈ words name) : ∀ c ∈ w, IsPlainChar c := fun c hc =>
  isPlainChar_of_identifierPart c (identifierPart_of_mem_words name h w hw c hc)

theorem bar_not_mem_words (name : String) : ∀ w ∈ words name, '_' ∉ w := by
  intro w hw hbar
  have hmem : '_' ∈ (words name).flatten := List.mem_flatten.mpr ⟨w, hw, hbar⟩
  rw [words, flatten_wordsFrom] at hmem
  exact absurd (List.mem_filter.mp hmem).2 (by decide +kernel)

/-- No underscore is left in a word, and no word is empty. -/
theorem lowerWords_spec {name : String} (h : isIdentifier name) :
    ∀ w ∈ lowerWords name, w ≠ [] ∧ '_' ∉ w := by
  refine List.forall_mem_map.mpr fun w hw => ⟨?_, ?_⟩
  · have hne : w ≠ [] := by
      rintro rfl
      exact nil_not_mem_wordsFrom _ _ _ hw
    simpa using hne
  · intro hbar
    obtain ⟨c, hc, hlower⟩ := List.mem_map.mp hbar
    refine (isPlainChar_of_mem_words h hw c hc).lower_ne_bar ?_ hlower
    rintro rfl
    exact bar_not_mem_words name w hw hc

theorem lowerFrom_eq_map (before cs : List Char) (h : ∀ c ∈ cs, IsPlainChar c) :
    lowerFrom before cs = cs.map asciiLower := by
  induction cs generalizing before with
  | nil => rfl
  | cons c cs ih =>
      obtain ⟨hc, hcs⟩ := List.forall_mem_cons.mp h
      rw [lowerFrom, if_neg hc.ne_sigma, hc.lower, ih _ hcs]
      rfl

theorem toList_snake {name : String} (h : isIdentifier name) :
    (snake name).toList = ['_'].intercalate (lowerWords name) := by
  rw [snake, String.toList_intercalate, List.map_map]
  refine congrArg (List.intercalate ['_']) (List.map_congr_left fun w hw => ?_)
  have hw := isPlainChar_of_mem_words h hw
  rw [Function.comp_apply, lowercase, String.toList_ofList, String.toList_ofList,
    lowerFrom_eq_map _ _ hw]

theorem pascal_eq {name : String} (h : isIdentifier name) :
    pascal name = String.ofList ((lowerWords name).flatMap pascalWord) := by
  rw [pascal, lowerWords, List.flatMap_map]
  refine congrArg String.ofList (List.flatMap_congr fun w hw => ?_)
  have hw := isPlainChar_of_mem_words h hw
  cases w with
  | nil => rfl
  | cons c cs =>
      obtain ⟨hc, hcs⟩ := List.forall_mem_cons.mp hw
      rw [List.map_cons, pascalWord, pascalWord, hc.upper_lower, List.flatMap_map]
      refine congrArg (upperChar c ++ ·) (List.flatMap_congr fun d hd => ?_)
      rw [(hcs d hd).lower, (hcs d hd).lower_lower]

/-- The key of the linker is made up of the words. -/
theorem camelKey_eq {name : String} (h : isIdentifier name) :
    camelKey name = (lowerWords name).flatten := by
  rw [lowerWords, ← List.map_flatten, words, flatten_wordsFrom]
  refine congrArg (List.map asciiLower) (List.filter_congr fun c hc => ?_)
  have hpart := identifierPart_of_isIdentifier name h c hc
  exact (isPlainChar_of_identifierPart c hpart).isAlphanumeric.symm

theorem intercalate_ne_nil {bar : Char} {ws : List (List Char)} (hne : ws ≠ [])
    (hws : ∀ w ∈ ws, w ≠ []) : [bar].intercalate ws ≠ [] := by
  match ws with
  | [] => exact absurd rfl hne
  | [w] => simpa using hws w List.mem_cons_self
  | w :: v :: ws => simp [List.intercalate_cons_cons]

/-- Words can be read back from what they are joined to. -/
theorem eq_of_intercalate_eq {bar : Char} {ws vs : List (List Char)}
    (hws : ∀ w ∈ ws, w ≠ [] ∧ bar ∉ w) (hvs : ∀ v ∈ vs, v ≠ [] ∧ bar ∉ v)
    (h : [bar].intercalate ws = [bar].intercalate vs) : ws = vs := by
  by_cases hempty : ws = []
  · subst hempty
    by_contra hne
    exact intercalate_ne_nil (Ne.symm hne) (fun v hv => (hvs v hv).1) h.symm
  · have hne : vs ≠ [] := by
      rintro rfl
      exact intercalate_ne_nil hempty (fun w hw => (hws w hw).1) h
    rw [← List.splitOn_intercalate bar (fun w hw => (hws w hw).2) hempty, h,
      List.splitOn_intercalate bar (fun v hv => (hvs v hv).2) hne]

theorem getLast?_intercalate_ne {bar : Char} {ws : List (List Char)}
    (hws : ∀ w ∈ ws, w ≠ [] ∧ bar ∉ w) : ([bar].intercalate ws).getLast? ≠ some bar := by
  induction ws with
  | nil => simp
  | cons w ws ih =>
      obtain ⟨⟨-, hbar⟩, hrest⟩ := List.forall_mem_cons.mp hws
      cases ws with
      | nil =>
          rw [List.intercalate_singleton]
          exact fun hlast => hbar (List.mem_of_getLast? hlast)
      | cons v vs =>
          have hne : [bar].intercalate (v :: vs) ≠ [] :=
            intercalate_ne_nil (List.cons_ne_nil v vs) fun u hu => (hrest u hu).1
          rw [List.intercalate_cons_cons, List.getLast?_append_of_ne_nil _ hne]
          exact ih hrest

/-- The snake form of a name decides about its words. -/
theorem lowerWords_eq_of_snake_eq {a b : String} (ha : isIdentifier a) (hb : isIdentifier b)
    (h : snake a = snake b) : lowerWords a = lowerWords b := by
  refine eq_of_intercalate_eq (lowerWords_spec ha) (lowerWords_spec hb) ?_
  rw [← toList_snake ha, h, toList_snake hb]

/-- A converted name without what keeps it apart from the keywords. -/
def withoutMarks (cs : List Char) : List Char :=
  if (withoutRawMark cs).getLast? = some '_' then (withoutRawMark cs).dropLast
  else withoutRawMark cs

theorem withoutRawMark_of_not_mem {cs : List Char} (h : '#' ∉ cs) : withoutRawMark cs = cs := by
  rw [withoutRawMark.eq_def]
  split
  · simp at h
  · rfl

/-- Neither mark stands in the name itself. -/
structure IsUnmarked (cs : List Char) : Prop where
  not_raw : '#' ∉ cs
  getLast?_ne : cs.getLast? ≠ some '_'

theorem isUnmarked_snake {name : String} (h : isIdentifier name) :
    IsUnmarked (snake name).toList := by
  refine ⟨fun hmark => ?_, ?_⟩
  · exact absurd (snake_chars name h '#' hmark) (by decide)
  · rw [toList_snake h]
    exact getLast?_intercalate_ne (lowerWords_spec h)

namespace IsUnmarked

variable {cs : List Char}

theorem withoutMarks_self (h : IsUnmarked cs) : withoutMarks cs = cs := by
  rw [withoutMarks, withoutRawMark_of_not_mem h.not_raw, if_neg h.getLast?_ne]

theorem withoutMarks_barred (h : IsUnmarked cs) : withoutMarks (cs ++ ['_']) = cs := by
  have hmark : '#' ∉ cs ++ ['_'] := by simpa using h.not_raw
  rw [withoutMarks, withoutRawMark_of_not_mem hmark, if_pos (by simp), List.dropLast_concat]

theorem withoutMarks_raw (h : IsUnmarked cs) : withoutMarks ('r' :: '#' :: cs) = cs := by
  rw [withoutMarks, withoutRawMark, if_neg h.getLast?_ne]

end IsUnmarked

theorem withoutMarks_fieldName {name : String} (h : isIdentifier name) :
    withoutMarks (fieldName name).toList = (snake name).toList := by
  have hunmarked := isUnmarked_snake h
  rw [fieldName, safeField]
  split
  · rw [String.toList_append]
    exact hunmarked.withoutMarks_barred
  · split
    · rw [String.toList_append]
      exact hunmarked.withoutMarks_raw
    · exact hunmarked.withoutMarks_self

theorem withoutMarks_moduleName {name : String} (h : isIdentifier name) :
    withoutMarks (moduleName name).toList = (snake name).toList := by
  have hunmarked := isUnmarked_snake h
  rw [moduleName, safeModule]
  split
  · rw [String.toList_append]
    exact hunmarked.withoutMarks_barred
  · exact hunmarked.withoutMarks_self

/-- Messages with one module have one type. -/
theorem typeName_eq_of_moduleName_eq {a b : String} (ha : isIdentifier a) (hb : isIdentifier b)
    (h : moduleName a = moduleName b) : typeName a = typeName b := by
  have hsnake : snake a = snake b := by
    rw [← String.toList_inj, ← withoutMarks_moduleName ha, h, withoutMarks_moduleName hb]
  rw [typeName, typeName, pascal_eq ha, pascal_eq hb, lowerWords_eq_of_snake_eq ha hb hsnake]

/-- Fields that would have one name in a structure are one to the linker. -/
theorem camelKey_eq_of_fieldName_eq {a b : String} (ha : isIdentifier a) (hb : isIdentifier b)
    (h : fieldName a = fieldName b) : camelKey a = camelKey b := by
  have hsnake : snake a = snake b := by
    rw [← String.toList_inj, ← withoutMarks_fieldName ha, h, withoutMarks_fieldName hb]
  rw [camelKey_eq ha, camelKey_eq hb, lowerWords_eq_of_snake_eq ha hb hsnake]

end Name

end Protogen
