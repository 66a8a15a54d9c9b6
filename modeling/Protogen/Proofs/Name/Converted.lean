import Mathlib.Data.List.Basic
import Protogen.Name.Identifier

/-!
# Converted names

A name of the schema that is an identifier has ASCII letters, digits and underscores
only, and so have its converted forms. A converted form that is accepted is then an
identifier that is no keyword: a type begins with a capital, and a module that would be
a keyword has an underscore behind it.
-/

namespace Protogen

namespace Name

open Text

/-- A name that can stand in a path as it is. -/
structure IsPathName (s : String) : Prop where
  identifier : isIdentifier s
  notKeyword : isKeyword s = false

theorem IsPathName.ne_super {s : String} (h : IsPathName s) : s ≠ "super" := by
  have hsuper : isKeyword "super" = true := by decide +kernel
  rintro rfl
  rw [h.notKeyword] at hsuper
  simp at hsuper

/-- What holds for the first 128 characters holds for those of identifiers. -/
theorem forall_identifierPart (P : Char → Prop)
    (h : ∀ n : Fin 128, isIdentifierPart (Char.ofNat n) → P (Char.ofNat n)) (c : Char)
    (hc : isIdentifierPart c) : P c := by
  have hlt : c.toNat < 128 := by
    simp only [isIdentifierPart, isAsciiLetter, isAsciiDigit, Bool.or_eq_true, Bool.and_eq_true,
      decide_eq_true_eq, beq_iff_eq, Char.le_def, UInt32.le_iff_toNat_le] at hc
    have hvalues : 'z'.val.toNat = 122 ∧ 'Z'.val.toNat = 90 ∧ '9'.val.toNat = 57 := ⟨rfl, rfl, rfl⟩
    have hval : c.val.toNat = c.toNat := rfl
    rcases hc with ((⟨-, hz⟩ | ⟨-, hZ⟩) | ⟨-, h9⟩) | rfl
    · omega
    · omega
    · omega
    · decide
  have hself : Char.ofNat c.toNat = c := Char.ofNat_toNat c
  have hchar := h ⟨c.toNat, hlt⟩
  simp only [hself] at hchar
  exact hchar hc

def isSmallLetter (c : Char) : Bool := decide ('a' ≤ c) && decide (c ≤ 'z')

theorem lowerChar_of_identifierPart (c : Char) (hc : isIdentifierPart c) :
    c ≠ 'Σ' ∧ (lowerChar c).all isIdentifierPart :=
  forall_identifierPart (fun c => c ≠ 'Σ' ∧ (lowerChar c).all isIdentifierPart)
    (by decide +kernel) c hc

/-- Raising a character leaves one character, which is no small letter. -/
theorem upperChar_of_identifierPart (c : Char) (hc : isIdentifierPart c) :
    ∃ d, upperChar c = [d] ∧ isIdentifierPart d ∧ isSmallLetter d = false := by
  have h : (upperChar c).all isIdentifierPart ∧
      (upperChar c).head?.map isSmallLetter = some false ∧ (upperChar c).length = 1 :=
    forall_identifierPart (fun c => (upperChar c).all isIdentifierPart ∧
      (upperChar c).head?.map isSmallLetter = some false ∧ (upperChar c).length = 1)
      (by decide +kernel) c hc
  obtain ⟨hall, hhead, hlength⟩ := h
  obtain ⟨d, hd⟩ := List.length_eq_one_iff.mp hlength
  rw [hd] at hall hhead
  exact ⟨d, hd, by simpa using hall, by simpa using hhead⟩

/-- The words of a text have no characters that the text has not. -/
theorem mem_of_mem_wordsFrom (state : LetterState) (word cs : List Char) (w : List Char)
    (hw : w ∈ wordsFrom state word cs) (c : Char) (hc : c ∈ w) : c ∈ word ∨ c ∈ cs := by
  have hfinished (word : List Char) (hw : w ∈ finishedWord word) : c ∈ word := by
    rw [finishedWord] at hw
    split at hw
    · simp at hw
    · obtain rfl := List.mem_singleton.mp hw
      exact List.mem_reverse.mp hc
  induction cs generalizing state word with
  | nil => exact .inl (hfinished word hw)
  | cons d cs ih =>
      rw [wordsFrom] at hw
      split at hw
      · split at hw
        · rcases List.mem_cons.mp hw with rfl | hw
          · exact .inl (List.mem_reverse.mp hc)
          · rcases ih _ _ hw with hd | hcs
            · exact .inr (List.mem_cons.mpr (.inl (List.mem_singleton.mp hd)))
            · exact .inr (List.mem_cons_of_mem _ hcs)
        · rcases ih _ _ hw with hd | hcs
          · rcases List.mem_cons.mp hd with rfl | hd
            · exact .inr List.mem_cons_self
            · exact .inl hd
          · exact .inr (List.mem_cons_of_mem _ hcs)
      · rcases List.mem_append.mp hw with hw | hw
        · exact .inl (hfinished word hw)
        · rcases ih _ _ hw with hd | hcs
          · simp at hd
          · exact .inr (List.mem_cons_of_mem _ hcs)

theorem identifierPart_of_start {c : Char} (h : isIdentifierStart c) : isIdentifierPart c := by
  rw [isIdentifierStart, Bool.or_eq_true] at h
  rw [isIdentifierPart, Bool.or_eq_true, Bool.or_eq_true]
  rcases h with hletter | hbar
  · exact .inl (.inl hletter)
  · exact .inr hbar

theorem chars_of_isIdentifier (name : String) (h : isIdentifier name) :
    ∃ c cs, name.toList = c :: cs ∧ isIdentifierStart c ∧ ∀ d ∈ c :: cs, isIdentifierPart d := by
  rw [isIdentifier] at h
  cases hchars : name.toList with
  | nil => simp [hchars, isIdentifierChars] at h
  | cons c cs =>
      rw [hchars, isIdentifierChars, Bool.and_eq_true, Bool.and_eq_true, List.all_eq_true] at h
      obtain ⟨⟨hstart, hparts⟩, -⟩ := h
      exact ⟨c, cs, rfl, hstart, List.forall_mem_cons.mpr ⟨identifierPart_of_start hstart, hparts⟩⟩

theorem identifierPart_of_isIdentifier (name : String) (h : isIdentifier name) :
    ∀ c ∈ name.toList, isIdentifierPart c := by
  obtain ⟨c, cs, hchars, -, hparts⟩ := chars_of_isIdentifier name h
  rw [hchars]
  exact hparts

theorem identifierPart_of_mem_words (name : String) (h : isIdentifier name) :
    ∀ w ∈ words name, ∀ c ∈ w, isIdentifierPart c := by
  intro w hw c hc
  rcases mem_of_mem_wordsFrom _ _ _ w hw c hc with hnil | hmem
  · simp at hnil
  · exact identifierPart_of_isIdentifier name h c hmem

theorem pascal_chars (ws : List (List Char)) (h : ∀ w ∈ ws, ∀ c ∈ w, isIdentifierPart c) :
    (∀ c ∈ ws.flatMap pascalWord, isIdentifierPart c) ∧
      ∀ c, (ws.flatMap pascalWord).head? = some c → isSmallLetter c = false := by
  induction ws with
  | nil => simp
  | cons w ws ih =>
      obtain ⟨ihparts, ihhead⟩ := ih fun w' hw' => h w' (List.mem_cons_of_mem _ hw')
      have hw := h w List.mem_cons_self
      cases w with
      | nil => exact ⟨ihparts, ihhead⟩
      | cons c cs =>
          obtain ⟨d, hd, hpart, hsmall⟩ := upperChar_of_identifierPart c (hw c List.mem_cons_self)
          rw [List.flatMap_cons, pascalWord, hd]
          refine ⟨?_, by simpa using hsmall⟩
          intro x hx
          rcases List.mem_append.mp hx with hx | hx
          · rcases List.mem_cons.mp hx with rfl | hx
            · exact hpart
            · obtain ⟨y, hy, hxy⟩ := List.mem_flatMap.mp hx
              have hall := (lowerChar_of_identifierPart y (hw y (List.mem_cons_of_mem _ hy))).2
              exact List.all_eq_true.mp hall x hxy
          · exact ihparts x hx

theorem lowerFrom_chars (before cs : List Char) (h : ∀ c ∈ cs, isIdentifierPart c) :
    ∀ c ∈ lowerFrom before cs, isIdentifierPart c := by
  induction cs generalizing before with
  | nil => simp [lowerFrom]
  | cons c cs ih =>
      obtain ⟨hsigma, hall⟩ := lowerChar_of_identifierPart c (h c List.mem_cons_self)
      rw [lowerFrom, if_neg hsigma, List.forall_mem_append]
      exact ⟨List.all_eq_true.mp hall, ih _ fun d hd => h d (List.mem_cons_of_mem _ hd)⟩

theorem intercalate_chars (P : Char → Prop) (separator : String) (parts : List String)
    (hseparator : ∀ c ∈ separator.toList, P c) (hparts : ∀ s ∈ parts, ∀ c ∈ s.toList, P c) :
    ∀ c ∈ (separator.intercalate parts).toList, P c := by
  induction parts with
  | nil => simp
  | cons part parts ih =>
      have hpart := hparts part List.mem_cons_self
      have hrest := ih fun s hs => hparts s (List.mem_cons_of_mem _ hs)
      cases parts with
      | nil => simpa using hpart
      | cons next rest =>
          rw [String.intercalate_cons_cons, String.toList_append, String.toList_append,
            List.forall_mem_append, List.forall_mem_append]
          exact ⟨⟨hpart, hseparator⟩, hrest⟩

theorem snake_chars (name : String) (h : isIdentifier name) :
    ∀ c ∈ (snake name).toList, isIdentifierPart c := by
  have hbar : ∀ c ∈ "_".toList, isIdentifierPart c := List.forall_mem_singleton.mpr rfl
  refine intercalate_chars _ _ _ hbar fun s hs => ?_
  obtain ⟨w, hw, rfl⟩ := List.mem_map.mp hs
  rw [lowercase, String.toList_ofList, String.toList_ofList]
  exact lowerFrom_chars _ _ (identifierPart_of_mem_words name h w hw)

/-- Without a mark of a raw identifier, what can be written is an identifier. -/
theorem isIdentifier_of_isWritable (s : String) (hparts : ∀ c ∈ s.toList, isIdentifierPart c)
    (h : isWritable s) : isIdentifier s := by
  rw [isWritable, withoutRawMark.eq_def] at h
  split at h
  · rename_i cs hcs
    have hmark := hparts '#' (by simp [hcs])
    exact absurd hmark (by decide)
  · exact h

/-- The only keyword that does not begin with a small letter. -/
theorem eq_Self_of_isKeyword (s : String) (h : isKeyword s)
    (hhead : ∀ c, s.toList.head? = some c → isSmallLetter c = false) : s = "Self" := by
  have hkeywords : ∀ k ∈ keywords, k = "Self" ∨ k.toList.head?.any isSmallLetter := by
    decide +kernel
  rcases hkeywords s (by simpa [isKeyword] using h) with hself | hany
  · exact hself
  · obtain ⟨c, hc, hsmall⟩ := (Option.any_eq_true _ _).mp hany
    rw [hhead c hc] at hsmall
    simp at hsmall

theorem isKeyword_of_isPathKeyword (s : String) (h : isPathKeyword s) : isKeyword s := by
  have hkeywords : ∀ k ∈ pathKeywords, isKeyword k := by decide +kernel
  exact hkeywords s (by simpa [isPathKeyword] using h)

/-- No keyword is another one with an underscore behind it. -/
theorem isPathName_append_bar (s : String) (h : isKeyword s) : IsPathName (s ++ "_") := by
  have hkeywords : ∀ k ∈ keywords, isIdentifier (k ++ "_") ∧ isKeyword (k ++ "_") = false := by
    decide +kernel
  obtain ⟨hidentifier, hnot⟩ := hkeywords s (by simpa [isKeyword] using h)
  exact ⟨hidentifier, hnot⟩

theorem pascal_parts (name : String) (h : isIdentifier name) :
    ∀ c ∈ (pascal name).toList, isIdentifierPart c := by
  rw [pascal, String.toList_ofList]
  exact (pascal_chars _ (identifierPart_of_mem_words name h)).1

theorem isKeyword_pascal_iff (name : String) (h : isIdentifier name) :
    isKeyword (pascal name) ↔ pascal name = "Self" := by
  refine ⟨fun hkeyword => eq_Self_of_isKeyword _ hkeyword ?_, fun hself => ?_⟩
  · rw [pascal, String.toList_ofList]
    exact (pascal_chars _ (identifierPart_of_mem_words name h)).2
  · rw [hself]
    decide +kernel

theorem isPathName_typeName (name : String) (h : isIdentifier name)
    (hwritable : isWritable (typeName name)) : IsPathName (typeName name) := by
  rw [typeName, safeType] at hwritable ⊢
  split
  · rename_i hplace
    exact isPathName_append_bar _ (isKeyword_of_isPathKeyword _ hplace)
  · rename_i hplace
    rw [if_neg hplace] at hwritable
    refine ⟨isIdentifier_of_isWritable _ (pascal_parts name h) hwritable, ?_⟩
    rw [Bool.eq_false_iff]
    intro hkeyword
    rw [(isKeyword_pascal_iff name h).mp hkeyword] at hplace
    exact hplace (by decide)

theorem isPathName_moduleName (name : String) (h : isIdentifier name)
    (hwritable : isWritable (moduleName name)) : IsPathName (moduleName name) := by
  have hsnake := snake_chars name h
  rw [moduleName, safeModule] at hwritable ⊢
  split
  · rename_i hkeyword
    exact isPathName_append_bar _ hkeyword
  · rename_i hkeyword
    rw [if_neg hkeyword] at hwritable
    exact ⟨isIdentifier_of_isWritable _ hsnake hwritable, by simpa using hkeyword⟩

/-- No module has the name by which a path leaves one. -/
theorem moduleName_ne_super (name : String) : moduleName name ≠ "super" := by
  rw [moduleName, safeModule]
  split
  · intro h
    have hlast := congrArg (fun s : String => s.toList.getLast?) h
    simp [String.toList_append] at hlast
  · rename_i hkeyword
    intro h
    rw [h] at hkeyword
    exact hkeyword (by decide +kernel)

theorem isIdentifier_of_checkName (name what : String) (h : checkName name what = .ok ()) :
    isIdentifier name := by
  rw [checkName] at h
  split at h
  · assumption
  · simp at h

theorem identifierFor_eq_ok_iff (role : Role) (name converted id : String) :
    identifierFor role name converted = .ok id ↔ isWritable converted ∧ id = converted := by
  rw [identifierFor]
  split
  · simp [*, eq_comm]
  · simp [*]

end Name

end Protogen
