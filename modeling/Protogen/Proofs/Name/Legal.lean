import Mathlib.Data.List.TakeWhile
import Protogen.Proofs.Name.CaseStyles

/-!
# Legal identifiers

A change of style keeps the first letter or digit of a name in front, except for its case, and
nothing else decides whether the name has an identifier: what would be a keyword gets a mark, and
with its mark it is legal. So a name has an identifier in every role or in none.
-/

namespace Protogen

namespace Name

open Text Link

/-- A keyword with the mark of a raw identifier. -/
def IsRawKeyword (s : String) : Prop :=
  ∃ keyword, s = "r#" ++ keyword ∧ isKeyword keyword ∧ isPathKeyword keyword = false

/-- Only the name of a field may be a raw identifier. -/
def Role.Admits (role : Role) (s : String) : Prop := IsPathName s ∨ role = .field ∧ IsRawKeyword s

/-- The identifier of a name in a role. -/
def identifierAs : Role → String → Except NameError String
  | .type => typeIdentifier
  | .field => fieldIdentifier
  | .module => moduleIdentifier

/-- The name without the underscores in front. -/
def withoutBars (name : String) : List Char := name.toList.dropWhile (· == '_')

def LeadsWithLetter (name : String) : Prop :=
  ∃ c, (withoutBars name).head? = some c ∧ isAsciiLetter c

theorem head?_flatten_words {name : String} (h : isIdentifier name) :
    (words name).flatten.head? = (withoutBars name).head? := by
  have hfilter : name.toList.filter isAlphanumeric = name.toList.filter (· != '_') :=
    List.filter_congr fun c hc =>
      (isPlainChar_of_identifierPart c (identifierPart_of_isIdentifier name h c hc)).isAlphanumeric
  have hnot : (fun c => !(c != '_')) = fun c : Char => c == '_' := by simp [bne]
  rw [words, flatten_wordsFrom, List.reverse_nil, List.nil_append, hfilter, List.head?_filter,
    List.find?_eq_head?_dropWhile_not, hnot, withoutBars]

theorem mem_and_ne_of_head?_withoutBars {name : String} {c : Char}
    (h : (withoutBars name).head? = some c) : c ∈ name.toList ∧ c ≠ '_' := by
  have hnot := List.head?_dropWhile_not (· == '_') name.toList
  rw [withoutBars] at h
  rw [h] at hnot
  exact ⟨(List.dropWhile_sublist _).subset (List.mem_of_head? h), by simpa using hnot⟩

/-- With nothing but characters of identifiers, a text without underscores in front is an
identifier just if it begins with a letter. -/
theorem isIdentifier_iff_isAsciiLetter {s : String} {c : Char}
    (hparts : ∀ d ∈ s.toList, isIdentifierPart d) (hhead : s.toList.head? = some c)
    (hbar : c ≠ '_') : isIdentifier s ↔ isAsciiLetter c := by
  obtain ⟨cs, hs⟩ := List.head?_eq_some_iff.mp hhead
  rw [hs, List.forall_mem_cons] at hparts
  have hall : cs.all isIdentifierPart = true := List.all_eq_true.mpr hparts.2
  simp [isIdentifier, hs, isIdentifierChars, isIdentifierStart, hall, hbar]

theorem withoutBars_of_head?_ne {s : String} (h : s.toList.head? ≠ some '_') :
    withoutBars s = s.toList := by
  rw [withoutBars]
  cases hs : s.toList with
  | nil => rfl
  | cons c cs =>
      have hbar : c ≠ '_' := by simpa [hs] using h
      simp [hbar]

/-- A name in another style begins with the first letter or digit of the name, which may have
changed its case. -/
structure IsStyleOf (name s : String) : Prop where
  parts : ∀ c ∈ s.toList, isIdentifierPart c
  front : s.toList.head?.map asciiLower = (withoutBars name).head?.map asciiLower

theorem isStyleOf_pascal {name : String} (h : isIdentifier name) :
    IsStyleOf name (pascal name) where
  parts := pascal_parts name h
  front := by
    rw [← List.head?_map, map_asciiLower_pascal h, List.head?_map, head?_flatten_words h]

theorem head?_intercalate {bar : Char} {ws : List (List Char)} (h : ∀ w ∈ ws, w ≠ []) :
    ([bar].intercalate ws).head? = ws.flatten.head? := by
  match ws with
  | [] => rfl
  | [w] => simp
  | w :: v :: ws =>
      have hw : w ≠ [] := h w List.mem_cons_self
      rw [List.intercalate_cons_cons, List.flatten_cons, List.append_assoc,
        List.head?_append_of_ne_nil _ hw, List.head?_append_of_ne_nil _ hw]

theorem isStyleOf_snake {name : String} (h : isIdentifier name) : IsStyleOf name (snake name) where
  parts := snake_chars name h
  front := by
    rw [← List.head?_map, map_asciiLower_of_isLowered (isLowered_of_mem_snake h), toList_snake h,
      head?_intercalate fun w hw => (lowerWords_spec h w hw).1, lowerWords, ← List.map_flatten,
      List.head?_map, head?_flatten_words h]

theorem isAsciiLetter_asciiLower (c : Char) (hc : isIdentifierPart c) :
    isAsciiLetter (asciiLower c) = isAsciiLetter c :=
  forall_identifierPart (fun c => isAsciiLetter (asciiLower c) = isAsciiLetter c)
    (by decide +kernel) c hc

/-- Whether a style of a name is an identifier can be seen from the name itself. -/
theorem IsStyleOf.isIdentifier_iff {name s : String} (h : IsStyleOf name s)
    (hname : isIdentifier name) : isIdentifier s ↔ LeadsWithLetter name := by
  have hfront := h.front
  cases hhead : (withoutBars name).head? with
  | none =>
      rw [hhead, Option.map_none, Option.map_eq_none_iff, List.head?_eq_none_iff] at hfront
      simp [isIdentifier, hfront, isIdentifierChars, LeadsWithLetter, hhead]
  | some c =>
      rw [hhead, Option.map_some, Option.map_eq_some_iff] at hfront
      obtain ⟨d, hd, hlower⟩ := hfront
      obtain ⟨hmem, hbar⟩ := mem_and_ne_of_head?_withoutBars hhead
      have hpart := identifierPart_of_isIdentifier name hname c hmem
      have hletter : isAsciiLetter d = isAsciiLetter c := by
        rw [← isAsciiLetter_asciiLower d (h.parts d (List.mem_of_head? hd)), hlower,
          isAsciiLetter_asciiLower c hpart]
      have hne : d ≠ '_' := by
        rintro rfl
        exact (isPlainChar_of_identifierPart c hpart).lower_ne_bar hbar hlower.symm
      rw [isIdentifier_iff_isAsciiLetter h.parts hd hne, hletter]
      simp [LeadsWithLetter, hhead]

/-- A converted name as it is, or as a keyword with one of the marks that keep it apart. -/
inductive IsMarked (s : String) : String → Prop
  | plain : IsMarked s s
  | barred (h : isKeyword s) : IsMarked s (s ++ "_")
  | raw (h : isKeyword s) : IsMarked s ("r#" ++ s)

theorem isMarked_safeType (s : String) : IsMarked s (safeType s) := by
  rw [safeType]
  split
  · rename_i hplace
    exact .barred (isKeyword_of_isPathKeyword s hplace)
  · exact .plain

theorem isMarked_safeField (s : String) : IsMarked s (safeField s) := by
  rw [safeField]
  split
  · rename_i hplace
    exact .barred (isKeyword_of_isPathKeyword s hplace)
  · split
    · rename_i hkeyword
      exact .raw hkeyword
    · exact .plain

theorem isMarked_safeModule (s : String) : IsMarked s (safeModule s) := by
  rw [safeModule]
  split
  · rename_i hkeyword
    exact .barred hkeyword
  · exact .plain

/-- Keywords are identifiers, and so they are with their marks. -/
theorem isWritable_of_isKeyword (s : String) (h : isKeyword s) :
    isIdentifier s ∧ isWritable (s ++ "_") ∧ isWritable ("r#" ++ s) := by
  have hkeywords : ∀ k ∈ keywords,
      isIdentifier k ∧ isWritable (k ++ "_") ∧ isWritable ("r#" ++ k) := by decide +kernel
  exact hkeywords s (by simpa [isKeyword] using h)

/-- A mark does not decide whether a name can be written. -/
theorem IsMarked.isWritable_iff {s t : String} (h : IsMarked s t)
    (hparts : ∀ c ∈ s.toList, isIdentifierPart c) : isWritable t ↔ isIdentifier s := by
  cases h with
  | plain =>
      have hmark : '#' ∉ s.toList := fun hmem => absurd (hparts '#' hmem) (by decide)
      rw [isWritable, withoutRawMark_of_not_mem hmark, isIdentifier]
  | barred hkeyword =>
      obtain ⟨hidentifier, hbarred, -⟩ := isWritable_of_isKeyword s hkeyword
      exact iff_of_true hbarred hidentifier
  | raw hkeyword =>
      obtain ⟨hidentifier, -, hraw⟩ := isWritable_of_isKeyword s hkeyword
      exact iff_of_true hraw hidentifier

namespace Role

/-- The name in the style of the role. -/
def styled : Role → String → String
  | .type => pascal
  | .field | .module => snake

/-- The name in the style of the role, with a mark where it would be a keyword. -/
def converted : Role → String → String
  | .type => typeName
  | .field => fieldName
  | .module => moduleName

theorem isStyleOf_styled (role : Role) {name : String} (h : isIdentifier name) :
    IsStyleOf name (role.styled name) := by
  cases role with
  | type => exact isStyleOf_pascal h
  | field => exact isStyleOf_snake h
  | module => exact isStyleOf_snake h

theorem isMarked_converted (role : Role) (name : String) :
    IsMarked (role.styled name) (role.converted name) := by
  cases role with
  | type => exact isMarked_safeType _
  | field => exact isMarked_safeField _
  | module => exact isMarked_safeModule _

end Role

theorem identifierAs_eq (role : Role) (name : String) :
    identifierAs role name = identifierFor role name (role.converted name) := by
  cases role with
  | type => rfl
  | field => rfl
  | module => rfl

theorem identifierAs_eq_ok_iff (role : Role) (name id : String) :
    identifierAs role name = .ok id ↔
      isWritable (role.converted name) ∧ id = role.converted name := by
  rw [identifierAs_eq, identifierFor_eq_ok_iff]

theorem isWritable_converted_iff (role : Role) {name : String} (h : isIdentifier name) :
    isWritable (role.converted name) ↔ LeadsWithLetter name := by
  have hstyle := role.isStyleOf_styled h
  rw [(role.isMarked_converted name).isWritable_iff hstyle.parts, hstyle.isIdentifier_iff h]

theorem admits_fieldName {name : String} (h : isIdentifier name)
    (hwritable : isWritable (fieldName name)) : Role.field.Admits (fieldName name) := by
  rw [fieldName, safeField] at hwritable ⊢
  split
  · rename_i hplace
    exact .inl (isPathName_append_bar _ (isKeyword_of_isPathKeyword _ hplace))
  · rename_i hplace
    split
    · rename_i hkeyword
      exact .inr ⟨rfl, _, rfl, hkeyword, by simpa using hplace⟩
    · rename_i hkeyword
      rw [if_neg hplace, if_neg hkeyword] at hwritable
      have hidentifier := isIdentifier_of_isWritable _ (snake_chars name h) hwritable
      exact .inl ⟨hidentifier, by simpa using hkeyword⟩

theorem admits_converted (role : Role) {name : String} (h : isIdentifier name)
    (hwritable : isWritable (role.converted name)) : role.Admits (role.converted name) := by
  cases role with
  | type => exact .inl (isPathName_typeName name h hwritable)
  | field => exact admits_fieldName h hwritable
  | module => exact .inl (isPathName_moduleName name h hwritable)

/-- A name of the schema has an identifier in every role if the first of its characters that is no
underscore is a letter, and in none otherwise; all these identifiers are legal. -/
theorem identifierAs_legal {name what : String} (h : checkName name what = .ok ()) (role : Role) :
    ((∃ id, identifierAs role name = .ok id) ↔ LeadsWithLetter name) ∧
      ∀ id, identifierAs role name = .ok id → role.Admits id := by
  have hname := isIdentifier_of_checkName name what h
  refine ⟨?_, fun id hid => ?_⟩
  · rw [← isWritable_converted_iff role hname]
    refine ⟨?_, fun hwritable => ⟨_, (identifierAs_eq_ok_iff _ _ _).mpr ⟨hwritable, rfl⟩⟩⟩
    rintro ⟨id, hid⟩
    exact ((identifierAs_eq_ok_iff _ _ _).mp hid).1
  · obtain ⟨hwritable, rfl⟩ := (identifierAs_eq_ok_iff _ _ _).mp hid
    exact admits_converted role hname hwritable

/-- A keyword behind underscores: a field may have it in its raw form. -/
theorem identifierAs_type_legal :
    checkName "__type" "field" = .ok () ∧ identifierAs .field "__type" = .ok "r#type" ∧
      LeadsWithLetter "__type" ∧ Role.field.Admits "r#type" := by
  have hcheck : checkName "__type" "field" = .ok () := by decide +kernel
  have hfield : identifierAs .field "__type" = .ok "r#type" := by decide +kernel
  obtain ⟨hexists, hadmits⟩ := identifierAs_legal hcheck .field
  exact ⟨hcheck, hfield, hexists.mp ⟨_, hfield⟩, hadmits _ hfield⟩

end Name

end Protogen
