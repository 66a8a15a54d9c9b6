import Mathlib.Data.List.DropRight
import Protogen.Json.Value
import Protogen.Proofs.Text.Lossy

/-!
# Blanks, texts and numbers in JSON

What each reader of a token takes, as a form that the bytes have. A reader takes as much as it
can, so a form is read in front of others if no byte behind it would still belong to it.
-/

namespace Protogen

namespace Json

/-! ### Blanks -/

def Blanks (bs : List UInt8) : Prop := ∀ b ∈ bs, isJsonBlank b

theorem dropBlanks_append {blanks : List UInt8} (h : Blanks blanks) (bs : List UInt8) :
    dropBlanks (blanks ++ bs) = dropBlanks bs :=
  List.dropWhile_append_of_pos h

theorem dropBlanks_cons {b : UInt8} (h : ¬isJsonBlank b) (bs : List UInt8) :
    dropBlanks (b :: bs) = b :: bs :=
  List.dropWhile_cons_of_neg h

theorem exists_blanks_append (bs : List UInt8) : ∃ blanks, Blanks blanks ∧
    bs = blanks ++ dropBlanks bs :=
  ⟨bs.takeWhile isJsonBlank, fun _ => List.mem_takeWhile_imp, List.takeWhile_append_dropWhile.symm⟩

@[simp] theorem dropBlanks_dropBlanks (bs : List UInt8) :
    dropBlanks (dropBlanks bs) = dropBlanks bs :=
  List.dropWhile_idempotent isJsonBlank bs

/-! ### Texts -/

/-- The bytes between the quotes of a text, and what they stand for. -/
inductive Spells : List UInt8 → List Fragment → Prop
  | nil : Spells [] []
  | plain {b : UInt8} {bs : List UInt8} {fragments : List Fragment} :
      0x20 ≤ b → b ≠ 0x22 → b ≠ 0x5C → Spells bs fragments →
        Spells (b :: bs) (.byte b :: fragments)
  | escape {e b : UInt8} {bs : List UInt8} {fragments : List Fragment} :
      shortEscape? e = some b → Spells bs fragments →
        Spells (0x5C :: e :: bs) (.byte b :: fragments)
  | unit {a b c d : UInt8} {value : Nat} {bs : List UInt8} {fragments : List Fragment} :
      codeUnit? a b c d = some value → Spells bs fragments →
        Spells (0x5C :: 0x75 :: a :: b :: c :: d :: bs) (.unit value :: fragments)

theorem Spells.readFragments? {bs : List UInt8} {fragments : List Fragment}
    (h : Spells bs fragments) (rest : List UInt8) :
    readFragments? (bs ++ 0x22 :: rest) = some (fragments, rest) := by
  induction h with
  | nil => rfl
  | plain hcontrol hquote hescape _ ih =>
      simp [Json.readFragments?, ih, hescape, hcontrol]
  | @escape e b bs fragments hb _ ih =>
      have hu : e ≠ 0x75 := by
        rintro rfl
        exact nomatch hb
      simp [Json.readFragments?, ih, hb, hu]
  | unit hvalue _ ih => simp [Json.readFragments?, hvalue, ih]

theorem exists_spells {bs rest : List UInt8} {fragments : List Fragment}
    (h : readFragments? bs = some (fragments, rest)) :
    ∃ text, Spells text fragments ∧ bs = text ++ 0x22 :: rest := by
  fun_induction readFragments? bs generalizing fragments rest with
  | case1 => exact nomatch h
  | case2 rest' =>
      cases h
      exact ⟨[], .nil, rfl⟩
  | case3 a b c d bs ih =>
      obtain ⟨value, hvalue, h⟩ := Option.bind_eq_some_iff.mp h
      obtain ⟨⟨more, rest'⟩, hmore, h⟩ := Option.bind_eq_some_iff.mp h
      cases h
      obtain ⟨text, htext, rfl⟩ := ih hmore
      exact ⟨_, .unit hvalue htext, rfl⟩
  | case4 e bs _ ih =>
      obtain ⟨value, hvalue, h⟩ := Option.bind_eq_some_iff.mp h
      obtain ⟨⟨more, rest'⟩, hmore, h⟩ := Option.bind_eq_some_iff.mp h
      cases h
      obtain ⟨text, htext, rfl⟩ := ih hmore
      exact ⟨_, .escape hvalue htext, rfl⟩
  | case5 => exact nomatch h
  | case6 b bs hquote _ _ hplain ih =>
      obtain ⟨⟨more, rest'⟩, hmore, h⟩ := Option.map_eq_some_iff.mp h
      cases h
      obtain ⟨text, htext, rfl⟩ := ih hmore
      obtain ⟨hcontrol, hescape⟩ : 0x20 ≤ b ∧ b ≠ 0x5C := by simpa using hplain
      exact ⟨_, .plain hcontrol hquote hescape htext, rfl⟩

/-- How many bytes the fragments amount to at most, which is no more than it takes to spell them. -/
def room : List Fragment → Nat
  | [] => 0
  | .byte _ :: rest => 1 + room rest
  | .unit _ :: rest => 4 + room rest

theorem Spells.room_le {bs : List UInt8} {fragments : List Fragment} (h : Spells bs fragments) :
    room fragments ≤ bs.length := by
  induction h with
  | nil => exact Nat.zero_le _
  | plain | escape | unit =>
      simp only [room, List.length_cons]
      omega

theorem length_charBytes_le (c : Char) : (charBytes c).length ≤ 4 := by
  rw [charBytes, Text.length_utf8Bytes, String.utf8ByteSize_singleton]
  exact c.utf8Size_le_four

theorem length_le_room {fragments : List Fragment} {content : List UInt8}
    (h : fragmentBytes? fragments = some content) : content.length ≤ room fragments := by
  fun_induction fragmentBytes? fragments generalizing content with
  | case1 =>
      cases h
      exact le_rfl
  | case2 b rest ih =>
      obtain ⟨more, hmore, rfl⟩ := Option.map_eq_some_iff.mp h
      have := ih hmore
      simp only [room, List.length_cons]
      omega
  | case3 high low rest _ ih =>
      obtain ⟨more, hmore, rfl⟩ := Option.map_eq_some_iff.mp h
      have := ih hmore
      have := length_charBytes_le (pairedChar high low)
      simp only [room, List.length_append]
      omega
  | case4 => cases h
  | case5 unit low rest _ _ ih =>
      obtain ⟨more, hmore, rfl⟩ := Option.map_eq_some_iff.mp h
      have := ih hmore
      have := length_charBytes_le (Char.ofNat unit)
      simp only [room, List.length_append] at *
      omega
  | case6 => cases h
  | case7 unit rest _ _ ih =>
      obtain ⟨more, hmore, rfl⟩ := Option.map_eq_some_iff.mp h
      have := ih hmore
      have := length_charBytes_le (Char.ofNat unit)
      simp only [room, List.length_append]
      omega

/-- A text is no longer than what spells it. -/
theorem Spells.length_le {bs : List UInt8} {fragments : List Fragment} {s : String}
    (h : Spells bs fragments) (hs : ofFragments? fragments = some s) :
    (Text.utf8Bytes s).length ≤ bs.length := by
  obtain ⟨content, hcontent, hs⟩ := Option.bind_eq_some_iff.mp hs
  rw [Text.utf8Bytes_of_ofUtf8? hs]
  exact le_trans (length_le_room hcontent) h.room_le

/-! ### Numbers -/

def Digits (bs : List UInt8) : Prop := bs ≠ [] ∧ ∀ b ∈ bs, isDigit b

/-- A whole number, without its sign. -/
inductive IsWhole : List UInt8 → Prop
  | zero : IsWhole [0x30]
  | digits {bs : List UInt8} : Digits bs → bs.head? ≠ some 0x30 → IsWhole bs

inductive IsFraction : List UInt8 → Prop
  | nil : IsFraction []
  | digits {bs : List UInt8} : Digits bs → IsFraction (0x2E :: bs)

inductive IsExponent : List UInt8 → Prop
  | nil : IsExponent []
  | digits {mark : UInt8} {sign bs : List UInt8} :
      mark = 0x65 ∨ mark = 0x45 → sign = [] ∨ sign = [0x2B] ∨ sign = [0x2D] → Digits bs →
        IsExponent (mark :: (sign ++ bs))

inductive IsNumber : List UInt8 → Prop
  | parts {sign whole fraction exponent : List UInt8} :
      sign = [] ∨ sign = [0x2D] → IsWhole whole → IsFraction fraction → IsExponent exponent →
        IsNumber (sign ++ (whole ++ (fraction ++ exponent)))

/-- No number goes on here. -/
def EndsNumber (rest : List UInt8) : Prop :=
  ∀ b ∈ rest.head?, ¬isDigit b ∧ b ≠ 0x2E ∧ b ≠ 0x65 ∧ b ≠ 0x45

theorem Digits.afterDigits? {bs rest : List UInt8} (h : Digits bs)
    (hrest : ∀ b ∈ rest.head?, ¬isDigit b) : afterDigits? (bs ++ rest) = some rest := by
  obtain ⟨hne, hdigits⟩ := h
  have hdrop : rest.dropWhile isDigit = rest := by
    cases rest with
    | nil => rfl
    | cons b rest => exact List.dropWhile_cons_of_neg (hrest b rfl)
  obtain ⟨b, bs, rfl⟩ := List.exists_cons_of_ne_nil hne
  have hhead : isDigit b := hdigits b (by simp)
  rw [Json.afterDigits?, if_pos (by simpa using hhead), List.dropWhile_append_of_pos hdigits, hdrop]

theorem exists_digits {bs rest : List UInt8} (h : afterDigits? bs = some rest) :
    ∃ digits, Digits digits ∧ bs = digits ++ rest := by
  rw [afterDigits?] at h
  split at h
  · rename_i hhead
    obtain rfl := Option.some.inj h
    refine ⟨bs.takeWhile isDigit, ⟨?_, fun _ => List.mem_takeWhile_imp⟩,
      List.takeWhile_append_dropWhile.symm⟩
    cases bs with
    | nil => simp at hhead
    | cons b bs => simp_all
  · exact nomatch h

theorem IsExponent.afterExponent? {bs rest : List UInt8} (h : IsExponent bs)
    (hrest : EndsNumber rest) : afterExponent? (bs ++ rest) = some rest := by
  cases h with
  | nil =>
      rw [List.nil_append]
      unfold Json.afterExponent?
      split <;> simp_all [EndsNumber]
  | @digits mark sign bs hmark hsign hdigits =>
      have hread := hdigits.afterDigits? fun b hb => (hrest b hb).1
      obtain ⟨b, bs, rfl⟩ := List.exists_cons_of_ne_nil hdigits.1
      have hb : isDigit b := hdigits.2 b (by simp)
      have hplus : b ≠ 0x2B := by rintro rfl; exact nomatch hb
      have hminus : b ≠ 0x2D := by rintro rfl; exact nomatch hb
      rcases hmark with rfl | rfl <;> rcases hsign with rfl | rfl | rfl <;>
        simp_all [Json.afterExponent?]

theorem exists_exponent {bs rest : List UInt8} (h : afterExponent? bs = some rest) :
    ∃ exponent, IsExponent exponent ∧ bs = exponent ++ rest := by
  have hmarked {mark : UInt8} (hmark : mark = 0x65 ∨ mark = 0x45) {sign bs : List UInt8}
      (hsign : sign = [] ∨ sign = [0x2B] ∨ sign = [0x2D]) (h : afterDigits? bs = some rest) :
      ∃ exponent, IsExponent exponent ∧ mark :: (sign ++ bs) = exponent ++ rest := by
    obtain ⟨digits, hdigits, rfl⟩ := exists_digits h
    exact ⟨_, .digits hmark hsign hdigits, by simp⟩
  unfold afterExponent? at h
  split at h
  · exact hmarked (.inl rfl) (.inr (.inl rfl)) h
  · exact hmarked (.inl rfl) (.inr (.inr rfl)) h
  · exact hmarked (.inl rfl) (.inl rfl) h
  · exact hmarked (.inr rfl) (.inr (.inl rfl)) h
  · exact hmarked (.inr rfl) (.inr (.inr rfl)) h
  · exact hmarked (.inr rfl) (.inl rfl) h
  · exact ⟨[], .nil, Option.some.inj h⟩

theorem IsExponent.not_fraction {bs rest : List UInt8} (h : IsExponent bs)
    (hrest : EndsNumber rest) : ∀ b ∈ (bs ++ rest).head?, ¬isDigit b ∧ b ≠ 0x2E := by
  cases h with
  | nil => exact fun b hb => ⟨(hrest b hb).1, (hrest b hb).2.1⟩
  | digits hmark hsign hdigits =>
      intro b hb
      obtain rfl := Option.some.inj hb
      rcases hmark with rfl | rfl <;> decide

theorem IsFraction.afterFraction? {fraction exponent rest : List UInt8} (h : IsFraction fraction)
    (hexponent : IsExponent exponent) (hrest : EndsNumber rest) :
    afterFraction? (fraction ++ (exponent ++ rest)) = some rest := by
  have hread := hexponent.afterExponent? hrest
  have hnext := hexponent.not_fraction hrest
  cases h with
  | nil =>
      rw [List.nil_append]
      unfold Json.afterFraction?
      split
      · simp_all
      · exact hread
  | digits hdigits =>
      rw [List.cons_append, Json.afterFraction?, hdigits.afterDigits? fun b hb => (hnext b hb).1]
      exact hread

theorem exists_fraction {bs rest : List UInt8} (h : afterFraction? bs = some rest) :
    ∃ fraction exponent, IsFraction fraction ∧ IsExponent exponent ∧
      bs = fraction ++ (exponent ++ rest) := by
  unfold afterFraction? at h
  split at h
  · obtain ⟨behind, hbehind, hmore⟩ := Option.bind_eq_some_iff.mp h
    obtain ⟨digits, hdigits, rfl⟩ := exists_digits hbehind
    obtain ⟨exponent, hexponent, rfl⟩ := exists_exponent hmore
    exact ⟨_, _, .digits hdigits, hexponent, rfl⟩
  · obtain ⟨exponent, hexponent, rfl⟩ := exists_exponent h
    exact ⟨_, _, .nil, hexponent, rfl⟩

/-- Neither the fraction nor the exponent of a number, nor what is behind it, starts with a
digit. -/
theorem IsFraction.not_digit {fraction exponent rest : List UInt8} (h : IsFraction fraction)
    (hexponent : IsExponent exponent) (hrest : EndsNumber rest) :
    ∀ b ∈ (fraction ++ (exponent ++ rest)).head?, ¬isDigit b := by
  cases h with
  | nil => exact fun b hb => (hexponent.not_fraction hrest b hb).1
  | digits =>
      intro b hb
      obtain rfl := Option.some.inj hb
      decide

theorem IsWhole.exists_cons {bs : List UInt8} (h : IsWhole bs) :
    ∃ b tail, bs = b :: tail ∧ isDigit b := by
  cases h with
  | zero => exact ⟨_, _, rfl, rfl⟩
  | digits hdigits =>
      obtain ⟨b, tail, rfl⟩ := List.exists_cons_of_ne_nil hdigits.1
      exact ⟨b, tail, rfl, hdigits.2 b (by simp)⟩

theorem IsWhole.afterUnsigned? {whole fraction exponent rest : List UInt8} (h : IsWhole whole)
    (hfraction : IsFraction fraction) (hexponent : IsExponent exponent)
    (hrest : EndsNumber rest) :
    afterUnsigned? (whole ++ (fraction ++ (exponent ++ rest))) = some rest := by
  have hread := hfraction.afterFraction? hexponent hrest
  have hnext := hfraction.not_digit hexponent hrest
  cases h with
  | zero =>
      have hlast : ¬((fraction ++ (exponent ++ rest)).head?.map isDigit).getD false := by
        cases hhead : (fraction ++ (exponent ++ rest)).head? with
        | none => simp
        | some b => simpa using hnext b hhead
      rw [List.singleton_append, Json.afterUnsigned?, if_neg hlast]
      exact hread
  | digits hdigits hzero =>
      unfold Json.afterUnsigned?
      split
      · rename_i bs heq
        obtain ⟨b, whole, rfl⟩ := List.exists_cons_of_ne_nil hdigits.1
        obtain rfl := (List.cons.inj heq).1
        exact absurd rfl hzero
      · rw [hdigits.afterDigits? hnext]
        exact hread

theorem exists_unsigned {bs rest : List UInt8} (h : afterUnsigned? bs = some rest) :
    ∃ whole fraction exponent, IsWhole whole ∧ IsFraction fraction ∧ IsExponent exponent ∧
      bs = whole ++ (fraction ++ (exponent ++ rest)) := by
  unfold afterUnsigned? at h
  split at h
  · split at h
    · exact nomatch h
    · obtain ⟨fraction, exponent, hfraction, hexponent, rfl⟩ := exists_fraction h
      exact ⟨_, _, _, .zero, hfraction, hexponent, rfl⟩
  · rename_i hzero
    obtain ⟨behind, hbehind, hmore⟩ := Option.bind_eq_some_iff.mp h
    obtain ⟨digits, hdigits, rfl⟩ := exists_digits hbehind
    obtain ⟨fraction, exponent, hfraction, hexponent, rfl⟩ := exists_fraction hmore
    refine ⟨_, _, _, .digits hdigits fun hhead => ?_, hfraction, hexponent, rfl⟩
    obtain ⟨tail, rfl⟩ := List.head?_eq_some_iff.mp hhead
    exact hzero _ rfl

theorem IsNumber.afterNumber? {bs rest : List UInt8} (h : IsNumber bs)
    (hrest : EndsNumber rest) : afterNumber? (bs ++ rest) = some rest := by
  obtain ⟨hsign, hwhole, hfraction, hexponent⟩ := h
  have hread := hwhole.afterUnsigned? hfraction hexponent hrest
  obtain ⟨b, tail, rfl, hb⟩ := hwhole.exists_cons
  simp only [List.append_assoc]
  rcases hsign with rfl | rfl
  · unfold Json.afterNumber?
    split
    · rename_i bs heq
      obtain rfl := (List.cons.inj heq).1
      exact nomatch hb
    · exact hread
  · exact hread

theorem IsNumber.exists_cons {bs : List UInt8} (h : IsNumber bs) :
    ∃ b tail, bs = b :: tail ∧ (b = 0x2D ∨ isDigit b) := by
  obtain ⟨rfl | rfl, hwhole, hfraction, hexponent⟩ := h
  · obtain ⟨b, tail, rfl, hb⟩ := hwhole.exists_cons
    exact ⟨b, _, rfl, .inr hb⟩
  · exact ⟨_, _, rfl, .inl rfl⟩

theorem exists_number {bs rest : List UInt8} (h : afterNumber? bs = some rest) :
    ∃ number, IsNumber number ∧ bs = number ++ rest := by
  unfold afterNumber? at h
  split at h
  · obtain ⟨whole, fraction, exponent, hwhole, hfraction, hexponent, rfl⟩ := exists_unsigned h
    exact ⟨_, .parts (.inr rfl) hwhole hfraction hexponent, by simp⟩
  · obtain ⟨whole, fraction, exponent, hwhole, hfraction, hexponent, rfl⟩ := exists_unsigned h
    exact ⟨_, .parts (.inl rfl) hwhole hfraction hexponent, by simp⟩

end Json

end Protogen
