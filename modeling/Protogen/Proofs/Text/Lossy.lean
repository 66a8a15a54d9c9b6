import Mathlib.Data.String.Basic
import Protogen.Text.Utf8

/-!
# Sizes of texts that bytes show

A text that bytes show takes as many bytes as they are, or more if they are faulty: the replacement
character is larger than any part that it stands for.
-/

namespace Protogen

namespace Text

open String

theorem length_utf8Bytes (s : String) : (utf8Bytes s).length = s.utf8ByteSize := rfl

theorem utf8Bytes_of_ofUtf8? {bs : List UInt8} {s : String} (h : ofUtf8? bs = some s) :
    utf8Bytes s = bs := by
  by_cases hvalid : ByteArray.IsValidUTF8 ⟨⟨bs⟩⟩
  · rw [ofUtf8?, fromUTF8?, dif_pos hvalid] at h
    rw [← Option.some.inj h]
    rfl
  · rw [ofUtf8?, fromUTF8?, dif_neg hvalid] at h
    cases h

/-! ### Characters -/

theorem toNat_ofNat_of_isValidChar {n : Nat} (h : n.isValidChar) : (Char.ofNat n).toNat = n := by
  rw [Char.ofNat, dif_pos h]
  rfl

/-- The size of a character grows with its number. -/
theorem le_utf8Size_ofNat {n : Nat} (h : n.isValidChar) : (0x80 ≤ n → 2 ≤ (Char.ofNat n).utf8Size) ∧
    (0x800 ≤ n → 3 ≤ (Char.ofNat n).utf8Size) ∧ (0x10000 ≤ n → 4 ≤ (Char.ofNat n).utf8Size) := by
  have hn : (Char.ofNat n).val.toNat = n := toNat_ofNat_of_isValidChar h
  have hle (m : UInt32) : (Char.ofNat n).val ≤ m ↔ n ≤ m.toNat := by
    rw [UInt32.le_iff_toNat_le, hn]
  simp only [Char.utf8Size, hle, UInt32.toNat_ofNatLT]
  split_ifs <;> omega

theorem two_le_utf8Size_assemble {b : UInt8} (h : 0xC2 ≤ b ∧ b ≤ 0xDF) (c : UInt8) :
    2 ≤ (assemble (b.toNat % 32) [c]).utf8Size := by
  obtain ⟨hlow, hhigh⟩ : 0xC2 ≤ b.toNat ∧ b.toNat ≤ 0xDF := h
  simp only [assemble, List.foldl_cons, List.foldl_nil]
  have hvalid : (b.toNat % 32 * 64 + c.toNat % 64).isValidChar := .inl (by omega)
  exact (le_utf8Size_ofNat hvalid).1 (by omega)

/-- The bounds leave no room for numbers that are too low, nor for surrogates. -/
theorem isSecondOfThree_bounds {b c : UInt8} (h : isSecondOfThree b c) :
    (b.toNat = 0xE0 → 32 ≤ c.toNat % 64) ∧ (b.toNat = 0xED → c.toNat % 64 < 32) := by
  constructor
  · intro hb
    obtain rfl : b = 0xE0 := UInt8.toNat_inj.mp hb
    obtain ⟨hlow, hhigh⟩ : 0xA0 ≤ c.toNat ∧ c.toNat ≤ 0xBF := by
      simpa [isSecondOfThree, UInt8.le_iff_toNat_le] using h
    omega
  · intro hb
    obtain rfl : b = 0xED := UInt8.toNat_inj.mp hb
    obtain ⟨hlow, hhigh⟩ : 0x80 ≤ c.toNat ∧ c.toNat ≤ 0x9F := by
      simpa [isSecondOfThree, UInt8.le_iff_toNat_le] using h
    omega

/-- The bounds leave no room for numbers that are too low or too high. -/
theorem isSecondOfFour_bounds {b c : UInt8} (h : isSecondOfFour b c) :
    (b.toNat = 0xF0 → 16 ≤ c.toNat % 64) ∧ (b.toNat = 0xF4 → c.toNat % 64 < 16) := by
  constructor
  · intro hb
    obtain rfl : b = 0xF0 := UInt8.toNat_inj.mp hb
    obtain ⟨hlow, hhigh⟩ : 0x90 ≤ c.toNat ∧ c.toNat ≤ 0xBF := by
      simpa [isSecondOfFour, UInt8.le_iff_toNat_le] using h
    omega
  · intro hb
    obtain rfl : b = 0xF4 := UInt8.toNat_inj.mp hb
    obtain ⟨hlow, hhigh⟩ : 0x80 ≤ c.toNat ∧ c.toNat ≤ 0x8F := by
      simpa [isSecondOfFour, UInt8.le_iff_toNat_le] using h
    omega

theorem three_le_utf8Size_assemble {b c : UInt8} (h : 0xE0 ≤ b ∧ b ≤ 0xEF)
    (hc : isSecondOfThree b c) (d : UInt8) :
    3 ≤ (assemble (b.toNat % 16) [c, d]).utf8Size := by
  obtain ⟨hlow, hhigh⟩ : 0xE0 ≤ b.toNat ∧ b.toNat ≤ 0xEF := h
  obtain ⟨hfirst, hsurrogate⟩ := isSecondOfThree_bounds hc
  simp only [assemble, List.foldl_cons, List.foldl_nil]
  have hvalid : ((b.toNat % 16 * 64 + c.toNat % 64) * 64 + d.toNat % 64).isValidChar := by
    rw [Nat.isValidChar]
    omega
  exact (le_utf8Size_ofNat hvalid).2.1 (by omega)

theorem four_le_utf8Size_assemble {b c : UInt8} (h : 0xF0 ≤ b ∧ b ≤ 0xF4)
    (hc : isSecondOfFour b c) (d e : UInt8) :
    4 ≤ (assemble (b.toNat % 8) [c, d, e]).utf8Size := by
  obtain ⟨hlow, hhigh⟩ : 0xF0 ≤ b.toNat ∧ b.toNat ≤ 0xF4 := h
  obtain ⟨hfirst, hlast⟩ := isSecondOfFour_bounds hc
  simp only [assemble, List.foldl_cons, List.foldl_nil]
  have hvalid : (((b.toNat % 8 * 64 + c.toNat % 64) * 64 + d.toNat % 64) * 64 +
      e.toNat % 64).isValidChar := by
    rw [Nat.isValidChar]
    omega
  exact (le_utf8Size_ofNat hvalid).2.2 (by omega)

/-! ### Whole texts -/

theorem length_le_utf8Len_lossyChars (bs : List UInt8) : bs.length ≤ utf8Len (lossyChars bs) := by
  have hreplacement : replacement.utf8Size = 3 := rfl
  fun_induction lossyChars bs
  case case1 => exact Nat.zero_le _
  case case2 b bs _ ih =>
    have hsize := (Char.ofNat b.toNat).utf8Size_pos
    simp only [List.length_cons, utf8Len] at ih ⊢
    omega
  case case3 b _ hb c cs _ ih =>
    have hsize := two_le_utf8Size_assemble (by simpa using hb) c
    simp only [List.length_cons, utf8Len]
    omega
  case case6 b _ _ hb c hc d ds _ ih =>
    have hsize := three_le_utf8Size_assemble (by simpa using hb) hc d
    simp only [List.length_cons, utf8Len]
    omega
  case case11 b _ _ _ hb c hc d _ e es _ ih =>
    have hsize := four_le_utf8Size_assemble (by simpa using hb) hc d e
    simp only [List.length_cons, utf8Len]
    omega
  -- What is left is replaced, and is not more than three bytes.
  all_goals
    simp only [List.length_cons, List.length_nil, utf8Len, hreplacement] at *
    omega

/-- No byte goes without a trace. -/
theorem length_le_ofUtf8Lossy (bs : List UInt8) :
    bs.length ≤ (utf8Bytes (ofUtf8Lossy bs)).length := by
  rw [ofUtf8Lossy]
  split
  · rename_i s hs
    rw [utf8Bytes_of_ofUtf8? hs]
  · rw [length_utf8Bytes, utf8ByteSize_ofList]
    exact length_le_utf8Len_lossyChars bs

end Text

end Protogen
