import Mathlib.Algebra.Group.Nat.Defs
import Mathlib.Data.Nat.Basic
import Protogen.Proofs.Outcome
import Protogen.Wire.Decode

/-!
# Reading values that were written

Each reader takes from the front of the bytes just what its writer has put there, whatever comes
behind. Numbers have 64 bits at most on the wire, so this is asked of every number that is written
as it is: of the lengths of texts and messages too, though no bytes in memory are as many.
-/

namespace Protogen

namespace Wire

/-! ### Numbers -/

theorem writeVarint_of_lt {n : Nat} (h : n < 128) : writeVarint n = [UInt8.ofNat n] := by
  rw [writeVarint, if_pos h]

theorem writeVarint_of_le {n : Nat} (h : 128 ≤ n) :
    writeVarint n = UInt8.ofNat (n % 128 + 128) :: writeVarint (n / 128) := by
  rw [writeVarint, if_neg (by omega)]

theorem length_writeVarint_pos (n : Nat) : 0 < (writeVarint n).length := by
  rw [writeVarint]
  split <;> simp

theorem toNat_ofNat {n : Nat} (h : n < 256) : (UInt8.ofNat n).toNat = n :=
  UInt8.toNat_ofNat_of_lt' h

theorem ofNat_lt_iff {n : Nat} (h : n < 256) (m : UInt8) : UInt8.ofNat n < m ↔ n < m.toNat := by
  rw [UInt8.lt_iff_toNat_lt, toNat_ofNat h]

/-- A last group is read as it is; as the tenth one it has one bit only. -/
theorem varintWithin_last (left : Nat) {n : Nat} (h : n < 128) (hbit : left = 0 → n < 2)
    (rest : List UInt8) :
    varintWithin (left + 1) (writeVarint n ++ rest) = some (n, rest) := by
  have hsmall : UInt8.ofNat n < 128 := (ofNat_lt_iff (by omega) 128).mpr h
  have hfits : ¬(left = 0 && 1 < UInt8.ofNat n) = true := by
    intro hlarge
    obtain ⟨hleft, hlarge⟩ : left = 0 ∧ 1 < UInt8.ofNat n := by simpa using hlarge
    have hone : 1 < (UInt8.ofNat n).toNat := UInt8.lt_iff_toNat_lt.mp hlarge
    rw [toNat_ofNat (by omega)] at hone
    have := hbit hleft
    omega
  rw [writeVarint_of_lt h, List.singleton_append, varintWithin, if_pos hsmall, if_neg hfits,
    toNat_ofNat (by omega)]

theorem varintWithin_writeVarint (left n : Nat) (rest : List UInt8) (h : n < 2 * 128 ^ left) :
    varintWithin (left + 1) (writeVarint n ++ rest) = some (n, rest) := by
  induction left generalizing n with
  | zero => exact varintWithin_last 0 (by omega) (fun _ => by omega) rest
  | succ left ih =>
      rcases Nat.lt_or_ge n 128 with hlast | hmore
      · exact varintWithin_last (left + 1) hlast (by omega) rest
      · have hbyte : (UInt8.ofNat (n % 128 + 128)).toNat = n % 128 + 128 :=
          toNat_ofNat (by omega)
        have hlarge : ¬UInt8.ofNat (n % 128 + 128) < 128 := by
          rw [ofNat_lt_iff (by omega)]
          exact Nat.not_lt.mpr (Nat.le_add_left 128 _)
        have hrest : n / 128 < 2 * 128 ^ left := by
          rw [Nat.div_lt_iff_lt_mul (by decide)]
          rw [Nat.pow_succ] at h
          omega
        have hsum : n / 128 * 128 + (n % 128 + 128) % 128 = n := by omega
        rw [writeVarint_of_le hmore, List.cons_append, varintWithin, if_neg hlarge, ih _ hrest,
          Option.map_some, hbyte]
        simp only [hsum]

theorem readVarint_writeVarint {n : Nat} (h : n < 2 ^ 64) (rest : List UInt8) :
    readVarint (writeVarint n ++ rest) = .ok (n, rest) := by
  rw [readVarint, varintWithin_writeVarint 9 n rest (by omega)]

/-- The low half of an extended number is the number itself. -/
theorem lowInt32_extended (v : Int32) : lowInt32 (extended v) = v := by
  have hlow : (v.toBitVec.signExtend 64).setWidth 32 = v.toBitVec := by
    ext i hi
    rw [BitVec.getElem_setWidth, BitVec.getLsbD_signExtend, BitVec.getLsbD_eq_getElem hi]
    simp [hi, Nat.lt_trans hi (by decide : 32 < 64)]
  refine Int32.toBitVec.inj ?_
  simpa [lowInt32, extended] using hlow

theorem readInt32_writeInt32 (v : Int32) (rest : List UInt8) :
    readInt32 (writeInt32 v ++ rest) = .ok (v, rest) := by
  have hbits : extended v < 2 ^ 64 := v.toInt64.toUInt64.toNat_lt
  refine (Outcome.bind_eq_ok_iff _ _ _).mpr ⟨_, readVarint_writeVarint hbits rest, ?_⟩
  simp only [lowInt32_extended]

theorem length_writeFixed (count n : Nat) : (writeFixed count n).length = count := by
  induction count generalizing n with
  | zero => rfl
  | succ count ih => rw [writeFixed, List.length_cons, ih]

theorem fixedNumber_writeFixed {count n : Nat} (h : n < 256 ^ count) :
    fixedNumber (writeFixed count n) = n := by
  induction count generalizing n with
  | zero =>
      rw [Nat.pow_zero, Nat.lt_one_iff] at h
      exact h.symm
  | succ count ih =>
      have hrest : n / 256 < 256 ^ count := by
        rw [Nat.div_lt_iff_lt_mul (by decide)]
        rwa [Nat.pow_succ] at h
      rw [writeFixed, fixedNumber, ih hrest, UInt8.toNat_ofNat', Nat.mul_comm]
      exact Nat.div_add_mod n 256

theorem readFixed_writeFixed {count n : Nat} (h : n < 256 ^ count) (rest : List UInt8) :
    readFixed count (writeFixed count n ++ rest) = .ok (n, rest) := by
  have hcount := length_writeFixed count n
  rw [readFixed, if_neg (by rw [List.length_append]; omega), List.take_left' hcount,
    List.drop_left' hcount, fixedNumber_writeFixed h]

/-! ### Keys -/

/-- The number of a field has 29 bits. -/
theorem readKey_writeKey {number : Nat} (hpos : 0 < number) (h : number < 2 ^ 29)
    (wire : WireType) (rest : List UInt8) :
    readKey (writeKey number wire ++ rest) = .ok (number, wire, rest) := by
  have hcode : wire.code < 8 := by cases wire <;> decide
  have hmod : (number * 8 + wire.code) % 8 = wire.code := by omega
  have hdiv : (number * 8 + wire.code) / 8 = number := by omega
  refine (Outcome.bind_eq_ok_iff _ _ _).mpr ⟨_, readVarint_writeVarint (by omega) rest, ?_⟩
  dsimp only
  rw [if_neg (by omega), hmod, WireType.ofCode?_code, hdiv]
  exact if_neg (by omega)

/-! ### Values with a length -/

theorem readLength_writeVarint {bs : List UInt8} (h : bs.length < 2 ^ 64) (rest : List UInt8) :
    readLength (writeVarint bs.length ++ bs ++ rest) = .ok (bs.length, bs ++ rest) := by
  rw [List.append_assoc]
  refine (Outcome.bind_eq_ok_iff _ _ _).mpr ⟨_, readVarint_writeVarint h _, ?_⟩
  exact if_neg (by simp)

theorem readDelimited_writeVarint {bs : List UInt8} (h : bs.length < 2 ^ 64)
    (rest : List UInt8) : readDelimited (writeVarint bs.length ++ bs ++ rest) = .ok (bs, rest) := by
  refine (Outcome.bind_eq_ok_iff _ _ _).mpr ⟨_, readLength_writeVarint h rest, ?_⟩
  simp

theorem length_writeInt32_pos (v : Int32) : 0 < (writeInt32 v).length :=
  length_writeVarint_pos (extended v)

/-- Each number takes a byte at least, so there is fuel for all of them. -/
theorem readInt32s_flatMap (vs : List Int32) (fuel : Nat) (rest : List UInt8)
    (hfuel : (vs.flatMap writeInt32).length ≤ fuel) :
    readInt32s fuel rest.length (vs.flatMap writeInt32 ++ rest) = .ok (vs, rest) := by
  induction vs generalizing fuel with
  | nil => cases fuel <;> simp [readInt32s]
  | cons v vs ih =>
      have hlength := length_writeInt32_pos v
      rw [List.flatMap_cons, List.length_append] at hfuel
      obtain _ | fuel := fuel
      · omega
      rw [List.flatMap_cons, List.append_assoc, readInt32s, if_neg (by simp; omega)]
      refine (Outcome.bind_eq_ok_iff _ _ _).mpr ⟨_, readInt32_writeInt32 v _, ?_⟩
      exact (Outcome.bind_eq_ok_iff _ _ _).mpr ⟨_, ih fuel (by omega), rfl⟩

theorem readPacked_writeVarint (vs : List Int32) (h : (vs.flatMap writeInt32).length < 2 ^ 64)
    (rest : List UInt8) :
    readPacked (writeVarint (vs.flatMap writeInt32).length ++ vs.flatMap writeInt32 ++ rest) =
      .ok (vs, rest) := by
  refine (Outcome.bind_eq_ok_iff _ _ _).mpr ⟨_, readLength_writeVarint h rest, ?_⟩
  have hstop : (vs.flatMap writeInt32 ++ rest).length - (vs.flatMap writeInt32).length =
      rest.length := by simp
  dsimp only
  rw [hstop]
  refine (Outcome.bind_eq_ok_iff _ _ _).mpr ⟨_, readInt32s_flatMap vs _ rest le_rfl, ?_⟩
  exact (Outcome.then_eq_ok_iff _ _ _).mpr ⟨if_pos rfl, rfl⟩

end Wire

end Protogen
