import TrapDispatch.Interrupt.Registers

/-!
# Bytes of a word

A byte that is replaced in its word is read back from its place, and the bytes at the other
places stay. An offset is the offset of its word and a place in there.
-/

namespace TrapDispatch

variable {word shift other : UInt32} {byte : UInt8}

theorem getLsbD_laneByte (h : shift.toNat < 32) (word : UInt32) {index : Nat} (hindex : index < 8) :
    (laneByte word shift).toBitVec.getLsbD index = word.toBitVec.getLsbD (shift.toNat + index) := by
  unfold laneByte
  rw [UInt32.toBitVec_toUInt8, UInt32.toBitVec_shiftRight, BitVec.getLsbD_setWidth]
  simp [hindex, Nat.mod_eq_of_lt h]

theorem getLsbD_withLaneByte (h : shift.toNat < 32) (word : UInt32) (byte : UInt8) {index : Nat}
    (hindex : index < 32) : (withLaneByte word shift byte).toBitVec.getLsbD index =
      if shift.toNat ≤ index ∧ index < shift.toNat + 8 then
        byte.toBitVec.getLsbD (index - shift.toNat)
      else word.toBitVec.getLsbD index := by
  have hmask : (0xFF#32).getLsbD (index - shift.toNat) = decide (index - shift.toNat < 8) := by
    rw [BitVec.getLsbD_ofNat, show 0xFF = 2 ^ 8 - 1 from rfl, Nat.testBit_two_pow_sub_one]
    simp only [Bool.and_eq_right_iff_imp, decide_eq_true_eq]
    omega
  have hword : (withLaneByte word shift byte).toBitVec =
      (word.toBitVec &&& ~~~(0xFF#32 <<< shift.toNat)) |||
        (byte.toBitVec.setWidth 32 <<< shift.toNat) := by
    simp [withLaneByte, UInt32.toBitVec_shiftLeft, Nat.mod_eq_of_lt h]
  rw [hword, BitVec.getLsbD_or, BitVec.getLsbD_and, BitVec.getLsbD_not, BitVec.getLsbD_shiftLeft,
    BitVec.getLsbD_shiftLeft, BitVec.getLsbD_setWidth, hmask]
  rcases Nat.lt_or_ge index shift.toNat with hbelow | hbelow
  · have houtside : ¬ (shift.toNat ≤ index ∧ index < shift.toNat + 8) := by omega
    simp only [hindex, hbelow, houtside, decide_true, Bool.not_true, Bool.false_and, Bool.and_false,
      Bool.not_false, Bool.and_true, Bool.or_false, if_false]
  · have hnot : ¬ index < shift.toNat := by omega
    by_cases hlane : index - shift.toNat < 8
    · have hinside : shift.toNat ≤ index ∧ index < shift.toNat + 8 := by omega
      have hlt : index - shift.toNat < 32 := by omega
      simp only [hindex, hnot, hlane, hinside, hlt, decide_true, decide_false, Bool.not_true,
        Bool.not_false, Bool.and_true, Bool.true_and, Bool.and_false, Bool.false_or, and_self,
        if_true]
    · have houtside : ¬ (shift.toNat ≤ index ∧ index < shift.toNat + 8) := by omega
      have hhigh : byte.toBitVec.getLsbD (index - shift.toNat) = false :=
        BitVec.getLsbD_of_ge _ _ (by omega)
      simp only [hindex, hlane, houtside, hhigh, decide_true, decide_false, Bool.not_false,
        Bool.and_true, Bool.and_false, Bool.or_false, if_false]

theorem laneByte_withLaneByte (h : shift.toNat + 8 ≤ 32) (word : UInt32) (byte : UInt8) :
    laneByte (withLaneByte word shift byte) shift = byte := by
  apply UInt8.eq_of_toBitVec_eq
  apply BitVec.eq_of_getLsbD_eq
  intro index hindex
  rw [getLsbD_laneByte (by omega) _ hindex, getLsbD_withLaneByte (by omega) _ _ (by omega),
    if_pos (by omega), Nat.add_sub_cancel_left]

theorem laneByte_withLaneByte_apart (h : shift.toNat < 32) (hother : other.toNat + 8 ≤ 32)
    (hapart : shift.toNat + 8 ≤ other.toNat ∨ other.toNat + 8 ≤ shift.toNat) (word : UInt32)
    (byte : UInt8) : laneByte (withLaneByte word shift byte) other = laneByte word other := by
  apply UInt8.eq_of_toBitVec_eq
  apply BitVec.eq_of_getLsbD_eq
  intro index hindex
  rw [getLsbD_laneByte (by omega) _ hindex, getLsbD_laneByte (by omega) _ hindex,
    getLsbD_withLaneByte h _ _ (by omega), if_neg (by omega)]

theorem toNat_and_three (offset : UInt64) : (offset &&& 3).toNat = offset.toNat % 4 := by
  rw [UInt64.toNat_and]
  exact Nat.and_two_pow_sub_one_eq_mod offset.toNat 2

theorem toNat_laneShift (offset : UInt64) : (laneShift offset).toNat = offset.toNat % 4 * 8 := by
  simp only [laneShift, UInt64.toNat_toUInt32, UInt64.toNat_mul, toNat_and_three,
    UInt64.reduceToNat]
  omega

theorem toNat_wordOffset (offset : UInt64) : (wordOffset offset).toNat = offset.toNat / 4 * 4 := by
  have hbits : offset.toBitVec &&& ~~~3#64 = (offset.toBitVec >>> 2) <<< 2 := by
    apply BitVec.eq_of_getLsbD_eq
    intro index hindex
    rcases index with _ | _ | index
    · simp
    · simp
    · have hhigh : (3#64).getLsbD (index + 2) = false := by
        rw [BitVec.getLsbD_ofNat, Nat.testBit_add_one, Nat.testBit_add_one]
        simp
      have hlow : ¬ index + 2 < 2 := by omega
      simp only [BitVec.getLsbD_and, BitVec.getLsbD_not, BitVec.getLsbD_shiftLeft,
        BitVec.getLsbD_ushiftRight, hhigh, hindex, hlow, decide_true, decide_false, Bool.not_false,
        Bool.and_true, Bool.true_and]
      exact congrArg offset.toBitVec.getLsbD (by omega)
  have hlt : offset.toBitVec.toNat < 18446744073709551616 := offset.toNat_lt
  change (offset.toBitVec &&& ~~~3#64).toNat = offset.toBitVec.toNat / 4 * 4
  rw [hbits, BitVec.toNat_shiftLeft, BitVec.toNat_ushiftRight, Nat.shiftLeft_eq,
    Nat.shiftRight_eq_div_pow]
  omega

variable {base : UInt64}

/-- Counted from the start of any word, the words and the places in them are the same. -/
theorem wordOffset_add (h : base.toNat % 4 = 0) (offset : UInt64) :
    wordOffset (base + offset) = base + wordOffset offset := by
  apply UInt64.toNat_inj.mp
  rw [toNat_wordOffset, UInt64.toNat_add, UInt64.toNat_add, toNat_wordOffset]
  omega

theorem laneShift_add (h : base.toNat % 4 = 0) (offset : UInt64) :
    laneShift (base + offset) = laneShift offset := by
  apply UInt32.toNat_inj.mp
  rw [toNat_laneShift, toNat_laneShift, UInt64.toNat_add]
  omega

end TrapDispatch
