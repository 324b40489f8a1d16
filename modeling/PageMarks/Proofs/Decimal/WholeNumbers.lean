import Mathlib
import PageMarks.Decimal.Binary

/-!
Whole numbers as floats. A whole number with at most 53 binary digits is a float as it is: nothing
is rounded away when it is made one, and cut to a whole number again it is itself.
-/

namespace PageMarks.Decimal

open Float.Model Float.Model.UnpackedFloat

theorem shiftRight_exact (q k : Nat) :
    ExtendedMantissa.ofMantissaAndAccuracy (q * 2 ^ k) .exact >>> k =
      ExtendedMantissa.ofMantissaAndAccuracy q .exact := by
  change Nat.repeat ExtendedMantissa.shiftRightOne k ⟨q * 2 ^ k, false, false⟩ = ⟨q, false, false⟩
  induction k generalizing q with
  | zero => rw [Nat.pow_zero, Nat.mul_one, Nat.repeat]
  | succ k ih =>
    rw [Nat.repeat, Nat.pow_succ', ← Nat.mul_assoc, ih]
    simp [ExtendedMantissa.shiftRightOne]

theorem append_toNat {n m : Nat} (high : BitVec n) (low : BitVec m) :
    (high ++ low).toNat = high.toNat * 2 ^ m + low.toNat := by
  rw [BitVec.toNat_append, ← Nat.shiftLeft_add_eq_or_of_lt low.isLt, Nat.shiftLeft_eq]

section Normal

variable {q : Nat} (normal : q.log2 = 52) (k : Nat) {e : Int}
include normal

theorem pos_of_normal : 0 < q := by
  rw [Nat.pos_iff_ne_zero]
  rintro rfl
  cases normal

theorem normal_bounds : 2 ^ 52 ≤ q ∧ q < 2 ^ 53 :=
  (Nat.log2_eq_iff (pos_of_normal normal).ne').mp normal

theorem log2_scaled : (q * 2 ^ k).log2 = 52 + k := by
  obtain ⟨low, high⟩ := normal_bounds normal
  have pos := pos_of_normal normal
  refine (Nat.log2_eq_iff (by positivity)).mpr ⟨?_, ?_⟩
  · rw [Nat.pow_add]
    exact Nat.mul_le_mul_right _ low
  · rw [Nat.add_right_comm, Nat.pow_add]
    exact Nat.mul_lt_mul_of_pos_right high (by positivity)

theorem target_scaled (room : -1074 ≤ e + k) :
    Format.binary64.targetExponent (totalExponent (q * 2 ^ k) e) = e + k := by
  simp only [Format.targetExponent, totalExponent, log2_scaled normal, Format.mantissaBits,
    Format.minExponent]
  omega

theorem round_scaled (s : Sign) (room : -1074 ≤ e + k) :
    roundWithAccuracy .binary64 s (q * 2 ^ k) e .exact =
      .finite s q (e + k) (pos_of_normal normal) := by
  have first : shiftToTargetExponent .binary64 (q * 2 ^ k) e .exact =
      (ExtendedMantissa.ofMantissaAndAccuracy q .exact, e + k) := by
    have amount : (e + k - e).toNat = k := by omega
    rw [shiftToTargetExponent, target_scaled normal k room, shiftToExponent, amount,
      shiftRight_exact]
  have second : shiftToTargetExponent .binary64 q (e + k) .exact =
      (ExtendedMantissa.ofMantissaAndAccuracy q .exact, e + k) := by
    have target := target_scaled normal 0 (e := e + k) (by simpa using room)
    rw [Nat.pow_zero, Nat.mul_one] at target
    rw [shiftToTargetExponent, target]
    simp [shiftToExponent, HShiftRight.hShiftRight, Nat.repeat]
  have rounded : (ExtendedMantissa.ofMantissaAndAccuracy q .exact).roundedMantissa = q := rfl
  have mantissa : (ExtendedMantissa.ofMantissaAndAccuracy q .exact).mantissa = q := rfl
  rw [roundWithAccuracy, first]
  simp only [rounded, second, mantissa, dif_neg (pos_of_normal normal).ne']

section Packed

variable (low : -1074 ≤ e) (high : e ≤ 971)
include low high

theorem pack_normal (s : Sign) :
    UnpackedFloat.pack .binary64 (.finite s q e (pos_of_normal normal)) =
      packComponents .binary64 s (BitVec.ofNat 11 (e + 1075).toNat) (BitVec.ofNat 52 q) := by
  have biased : (e + 1023 + 52).toNat = (e + 1075).toNat := by omega
  simp only [UnpackedFloat.pack, Format.exponentBias, Format.mantissaBits, normal]
  norm_num [biased]
  omega

theorem unpack_normal (s : Sign) :
    (Float.Model.pack (.finite s q e (pos_of_normal normal))).unpack =
      .finite s q e (pos_of_normal normal) := by
  have bounds := normal_bounds normal
  have exponent : (BitVec.ofNat 11 (e + 1075).toNat).toNat = (e + 1075).toNat := by
    rw [BitVec.toNat_ofNat, Nat.mod_eq_of_lt (by omega)]
  have mantissa : (1#1 ++ BitVec.ofNat 52 q).toNat = q := by
    rw [append_toNat, BitVec.toNat_ofNat, BitVec.toNat_ofNat]
    omega
  have infinite : BitVec.ofNat 11 (e + 1075).toNat ≠ -1#11 := by
    intro same
    have top : (e + 1075).toNat = 2047 := exponent.symm.trans (congrArg BitVec.toNat same)
    omega
  have tiny : BitVec.ofNat 11 (e + 1075).toNat ≠ 0#11 := by
    intro same
    have bottom : (e + 1075).toNat = 0 := exponent.symm.trans (congrArg BitVec.toNat same)
    omega
  have place : ((e + 1075).toNat : Int) - (1023 + 52) = e := by omega
  rw [Float.Model.pack, Float.Model.unpack]
  dsimp only
  rw [pack_normal normal low high s, UnpackedFloat.unpack]
  simp only [unpackMantissa_packComponents, unpackExponent_packComponents,
    unpackSign_packComponents, if_neg infinite, if_neg tiny, Sign.ofBitVec_toBitVec, exponent,
    mantissa]
  congr 1

theorem toBits_normal :
    (Float.Model.pack (.finite .positive q e (pos_of_normal normal))).toBits.toNat =
      (e + 1075).toNat * 2 ^ 52 + (q - 2 ^ 52) := by
  have bounds := normal_bounds normal
  rw [Float.Model.pack, UInt64.toNat]
  dsimp only
  rw [pack_normal normal low high .positive, packComponents, append_toNat, append_toNat]
  simp only [Sign.toBitVec, BitVec.toNat_ofNat]
  omega

end Packed
end Normal

def mantissaOf (n : Nat) : Nat := n * 2 ^ (52 - n.log2)

section Whole

variable {n : Nat} (pos : 0 < n) (small : n < 2 ^ 53)
include pos small

theorem log2_small : n.log2 < 53 := (Nat.log2_lt pos.ne').mpr small

theorem mantissaOf_normal : (mantissaOf n).log2 = 52 := by
  have bound := log2_small pos small
  obtain ⟨low, high⟩ := (Nat.log2_eq_iff pos.ne').mp rfl
  have filled : 2 ^ n.log2 * 2 ^ (52 - n.log2) = 2 ^ 52 := by
    rw [← Nat.pow_add]
    congr 1
    omega
  refine (Nat.log2_eq_iff (by unfold mantissaOf; positivity)).mpr ⟨?_, ?_⟩
  · rw [← filled]
    exact Nat.mul_le_mul_right _ low
  · calc mantissaOf n
        < 2 ^ (n.log2 + 1) * 2 ^ (52 - n.log2) :=
          Nat.mul_lt_mul_of_pos_right high (by positivity)
      _ = 2 ^ 53 := by rw [Nat.pow_succ', Nat.mul_assoc, filled, ← Nat.pow_succ']

theorem ofNat_unpacked :
    UnpackedFloat.ofNat .binary64 n = .finite .positive (mantissaOf n) (n.log2 - 52)
      (pos_of_normal (mantissaOf_normal pos small)) := by
  have bound := log2_small pos small
  have target : Format.binary64.targetExponent (totalExponent n 0) = n.log2 - 52 := by
    simp only [Format.targetExponent, totalExponent, Format.mantissaBits, Format.minExponent]
    omega
  have shift : ((0 : Int) - (n.log2 - 52)).toNat = 52 - n.log2 := by omega
  have exponent : (0 : Int) - (52 - n.log2 : Nat) = n.log2 - 52 := by omega
  have positive : compare (n : Int) 0 = .gt := compare_gt_iff_gt.mpr (Int.natCast_pos.mpr pos)
  have rounded :=
    round_scaled (mantissaOf_normal pos small) 0 (e := n.log2 - 52) .positive (by omega)
  rw [UnpackedFloat.ofNat, UnpackedFloat.ofInt, UnpackedFloat.normalize, positive]
  simp only [Int.toNat_natCast, UnpackedFloat.round, target, decreaseExponent, shift, exponent,
    Nat.shiftLeft_eq]
  simpa [mantissaOf] using rounded

/-- A number of so few digits is made a float by a product with one, which is exact as well. -/
theorem ofNat_packed :
    (Float.ofNat n).toModel = Float.Model.pack (.finite .positive (mantissaOf n) (n.log2 - 52)
      (pos_of_normal (mantissaOf_normal pos small))) := by
  have bound := log2_small pos small
  have normal := mantissaOf_normal pos small
  have word : n.toUInt64.toNat = n := by
    rw [Nat.toUInt64_eq, UInt64.toNat_ofNat']
    omega
  have unpacked := unpack_normal normal (e := n.log2 - 52) (by omega) (by omega) .positive
  have one : (Float.ofBits 0x3FF0000000000000).toModel.unpack =
      .finite .positive (2 ^ 52) (-52) (by decide) := rfl
  have product := round_scaled normal 52 (e := n.log2 - 52 + -52) .positive (by omega)
  rw [Float.ofNat]
  change (Float.ofScientific n false 0).toModel = _
  rw [Float.ofScientific, dif_pos ⟨small, by decide⟩]
  change Float.Model.pack (UnpackedFloat.mul .binary64
    (Float.Model.pack (UnpackedFloat.ofNat .binary64 n.toUInt64.toNat)).unpack
    (Float.ofBits 0x3FF0000000000000).toModel.unpack) = _
  rw [word, ofNat_unpacked pos small, unpacked, one]
  change Float.Model.pack (roundWithAccuracy .binary64 .positive _ _ _) = _
  rw [product]
  congr 2
  omega

theorem ofNat_toBits :
    (Float.ofNat n).toBits.toNat = (n.log2 + 1023) * 2 ^ 52 + (mantissaOf n - 2 ^ 52) := by
  have bound := log2_small pos small
  have bits := toBits_normal (mantissaOf_normal pos small) (e := n.log2 - 52) (by omega) (by omega)
  have exponent : ((n.log2 : Int) - 52 + 1075).toNat = n.log2 + 1023 := by omega
  rwa [exponent, ← ofNat_packed pos small] at bits

theorem ofFloat_ofNat :
    Binary.ofFloat (Float.ofNat n) = .finite false (mantissaOf n) (n.log2 - 52) := by
  have bound := log2_small pos small
  have bounds := normal_bounds (mantissaOf_normal pos small)
  have bits := ofNat_toBits pos small
  have sign : (Float.ofNat n).toBits.toNat / Nat.pow 2 63 ≠ 1 := by
    simp only [Nat.pow_eq]
    omega
  have exponent : (Float.ofNat n).toBits.toNat / Nat.pow 2 52 % Nat.pow 2 11 = n.log2 + 1023 := by
    simp only [Nat.pow_eq]
    omega
  have mantissa : Nat.pow 2 52 + (Float.ofNat n).toBits.toNat % Nat.pow 2 52 = mantissaOf n := by
    simp only [Nat.pow_eq]
    omega
  have finite : n.log2 + 1023 ≠ 2047 := by omega
  have usual : n.log2 + 1023 ≠ 0 := by omega
  have place : ((n.log2 + 1023 : Nat) : Int) - 1075 = n.log2 - 52 := by omega
  unfold Binary.ofFloat
  simp only [sign, exponent, Binary.ofFields, mantissa, finite, usual, place, decide_false,
    if_false]

theorem floorScaled_mantissaOf : floorScaled (mantissaOf n) (n.log2 - 52) = n := by
  have bound := log2_small pos small
  rw [floorScaled, mantissaOf]
  split
  · next full =>
    have unmoved : 52 - n.log2 = 0 := by omega
    have up : ((n.log2 : Int) - 52).toNat = 0 := by omega
    simp [unmoved, up]
  · have down : (-((n.log2 : Int) - 52)).toNat = 52 - n.log2 := by omega
    rw [down]
    exact Nat.mul_div_cancel n (Nat.two_pow_pos _)

end Whole

theorem Binary.truncate_le {low high : Int} (negative : low ≤ 0) (positive : 0 ≤ high)
    (b : Binary) : b.truncate low high ≤ high := by
  cases b with
  | nan => exact positive
  | infinite below => cases below <;> simp only [truncate] <;> omega
  | finite below m e => simp only [truncate]; omega

theorem truncate_ofNat {n : Nat} (small : n < 2 ^ 53) {low high : Int} (above : low ≤ n)
    (below : n ≤ high) : (Binary.ofFloat (Float.ofNat n)).truncate low high = n := by
  have inside : max low (min high (n : Int)) = n := by omega
  rcases Nat.eq_zero_or_pos n with rfl | pos
  · have zero : Binary.ofFloat (Float.ofNat 0) = .finite false 0 (-1074) := rfl
    have whole : floorScaled 0 (-1074) = 0 := Nat.zero_div _
    rw [zero, Binary.truncate, whole]
    exact inside
  · rw [ofFloat_ofNat pos small, Binary.truncate, floorScaled_mantissaOf pos small]
    exact inside

end PageMarks.Decimal
