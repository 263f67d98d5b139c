import Mathlib
/-!
# Floats that hold naturals exactly

A natural number below `2^53` has an exact double-precision float: a 53-bit mantissa, shifted
left until its top bit is bit 52, and the matching exponent. Converting such a number to a float
gives that form, multiplying two of them gives the form of the product when the product is still
below `2^53`, and converting back to a 64-bit integer gives the number again. Durations are read
with this arithmetic: a fraction's digits are scaled to nanoseconds in double precision.

The statements are about the unpacked form of `Float`'s logical model, where every operation
unpacks its arguments, computes, rounds, and packs the result again.

Main statements:

- `exactNat`: the unpacked float of a natural below `2^53`;
- `roundWithAccuracy_exact`, `unpack_pack_exactNat`: rounding and packing keep it;
- `ofNat_exactNat`, `mul_exactNat`, `toUInt64_exactNat`: conversion, product and conversion back;
- `toUInt64_ofNat_mul`: the three together.
-/

namespace PredictorSweep.FloatNat

open Float.Model Float.Model.UnpackedFloat

theorem log2_mul_two_pow {n : Nat} (h : n ≠ 0) (s : Nat) : (n * 2 ^ s).log2 = n.log2 + s := by
  have hpos : n * 2 ^ s ≠ 0 := Nat.mul_ne_zero h (Nat.ne_of_gt (Nat.two_pow_pos s))
  rw [Nat.log2_eq_iff hpos]
  have hlo := Nat.log2_self_le h
  have hhi := (Nat.log2_lt h).1 (Nat.lt_succ_self n.log2)
  constructor
  · rw [Nat.pow_add]
    exact Nat.mul_le_mul_right _ hlo
  · rw [show n.log2 + s + 1 = (n.log2 + 1) + s by omega, Nat.pow_add]
    exact Nat.mul_lt_mul_of_pos_right hhi (Nat.two_pow_pos s)

theorem log2_add_le_log2_mul {m n : Nat} (hm : m ≠ 0) (hn : n ≠ 0) :
    m.log2 + n.log2 ≤ (m * n).log2 := by
  rw [Nat.le_log2 (Nat.mul_ne_zero hm hn), Nat.pow_add]
  exact Nat.mul_le_mul (Nat.log2_self_le hm) (Nat.log2_self_le hn)

theorem log2_le_of_lt {n : Nat} (h : n ≠ 0) (hn : n < Nat.pow 2 53) : n.log2 ≤ 52 := by
  have := (Nat.log2_lt h).2 hn
  omega

/-- Shifting out zero bits is exact: the round and sticky bits stay clear. -/
theorem shiftRight_exact (m k : Nat) :
    ExtendedMantissa.ofMantissaAndAccuracy (m * 2 ^ k) .exact >>> k = ⟨m, false, false⟩ := by
  induction k generalizing m with
  | zero =>
    simp only [Nat.pow_zero, Nat.mul_one, ExtendedMantissa.ofMantissaAndAccuracy]
    rfl
  | succ k ih =>
    -- the first `k` shifts take `m * 2 ^ (k + 1)` to `2 * m`, the last one to `m`
    have h : Nat.repeat ExtendedMantissa.shiftRightOne k
        (ExtendedMantissa.ofMantissaAndAccuracy (m * 2 ^ (k + 1)) .exact) = ⟨m * 2, false, false⟩ := by
      rw [Nat.pow_succ', ← Nat.mul_assoc]
      exact ih (m * 2)
    show ExtendedMantissa.shiftRightOne (Nat.repeat ExtendedMantissa.shiftRightOne k _) = _
    rw [h]
    simp [ExtendedMantissa.shiftRightOne]

theorem targetExponent_binary64 (L : Nat) :
    Format.binary64.targetExponent ((L : Int) + 1) = (L : Int) - 52 := by
  simp only [Format.targetExponent, Format.mantissaBits, Format.minExponent]
  omega

/-- The unpacked float of a natural number below `2^53`: zero, or its 53-bit mantissa with the
exponent that makes up for the shift. -/
def exactNat (n : Nat) : UnpackedFloat :=
  if h : n = 0 then .zero .positive
  else .finite .positive (n * 2 ^ (52 - n.log2)) ((n.log2 : Int) - 52)
    (Nat.mul_pos (Nat.pos_of_ne_zero h) (Nat.two_pow_pos _))

theorem exactNat_zero : exactNat 0 = .zero .positive := rfl

section Rounding

variable {n : Nat} (h : n ≠ 0) (hn : n < Nat.pow 2 53)
include h hn

/-- Moving `n * 2 ^ s` to the exponent the format wants for it drops only zero bits. -/
theorem shiftToTargetExponent_exact {s : Nat} (hs : 52 - n.log2 ≤ s) :
    shiftToTargetExponent Format.binary64 (n * 2 ^ s) (-(s : Int)) .exact =
      (⟨n * 2 ^ (52 - n.log2), false, false⟩, (n.log2 : Int) - 52) := by
  have hL := log2_le_of_lt h hn
  have hsplit : n * 2 ^ s = (n * 2 ^ (52 - n.log2)) * 2 ^ (s - (52 - n.log2)) := by
    rw [Nat.mul_assoc, ← Nat.pow_add]
    congr 2
    omega
  have htot : totalExponent (n * 2 ^ s) (-(s : Int)) = (n.log2 : Int) + 1 := by
    simp only [totalExponent, log2_mul_two_pow h]
    omega
  unfold shiftToTargetExponent shiftToExponent
  simp only [htot, targetExponent_binary64]
  rw [show ((n.log2 : Int) - 52 - -(s : Int)).toNat = s - (52 - n.log2) by omega, hsplit,
    shiftRight_exact]
  congr 1
  omega

/-- Rounding `n * 2 ^ s * 2 ^ (-s)` is exact and gives the float of `n`. -/
theorem roundWithAccuracy_exact {s : Nat} (hs : 52 - n.log2 ≤ s) :
    roundWithAccuracy Format.binary64 .positive (n * 2 ^ s) (-(s : Int)) .exact = exactNat n := by
  have hL := log2_le_of_lt h hn
  -- the second shift of the rounding starts where the first ended, and changes nothing
  have hagain := shiftToTargetExponent_exact h hn (Nat.le_refl (52 - n.log2))
  rw [show -((52 - n.log2 : Nat) : Int) = (n.log2 : Int) - 52 by omega] at hagain
  unfold roundWithAccuracy
  rw [shiftToTargetExponent_exact h hn hs]
  simp only [ExtendedMantissa.roundedMantissa, ExtendedMantissa.accuracy,
    Accuracy.roundToNearestEven]
  simp only [hagain]
  have hM : n * 2 ^ (52 - n.log2) ≠ 0 := Nat.mul_ne_zero h (Nat.ne_of_gt (Nat.two_pow_pos _))
  rw [dif_neg hM, exactNat, dif_neg h]

end Rounding

theorem sign_unpack_packComponents {sign : Sign} {ev : BitVec 11} {mv : BitVec 52} :
    Sign.ofBitVec (unpackSign (packComponents .binary64 sign ev mv)) = sign := by
  simp only [unpackSign, packComponents, BitVec.extractLsb]
  rw [BitVec.extractLsb'_append_eq_of_le (by omega), BitVec.extractLsb'_append_eq_of_le (by omega)]
  cases sign <;> rfl

theorem toNat_one_append (v : BitVec 52) : (1#1 ++ v).toNat = 2 ^ 52 + v.toNat := by
  rw [BitVec.toNat_append, ← Nat.shiftLeft_add_eq_or_of_lt v.isLt]
  simp [Nat.shiftLeft_eq]

/-- The float of a natural below `2^53` is a normal number, which packing and unpacking keep. -/
theorem unpack_pack_exactNat {n : Nat} (hn : n < Nat.pow 2 53) :
    UnpackedFloat.unpack Format.binary64 (UnpackedFloat.pack Format.binary64 (exactNat n)) =
      exactNat n := by
  by_cases h : n = 0
  · subst h
    rfl
  have hL := log2_le_of_lt h hn
  have hne : n * 2 ^ (52 - n.log2) ≠ 0 := Nat.mul_ne_zero h (Nat.ne_of_gt (Nat.two_pow_pos _))
  have hM : (n * 2 ^ (52 - n.log2)).log2 = 52 := by
    rw [log2_mul_two_pow h]
    omega
  have hlo : 2 ^ 52 ≤ n * 2 ^ (52 - n.log2) := by
    have := Nat.log2_self_le hne
    rwa [hM] at this
  have hhi : n * 2 ^ (52 - n.log2) < 2 ^ 53 := (Nat.log2_lt hne).1 (by omega)
  have hbias : ((n.log2 : Int) - 52 + Format.binary64.exponentBias +
      Format.binary64.mantissaBitsWithoutImplicit).toNat = n.log2 + 1023 := by
    show ((n.log2 : Int) - 52 + (2 ^ (11 - 1) - 1 : Nat) + (52 : Nat)).toNat = n.log2 + 1023
    omega
  -- packing writes the biased exponent and the mantissa without its top bit
  rw [exactNat, dif_neg h, UnpackedFloat.pack]
  simp only [hM, hbias]
  rw [if_neg (by omega), if_pos (by simp [Format.mantissaBits]), UnpackedFloat.unpack]
  simp only [unpackMantissa_packComponents, unpackExponent_packComponents,
    sign_unpack_packComponents]
  have htoNat : (BitVec.ofNat 11 (n.log2 + 1023)).toNat = n.log2 + 1023 := by
    rw [BitVec.toNat_ofNat]
    exact Nat.mod_eq_of_lt (by omega)
  have hne1 : BitVec.ofNat 11 (n.log2 + 1023) ≠ -1#11 := by
    intro heq
    have := congrArg BitVec.toNat heq
    rw [htoNat] at this
    simp at this
    omega
  have hne0 : BitVec.ofNat 11 (n.log2 + 1023) ≠ 0#11 := by
    intro heq
    have := congrArg BitVec.toNat heq
    rw [htoNat] at this
    simp at this
  rw [if_neg hne1, if_neg hne0]
  have hmant : (1#1 ++ BitVec.ofNat 52 (n * 2 ^ (52 - n.log2))).toNat = n * 2 ^ (52 - n.log2) := by
    rw [toNat_one_append, BitVec.toNat_ofNat]
    omega
  have hb : ((Format.binary64.exponentBias : Nat) : Int) = 1023 := rfl
  have hexp : ((BitVec.ofNat 11 (n.log2 + 1023)).toNat : Int) -
      ((Format.binary64.exponentBias : Int) + ((52 : Nat) : Int)) = (n.log2 : Int) - 52 := by
    rw [htoNat, hb]
    omega
  simp only [hmant, hexp]

theorem model_unpack_pack (f : UnpackedFloat) :
    (Float.Model.pack f).unpack =
      UnpackedFloat.unpack Format.binary64 (UnpackedFloat.pack Format.binary64 f) := rfl

/-- A product of two floats holding naturals holds their product, while it stays below `2^53`. -/
theorem mul_exactNat {a b : Float} {m n : Nat} (ha : a.toModel.unpack = exactNat m)
    (hb : b.toModel.unpack = exactNat n) (hmn : m * n < Nat.pow 2 53) :
    (a * b).toModel.unpack = exactNat (m * n) := by
  show (Float.Model.pack (UnpackedFloat.mul Format.binary64 a.toModel.unpack b.toModel.unpack)).unpack = _
  rw [ha, hb, model_unpack_pack]
  by_cases hm : m = 0
  · subst hm
    have hzero : UnpackedFloat.mul Format.binary64 (exactNat 0) (exactNat n) = .zero .positive := by
      rw [exactNat_zero, exactNat]
      split <;> rfl
    rw [hzero, Nat.zero_mul]
    rfl
  by_cases hn : n = 0
  · subst hn
    have hzero : UnpackedFloat.mul Format.binary64 (exactNat m) (exactNat 0) = .zero .positive := by
      rw [exactNat_zero, exactNat, dif_neg hm]
      rfl
    rw [hzero, Nat.mul_zero]
    rfl
  have hm53 : m < Nat.pow 2 53 :=
    Nat.lt_of_le_of_lt (Nat.le_mul_of_pos_right m (Nat.pos_of_ne_zero hn)) hmn
  have hn53 : n < Nat.pow 2 53 :=
    Nat.lt_of_le_of_lt (Nat.le_mul_of_pos_left n (Nat.pos_of_ne_zero hm)) hmn
  have hLm := log2_le_of_lt hm hm53
  have hLn := log2_le_of_lt hn hn53
  have hlog := log2_add_le_log2_mul hm hn
  -- the mantissas multiply to `m * n` shifted by both shifts, the exponents add up to undo them
  have hmul : UnpackedFloat.mul Format.binary64 (exactNat m) (exactNat n) =
      roundWithAccuracy Format.binary64 .positive ((m * n) * 2 ^ ((52 - m.log2) + (52 - n.log2)))
        (-(((52 - m.log2) + (52 - n.log2) : Nat) : Int)) .exact := by
    rw [exactNat, dif_neg hm, exactNat, dif_neg hn]
    simp only [UnpackedFloat.mul]
    congr 1
    · rw [Nat.pow_add]
      simp only [Nat.mul_assoc, Nat.mul_left_comm]
    · omega
  rw [hmul, roundWithAccuracy_exact (Nat.mul_ne_zero hm hn) hmn (by omega),
    unpack_pack_exactNat hmn]

/-- Converting the float of a natural back to a 64-bit integer gives the natural. -/
theorem toUInt64_exactNat {n : Nat} (hn : n < Nat.pow 2 53) : (exactNat n).toUInt64.toNat = n := by
  by_cases h : n = 0
  · subst h
    rfl
  have hL := log2_le_of_lt h hn
  rw [exactNat, dif_neg h]
  simp only [UnpackedFloat.toUInt64, UnpackedFloat.toInt, roundToInt, decreaseExponent,
    shiftToExponent]
  rw [show ((n.log2 : Int) - 52 - 0).toNat = 0 by omega, Nat.shiftLeft_zero,
    show (0 - ((n.log2 : Int) - 52 - ((0 : Nat) : Int))).toNat = 52 - n.log2 by omega,
    shiftRight_exact]
  simp only [Sign.apply, Int.toNat_natCast]
  have hn' : n < 2 ^ 53 := hn
  exact UInt64.toNat_ofNatClamp_of_lt (by show n < 2 ^ 64; omega)

theorem ofUInt64_exactNat {n : Nat} (hn : n < Nat.pow 2 53) :
    (Float.Model.ofUInt64 n.toUInt64).unpack = exactNat n := by
  rw [Float.Model.ofUInt64, model_unpack_pack]
  have hto : n.toUInt64.toNat = n := by
    have hn' : n < 2 ^ 53 := hn
    rw [Nat.toUInt64_eq, UInt64.toNat_ofNat_of_lt' (by show n < 2 ^ 64; omega)]
  simp only [UnpackedFloat.ofUInt64, UnpackedFloat.ofNat, UnpackedFloat.ofInt, UnpackedFloat.normalize, hto]
  by_cases h : n = 0
  · subst h
    rfl
  have hL := log2_le_of_lt h hn
  have hcmp : compare (n : Int) 0 = .gt := by
    rw [Int.compare_eq_gt]
    omega
  -- rounding first widens `n` to 53 bits, which the exact rounding then keeps
  have hround : UnpackedFloat.round Format.binary64 .positive n 0 = exactNat n := by
    have htot : totalExponent n 0 = (n.log2 : Int) + 1 := by
      simp only [totalExponent]
      omega
    simp only [UnpackedFloat.round, htot, targetExponent_binary64, decreaseExponent]
    rw [show (0 - ((n.log2 : Int) - 52)).toNat = 52 - n.log2 by omega, Nat.shiftLeft_eq,
      show (0 : Int) - ((52 - n.log2 : Nat) : Int) = -((52 - n.log2 : Nat) : Int) by omega]
    exact roundWithAccuracy_exact h hn (Nat.le_refl _)
  simp only [hcmp, Int.toNat_natCast, hround]
  exact unpack_pack_exactNat hn

theorem powerOfTen_zero :
    (Float.exactlyRepresentablePowersOfTen[0]).toModel.unpack = exactNat 1 := rfl

/-- A natural below `2^53` becomes the float that holds it. -/
theorem ofNat_exactNat {n : Nat} (hn : n < Nat.pow 2 53) :
    (Float.ofNat n).toModel.unpack = exactNat n := by
  -- the conversion goes through a 64-bit integer, then multiplies by `10 ^ 0`
  have h := mul_exactNat (ofUInt64_exactNat hn) powerOfTen_zero (by rw [Nat.mul_one]; exact hn)
  rw [Nat.mul_one] at h
  unfold Float.ofNat
  show (Float.ofScientific n false 0).toModel.unpack = _
  rw [Float.ofScientific, dif_pos ⟨hn, by decide⟩]
  exact h

/-- A natural times a float holding a positive natural, converted back, is their product. -/
theorem toUInt64_ofNat_mul {f c : Nat} {x : Float} (hx : x.toModel.unpack = exactNat c)
    (hc : 0 < c) (h : f * c < Nat.pow 2 53) : (Float.ofNat f * x).toUInt64.toNat = f * c := by
  have hf : f < Nat.pow 2 53 := Nat.lt_of_le_of_lt (Nat.le_mul_of_pos_right f hc) h
  show (Float.ofNat f * x).toModel.unpack.toUInt64.toNat = _
  rw [mul_exactNat (ofNat_exactNat hf) hx h, toUInt64_exactNat h]

end PredictorSweep.FloatNat
