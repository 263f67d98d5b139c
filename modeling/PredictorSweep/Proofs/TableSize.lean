import PredictorSweep.Proofs.Table.Reachable
import PredictorSweep.Proofs.Plan
/-!
# Table sizes of 64-bit integers

A table size is a 64-bit signed integer. The valid ones are the powers `2^k` with `3 ≤ k ≤ 62`:
eight is the minimum, and `2^62` the largest power of two such an integer holds. The index width
of `2^k` is `k - 3`, so it is never negative and gives the size back as `2^(width + 3)`. Every
other size is refused, by the check and by the width alike, with one error of the invalid-size
class: it says the size is not a power of two when the size is not positive or has two of its
bits set, and that it is below the minimum otherwise.

Main statements:

* `exists_two_pow_iff_not_two_bits`: a positive number is a power of two exactly when no two of
  its bits are set;
* `validateSize_of_not_two_pow`, `validateSize_of_small_two_pow`: the two refusals of the size
  check;
* `sizeRule_int64`: the valid sizes among 64-bit integers, their widths, and the refusal of
  every other size.
-/

namespace PredictorSweep

/-! ## Powers of two and their bits -/

/-- A positive number is a power of two exactly when no two of its bits are set. -/
theorem exists_two_pow_iff_not_two_bits {n : Nat} (hn : 0 < n) :
    (∃ k, n = Nat.pow 2 k) ↔ ¬∃ j i, i < j ∧ n.testBit i = true ∧ n.testBit j = true := by
  constructor
  · rintro ⟨k, rfl⟩ ⟨j, i, hij, hi, hj⟩
    -- the only bit of `2^k` is bit `k`
    have hik : k = i := by simpa [Nat.testBit_two_pow] using hi
    have hjk : k = j := by simpa [Nat.testBit_two_pow] using hj
    omega
  · intro hbits
    have htop : n.testBit n.log2 = true := Nat.testBit_log2 (by omega)
    refine ⟨n.log2, Nat.eq_of_testBit_eq fun i => ?_⟩
    show n.testBit i = (2 ^ n.log2).testBit i
    rcases Nat.lt_trichotomy i n.log2 with hlt | rfl | hgt
    · -- a lower bit set would be a second one
      have hlow : n.testBit i = false := by
        cases hi : n.testBit i
        · rfl
        · exact absurd ⟨n.log2, i, hlt, hi, htop⟩ hbits
      rw [hlow, Nat.testBit_two_pow_of_ne (by omega)]
    · rw [htop, Nat.testBit_two_pow_self]
    · -- no bit above the top one is set
      have hbound : n < 2 ^ i :=
        lt_of_lt_of_le Nat.lt_log2_self (Nat.pow_le_pow_right (by omega) hgt)
      rw [Nat.testBit_lt_two_pow hbound, Nat.testBit_two_pow_of_ne (by omega)]

/-! ## Powers of two as integers -/

theorem int_two_pow_eq (k : Nat) : Int.pow 2 k = ((Nat.pow 2 k : Nat) : Int) :=
  (Int.natCast_pow 2 k).symm

theorem int_two_pow_lt_iff {j m : Nat} : Int.pow 2 j < Int.pow 2 m ↔ j < m := by
  rw [int_two_pow_eq, int_two_pow_eq, Int.ofNat_lt]
  exact Nat.pow_lt_pow_iff_right (by omega)

theorem int_two_pow_le_iff {j m : Nat} : Int.pow 2 j ≤ Int.pow 2 m ↔ j ≤ m := by
  rw [int_two_pow_eq, int_two_pow_eq, Int.ofNat_le]
  exact Nat.pow_le_pow_iff_right (by omega)

/-! ## The two refusals -/

theorem int_two_pow_pos (k : Nat) : 0 < Int.pow 2 k := by
  rw [int_two_pow_eq]
  exact Int.ofNat_lt.mpr (Nat.two_pow_pos k)

/-- A size that is not positive, or not a power of two, is refused as not a power of two. -/
theorem validateSize_of_not_two_pow {size : Int} (h : size ≤ 0 ∨ ¬∃ k : Nat, size = Int.pow 2 k) :
    validateSize size = .error (.notPowerOfTwo size) := by
  refine validateSize_of_not_pow fun ⟨hk, _⟩ => ?_
  rcases h with hle | hnk
  · obtain ⟨k, rfl⟩ := hk
    exact absurd (int_two_pow_pos k) (Int.not_lt.mpr hle)
  · exact hnk hk

/-- A power of two below eight is refused as below the minimum. -/
theorem validateSize_of_small_two_pow {size : Int} (hk : ∃ k : Nat, size = Int.pow 2 k)
    (hlt : size < 8) : validateSize size = .error (.belowMinimum size) := by
  have hword : size < Int.pow 2 63 := Int.lt_trans hlt (by decide)
  have hmin : size < minSize := hlt
  rw [validateSize_of_pow ⟨hk, hword⟩, if_pos hmin]

theorem indexWidth_eq_error_iff {size : Int} {e : SizeError} :
    indexWidth size = .error e ↔ validateSize size = .error e := by
  unfold indexWidth
  cases validateSize size <;> simp [Except.map]

/-- The index width of `2^k`, for `k` from three to sixty-two, is `k - 3`. -/
theorem indexWidth_two_pow {k : Nat} (hk : 3 ≤ k) (hk' : k ≤ 62) :
    indexWidth (Int.pow 2 k) = .ok ((k : Int) - 3) := by
  have hvalid : validateSize (Int.pow 2 k) = .ok () :=
    validateSize_eq_ok_iff.mpr ⟨⟨k, rfl⟩, (int_two_pow_le_iff.mpr hk : Int.pow 2 3 ≤ _),
      int_two_pow_lt_iff.mpr (by omega)⟩
  have hlog : Nat.log2 (Int.pow 2 k).toNat = k := by
    rw [int_two_pow_eq, Int.toNat_natCast]
    exact Nat.log2_two_pow
  rw [indexWidth_eq, hvalid, hlog]
  rfl

/-! ## Sizes of 64 bits -/

/-- A positive 64-bit integer is a power of two exactly when no two of its bits are set. -/
theorem exists_two_pow_iff_int64 {size : Int64} (h : 0 < size.toInt) :
    (∃ k : Nat, size.toInt = Int.pow 2 k) ↔
      ¬∃ j i, i < j ∧ size.toBitVec.getLsbD i = true ∧ size.toBitVec.getLsbD j = true := by
  have hnat := Int64.toBitVec_toNat_of_pos h
  -- the value's powers of two are those of its bits read as a number
  have hpow : (∃ k : Nat, size.toInt = Int.pow 2 k) ↔ ∃ k, size.toBitVec.toNat = Nat.pow 2 k := by
    rw [hnat]
    constructor
    · rintro ⟨k, hk⟩
      exact ⟨k, by rw [hk, int_two_pow_eq, Int.toNat_natCast]⟩
    · rintro ⟨k, hk⟩
      exact ⟨k, by rw [int_two_pow_eq, ← hk, Int.toNat_of_nonneg (Int.le_of_lt h)]⟩
  rw [hpow, exists_two_pow_iff_not_two_bits (by omega)]
  rfl

/-- The powers of two a 64-bit integer holds go up to `2^62`. -/
theorem le_62_of_int64 {size : Int64} {k : Nat} (hk : size.toInt = Int.pow 2 k) : k ≤ 62 := by
  have hlt : Int.pow 2 k < Int.pow 2 63 := hk ▸ Int64.toInt_lt size
  exact Nat.le_of_lt_succ (int_two_pow_lt_iff.mp hlt)

/-- Among 64-bit integers the valid table sizes are the powers `2^k` with `3 ≤ k ≤ 62`, and the
index width of `2^k` is `k - 3`: never negative, with `2^(width + 3)` the size. Every other size
is refused by the check and by the width with one invalid-size error, whose text says the size is
not a power of two when it is not positive or has two bits set, and below the minimum otherwise. -/
theorem sizeRule_int64 (size : Int64) :
    (validateSize size.toInt = .ok () ↔ ∃ k : Nat, 3 ≤ k ∧ k ≤ 62 ∧ size.toInt = Int.pow 2 k) ∧
    (∀ w, indexWidth size.toInt = .ok w ↔
      ∃ k : Nat, 3 ≤ k ∧ k ≤ 62 ∧ size.toInt = Int.pow 2 k ∧ w = (k : Int) - 3) ∧
    (∀ w, indexWidth size.toInt = .ok w → 0 ≤ w ∧ Int.pow 2 (w + 3).toNat = size.toInt) ∧
    (validateSize size.toInt = .ok () ∨ ∃ e : SizeError,
      validateSize size.toInt = .error e ∧ indexWidth size.toInt = .error e ∧
      e.toFailure.classes = [.invalidSize] ∧
      ((size.toInt ≤ 0 ∨
          ∃ j i, i < j ∧ size.toBitVec.getLsbD i = true ∧ size.toBitVec.getLsbD j = true) →
        e.toFailure.message =
          "invalid predictor table size: " ++ toString size.toInt ++ " is not a power of two") ∧
      (¬(size.toInt ≤ 0 ∨
          ∃ j i, i < j ∧ size.toBitVec.getLsbD i = true ∧ size.toBitVec.getLsbD j = true) →
        e.toFailure.message =
          "invalid predictor table size: " ++ toString size.toInt ++ " is below minimum 8")) := by
  have hvalid : validateSize size.toInt = .ok () ↔
      ∃ k : Nat, 3 ≤ k ∧ k ≤ 62 ∧ size.toInt = Int.pow 2 k := by
    rw [validateSize_eq_ok_iff]
    constructor
    · rintro ⟨⟨k, hk⟩, hmin, -⟩
      exact ⟨k, int_two_pow_le_iff.mp (hk ▸ hmin : Int.pow 2 3 ≤ Int.pow 2 k), le_62_of_int64 hk,
        hk⟩
    · rintro ⟨k, hk3, -, hk⟩
      exact ⟨⟨k, hk⟩, hk ▸ (int_two_pow_le_iff.mpr hk3 : Int.pow 2 3 ≤ Int.pow 2 k),
        Int64.toInt_lt size⟩
  have hwidth : ∀ w, indexWidth size.toInt = .ok w ↔
      ∃ k : Nat, 3 ≤ k ∧ k ≤ 62 ∧ size.toInt = Int.pow 2 k ∧ w = (k : Int) - 3 := by
    intro w
    constructor
    · intro hw
      obtain ⟨k, hk3, hk62, hk⟩ := hvalid.mp (validateSize_of_indexWidth hw)
      rw [hk, indexWidth_two_pow hk3 hk62] at hw
      exact ⟨k, hk3, hk62, hk, (Except.ok.inj hw).symm⟩
    · rintro ⟨k, hk3, hk62, hk, rfl⟩
      rw [hk, indexWidth_two_pow hk3 hk62]
  refine ⟨hvalid, hwidth, fun w hw => ?_, ?_⟩
  · -- the width gives the size back
    obtain ⟨k, hk3, -, hk, rfl⟩ := (hwidth w).mp hw
    have hk' : ((k : Int) - 3 + 3).toNat = k := by omega
    exact ⟨by omega, by rw [hk', hk]⟩
  · rcases hv : validateSize size.toInt with e | ⟨⟩
    · right
      refine ⟨e, rfl, indexWidth_eq_error_iff.mpr hv, rfl, fun hbad => ?_, fun hgood => ?_⟩
      · -- a size that is not positive or has two bits set is no power of two
        have hnot : size.toInt ≤ 0 ∨ ¬∃ k : Nat, size.toInt = Int.pow 2 k := by
          rcases hbad with hle | hbits
          · exact .inl hle
          · by_cases hle : size.toInt ≤ 0
            · exact .inl hle
            · exact .inr fun hk => (exists_two_pow_iff_int64 (by omega)).mp hk hbits
        rw [validateSize_of_not_two_pow hnot] at hv
        cases hv
        rfl
      · -- a positive size with one bit set is a power of two, refused only as too small
        obtain ⟨hpos, hbits⟩ := not_or.mp hgood
        have hk := (exists_two_pow_iff_int64 (by omega)).mpr hbits
        have hlt : size.toInt < 8 := by
          by_contra hge
          have hok := validateSize_eq_ok_iff.mpr ⟨hk, by omega, Int64.toInt_lt size⟩
          rw [hv] at hok
          cases hok
        rw [validateSize_of_small_two_pow hk hlt] at hv
        cases hv
        show "invalid predictor table size: " ++ toString size.toInt ++ " is below minimum " ++
          toString minSize = _
        rw [String.append_assoc]
        rfl
    · exact .inl rfl

end PredictorSweep
