import PredictorSweep.Predictor.Family
/-!
# Predictor specifications

A specification fixes a predictor for the simulator: its family, and for a table-backed family
the table size and the index width. A size is valid when it is a power of two of at least 8;
the index width of a valid size `2^k` is `k - 3`. Both are computed on the size's 64-bit word:
the power-of-two test clears the lowest set bit, and the width counts binary digits. A
specification built by `Spec.make` is validated; one given raw is printed as it stands.

Main definitions:

- `SizeError`, `bitLength`, `validateSize`, `indexWidth`, with `validateSize_of_not_pow`,
  `validateSize_of_pow`, `validateSize_eq_ok_iff` and `indexWidth_eq`: the word tests read as
  powers of two and their logarithms;
- `Spec`, `Spec.make`, `SpecError`;
- `Spec.flags`: the simulator options selecting the predictor;
- `Spec.label`: the family, then size and width where they apply, joined by `_`.
-/

namespace PredictorSweep

/-- The smallest table size the simulator accepts. -/
def minSize : Int := 8

/-- Why a table size is refused. -/
inductive SizeError where
  /-- Not positive, or not a power of two. -/
  | notPowerOfTwo (size : Int)
  /-- A power of two below the minimum. -/
  | belowMinimum (size : Int)
  deriving Repr, DecidableEq

namespace SizeError

/-- The text of a size error. -/
def message : SizeError → String
  | notPowerOfTwo n => "invalid predictor table size: " ++ toString n ++ " is not a power of two"
  | belowMinimum n =>
    "invalid predictor table size: " ++ toString n ++ " is below minimum " ++ toString minSize

/-- The view of a size error. -/
def toFailure (e : SizeError) : Failure :=
  { message := e.message, classes := [.invalidSize] }

end SizeError

/-- The number of binary digits of a word: the least `n` with `x < 2^n`, so zero for zero. -/
def bitLength (x : UInt64) : Nat :=
  if x = 0 then 0 else x.toNat.log2 + 1

/-- A size is valid when it is a power of two of at least the minimum; the power-of-two test
comes first. Sizes are 64-bit words. A positive word is a power of two when clearing its lowest set
bit, `w &&& (w - 1)`, leaves nothing; the sign test comes first, since the least word `-2^63` and
zero pass the bit test too. An integer beyond the 64-bit range is no size and is refused with the
power-of-two test; the readers of sizes keep to that range. -/
def validateSize (size : Int) : Except SizeError Unit :=
  let w := Int64.ofInt size
  if w.toInt ≠ size ∨ w ≤ 0 ∨ w &&& (w - 1) ≠ 0 then .error (.notPowerOfTwo size)
  else if size < minSize then .error (.belowMinimum size)
  else .ok ()

/-- The index width of a valid size: the binary digits of its word read as unsigned, less one
for the power and three for the minimum. -/
def indexWidth (size : Int) : Except SizeError Int :=
  (validateSize size).map fun _ => (bitLength (Int64.ofInt size).toUInt64 : Int) - 1 - 3

/-! ### Sizes as words -/

/-- The bits of a positive 64-bit integer are those of its value. -/
theorem Int64.toBitVec_toNat_of_pos {w : Int64} (h : 0 < w.toInt) :
    w.toBitVec.toNat = w.toInt.toNat := by
  rw [← Int64.toInt_toBitVec, BitVec.toInt_eq_toNat_cond] at *
  have hlt := w.toBitVec.isLt
  by_cases hs : 2 * w.toBitVec.toNat < 2 ^ 64 <;> simp only [hs, if_true, if_false] at h ⊢ <;> omega

/-- A positive word is a power of two exactly when clearing its lowest set bit leaves nothing. -/
theorem Int64.and_sub_one_eq_zero_iff {w : Int64} (hw : 0 < w.toInt) :
    w &&& (w - 1) = 0 ↔ ∃ k : Nat, w.toInt = Int.pow 2 k := by
  have hnat := Int64.toBitVec_toNat_of_pos hw
  -- subtracting one from a positive word does not wrap
  have hsub : (w - 1).toBitVec.toNat = w.toBitVec.toNat - 1 := by
    rw [Int64.toBitVec_sub, BitVec.toNat_sub_of_le]
    · rfl
    · rw [BitVec.le_def]
      show 1 % 2 ^ 64 ≤ _
      omega
  rw [← Int64.toBitVec_inj, Int64.toBitVec_and, ← BitVec.toNat_inj, BitVec.toNat_and, hsub,
    show (0 : Int64).toBitVec.toNat = 0 from rfl,
    Nat.and_sub_one_eq_zero_iff_isPowerOfTwo (by omega), Nat.isPowerOfTwo]
  constructor
  · rintro ⟨k, hk⟩
    refine ⟨k, ?_⟩
    rw [← Int.toNat_of_nonneg (Int.le_of_lt hw), ← hnat, hk]
    exact Int.natCast_pow 2 k
  · rintro ⟨k, hk⟩
    refine ⟨k, ?_⟩
    rw [hnat, hk]
    exact (congrArg Int.toNat (Int.natCast_pow 2 k).symm).trans (Int.toNat_natCast _)

/-- The word of an integer of the 64-bit range holds that integer. -/
theorem Int64.toInt_ofInt_of_range {n : Int} (hlo : -Int.pow 2 63 ≤ n) (hhi : n < Int.pow 2 63) :
    (Int64.ofInt n).toInt = n :=
  Int64.toInt_ofInt_of_le hlo hhi

/-- The word test of a size, read on its value: the size is its word's value, the word is
positive, and clearing its lowest set bit leaves nothing, exactly when the size is a power of two
that a 64-bit word holds. -/
theorem word_test_iff {size : Int} :
    ((Int64.ofInt size).toInt = size ∧ ¬Int64.ofInt size ≤ 0 ∧
        Int64.ofInt size &&& (Int64.ofInt size - 1) = 0) ↔
      (∃ k : Nat, size = Int.pow 2 k) ∧ size < Int.pow 2 63 := by
  rw [Int64.le_iff_toInt_le, Int64.toInt_zero]
  constructor
  · rintro ⟨hword, hpos, hbits⟩
    obtain ⟨k, hk⟩ := (Int64.and_sub_one_eq_zero_iff (by omega)).mp hbits
    refine ⟨⟨k, hword ▸ hk⟩, ?_⟩
    rw [← hword]
    exact Int64.toInt_lt _
  · rintro ⟨⟨k, rfl⟩, hlt⟩
    have hpos : 0 < Int.pow 2 k := by
      rw [show Int.pow 2 k = ((Nat.pow 2 k : Nat) : Int) from (Int.natCast_pow 2 k).symm]
      exact Int.ofNat_lt.mpr (Nat.two_pow_pos k)
    have hword : (Int64.ofInt (Int.pow 2 k)).toInt = Int.pow 2 k :=
      Int64.toInt_ofInt_of_range (by omega) hlt
    refine ⟨hword, by omega, ?_⟩
    exact (Int64.and_sub_one_eq_zero_iff (by omega)).mpr ⟨k, hword⟩

/-- The word test fails exactly when the size is no power of two that a 64-bit word holds. -/
theorem word_test_fails_iff {size : Int} :
    ((Int64.ofInt size).toInt ≠ size ∨ Int64.ofInt size ≤ 0 ∨
        Int64.ofInt size &&& (Int64.ofInt size - 1) ≠ 0) ↔
      ¬((∃ k : Nat, size = Int.pow 2 k) ∧ size < Int.pow 2 63) := by
  rw [← word_test_iff]
  constructor
  · rintro (h | h | h) ⟨h₁, h₂, h₃⟩
    · exact h h₁
    · exact h₂ h
    · exact h h₃
  · intro h
    by_cases h₁ : (Int64.ofInt size).toInt = size
    · by_cases h₂ : Int64.ofInt size ≤ 0
      · exact .inr (.inl h₂)
      · exact .inr (.inr fun h₃ => h ⟨h₁, h₂, h₃⟩)
    · exact .inl h₁

/-- A size that is no power of two a 64-bit word holds is refused as not a power of two. -/
theorem validateSize_of_not_pow {size : Int}
    (h : ¬((∃ k : Nat, size = Int.pow 2 k) ∧ size < Int.pow 2 63)) :
    validateSize size = .error (.notPowerOfTwo size) := by
  unfold validateSize
  rw [if_pos (word_test_fails_iff.mpr h)]

/-- A power of two that a 64-bit word holds is refused exactly when it is below the minimum. -/
theorem validateSize_of_pow {size : Int}
    (h : (∃ k : Nat, size = Int.pow 2 k) ∧ size < Int.pow 2 63) :
    validateSize size = if size < minSize then .error (.belowMinimum size) else .ok () := by
  unfold validateSize
  rw [if_neg fun hbad => word_test_fails_iff.mp hbad h]

/-- A table size is valid exactly when it is a power of two of at least 8 that a 64-bit word
holds. -/
theorem validateSize_eq_ok_iff {size : Int} :
    validateSize size = .ok () ↔
      (∃ j : Nat, size = Int.pow 2 j) ∧ 8 ≤ size ∧ size < Int.pow 2 63 := by
  by_cases hpow : (∃ j : Nat, size = Int.pow 2 j) ∧ size < Int.pow 2 63
  · rw [validateSize_of_pow hpow]
    by_cases hmin : size < minSize
    · rw [if_pos hmin]
      simp only [minSize] at hmin
      exact ⟨fun h => (by cases h), fun h => (by omega)⟩
    · rw [if_neg hmin]
      exact ⟨fun _ => ⟨hpow.1, by simpa [minSize] using hmin, hpow.2⟩, fun _ => rfl⟩
  · rw [validateSize_of_not_pow hpow]
    exact ⟨fun h => (by cases h), fun ⟨h₁, _, h₃⟩ => absurd ⟨h₁, h₃⟩ hpow⟩

/-- The index width of a valid size is its base-two logarithm less three. -/
theorem indexWidth_eq (size : Int) :
    indexWidth size = (validateSize size).map fun _ => (Nat.log2 size.toNat : Int) - 3 := by
  unfold indexWidth
  cases hv : validateSize size with
  | error e => rfl
  | ok u =>
    obtain ⟨⟨j, hj⟩, hmin, hlt⟩ := validateSize_eq_ok_iff.mp hv
    have hword : (Int64.ofInt size).toInt = size := Int64.toInt_ofInt_of_range (by omega) hlt
    -- the unsigned reading of a positive word is its value
    have hnat : (Int64.ofInt size).toUInt64.toNat = size.toNat := by
      rw [UInt64.toNat, Int64.toBitVec_toUInt64, Int64.toBitVec_toNat_of_pos (by omega), hword]
    have hne : (Int64.ofInt size).toUInt64 ≠ 0 := by
      intro h0
      rw [h0] at hnat
      have : (0 : UInt64).toNat = 0 := rfl
      omega
    simp only [Except.map, bitLength, hne, if_false, hnat]
    congr 2
    omega

/-- A predictor specification: a family name, a table size and an index width. -/
structure Spec where
  /-- The family name. -/
  family : String
  /-- The table size; zero for a family without a table. -/
  size : Int := 0
  /-- The index width; zero for a family without a table. -/
  width : Int := 0
  deriving Repr, DecidableEq, Inhabited

/-- Why a specification cannot be built. -/
inductive SpecError where
  /-- The text names no supported family. -/
  | unsupported (name : String)
  /-- A size was given to a family without a table. -/
  | takesNoSize (family : String) (size : Int)
  /-- The size of a table-backed family is refused. -/
  | badSize (family : String) (e : SizeError)
  deriving Repr, DecidableEq

namespace SpecError

/-- The text of a specification error. -/
def message : SpecError → String
  | unsupported n => (Family.Unsupported.toFailure ⟨n⟩).message
  | takesNoSize f n =>
    "invalid predictor table size: family " ++ f ++ " takes no size, got " ++ toString n
  | badSize f e => "family " ++ f ++ ": " ++ e.message

/-- The classes of a specification error. -/
def classes : SpecError → List ErrorClass
  | unsupported _ => [.unsupportedFamily]
  | takesNoSize _ _ => [.invalidSize]
  | badSize _ _ => [.invalidSize]

/-- The view of a specification error. -/
def toFailure (e : SpecError) : Failure :=
  { message := e.message, classes := e.classes }

end SpecError

namespace Spec

/-- A validated specification: the family must be supported, a family without a table takes
size zero, and a table-backed family takes a valid size, whose index width is derived. -/
def make (family : String) (size : Int) : Except SpecError Spec :=
  match Family.ofName? family with
  | none => .error (.unsupported family)
  | some f =>
    if !f.sized then
      if size ≠ 0 then .error (.takesNoSize family size) else .ok { family }
    else
      match indexWidth size with
      | .error e => .error (.badSize family e)
      | .ok w => .ok { family, size, width := w }

/-- Whether the specification's family is table-backed. -/
def hasSize (s : Spec) : Bool := Family.nameSized s.family

/-- The simulator options selecting the predictor: the selector, then the table options of a
table-backed family (bimodal table, two-level table, chooser table as the family needs). -/
def flags (s : Spec) : List String :=
  let head := ["-bpred", Family.nameSelector s.family]
  match Family.ofName? s.family with
  | none => head
  | some f =>
    if !f.sized then head
    else
      let size := toString s.size
      let twoLevel := ["-bpred:2lev", "1", size, toString s.width, toString f.xorFlag]
      match f with
      | .bimod => head ++ ["-bpred:bimod", size]
      | .gshare | .gselect => head ++ twoLevel
      | _ => head ++ ["-bpred:bimod", size] ++ twoLevel ++ ["-bpred:comb", size]

/-- The label of a specification: the family name, then for a table-backed family the size, and
for a family with history the width, joined by underscores. -/
def label (s : Spec) : String :=
  let parts :=
    if Family.nameSized s.family then
      if Family.nameUsesHistory s.family then [s.family, toString s.size, toString s.width]
      else [s.family, toString s.size]
    else [s.family]
  "_".intercalate parts

end Spec

end PredictorSweep
