import PredictorSweep.Number.Binary
/-!
# Shortest decimal digits

Every positive finite double owns the interval of reals that round to it: halfway to each
neighbouring double, the ends included when its significand is even. Its shortest digits are the
fewest significant decimal digits `d₁…dₙ` whose value lies in that interval; among the at most
two such values of `n` digits next to the double, the nearer is taken, and of two equally near
the one with the even last digit.

The digits are given in the scientific convention `0.d₁…dₙ × 10^point`, without trailing zeros.

Main definitions:

- `Digits`: significant digits and the position of the decimal point;
- `shortest`: the shortest digits of `m · 2^e`, for `m > 0`.
-/

namespace PredictorSweep.Number

/-- The value `0.d₁…dₙ × 10^point`: digits, most significant first, and the point position. -/
structure Digits where
  /-- The significant digits, most significant first. -/
  digits : List Nat
  /-- The power of ten by which `0.d₁…dₙ` is scaled. -/
  point : Int
  deriving Repr, DecidableEq

/-- A non-negative rational as numerator and denominator. -/
structure Ratio where
  /-- The numerator. -/
  num : Nat
  /-- The denominator, positive. -/
  den : Nat
  deriving Repr

namespace Ratio

/-- Whether `a ≤ b`, by cross multiplication. -/
def le (a b : Ratio) : Bool := a.num * b.den ≤ b.num * a.den

/-- Whether `a < b`, by cross multiplication. -/
def lt (a b : Ratio) : Bool := a.num * b.den < b.num * a.den

/-- Compares `|a - b|` with `|c - b|`: negative, zero or positive as the first is smaller, equal
or larger. -/
def distCompare (a b c : Ratio) : Int :=
  let d1 : Int := (a.num * b.den : Int) - (b.num * a.den : Int)
  let d2 : Int := (c.num * b.den : Int) - (b.num * c.den : Int)
  -- compare |d1| / (a.den b.den) with |d2| / (c.den b.den)
  (d1.natAbs * c.den : Int) - (d2.natAbs * a.den : Int)

/-- The ratio `n · 2^e`. -/
def ofBinary (n : Nat) (e : Int) : Ratio :=
  if 0 ≤ e then ⟨n * Nat.pow 2 e.toNat, 1⟩ else ⟨n, Nat.pow 2 (-e).toNat⟩

/-- The ratio `n · 10^k`. -/
def ofDecimal (n : Nat) (k : Int) : Ratio :=
  if 0 ≤ k then ⟨n * Nat.pow 10 k.toNat, 1⟩ else ⟨n, Nat.pow 10 (-k).toNat⟩

/-- The floor `⌊r · 10^-k⌋`. -/
def floorScaled (r : Ratio) (k : Int) : Nat :=
  if 0 ≤ k then r.num / (r.den * Nat.pow 10 k.toNat) else r.num * Nat.pow 10 (-k).toNat / r.den

end Ratio

/-- The number of decimal digits of a positive natural. -/
def decimalLength (n : Nat) : Nat := (Nat.toDigits 10 n).length

/-- The decimal exponent `p` with `10^p ≤ r < 10^(p+1)`, for a positive ratio. -/
def decimalExponent (r : Ratio) : Int :=
  let guess : Int := (decimalLength r.num : Int) - decimalLength r.den
  -- the exponent is `guess` or `guess - 1`
  if (Ratio.ofDecimal 1 guess).le r then guess else guess - 1

/-- The digits of a natural with trailing zeros removed, and how many were removed. -/
def stripZeros (n : Nat) : List Nat × Nat :=
  let ds := (Nat.toDigits 10 n).map fun c => c.toNat - '0'.toNat
  let kept := (ds.reverse.dropWhile (· = 0)).reverse
  (kept, ds.length - kept.length)

/-- The candidate of `n` significant digits for `v`, if one lies in `[lo, hi]` (the ends included
when `closed`): of the two `n`-digit neighbours of `v`, the nearer one inside, ties to even. -/
def candidate (v lo hi : Ratio) (closed : Bool) (p : Int) (n : Nat) : Option (Nat × Int) :=
  let k := p - n + 1
  let down := v.floorScaled k
  let up := down + 1
  let inside (d : Nat) : Bool :=
    let x := Ratio.ofDecimal d k
    if closed then lo.le x && x.le hi else lo.lt x && x.lt hi
  match inside down, inside up with
  | true, true =>
    let c := Ratio.distCompare (Ratio.ofDecimal down k) v (Ratio.ofDecimal up k)
    if c < 0 ∨ (c = 0 ∧ down % 2 = 0) then some (down, k) else some (up, k)
  | true, false => some (down, k)
  | false, true => some (up, k)
  | false, false => none

/-- The first digit count from `n` up to `n + fuel` with a candidate. -/
def firstCandidate (v lo hi : Ratio) (closed : Bool) (p : Int) : Nat → Nat → Option (Nat × Int)
  | _, 0 => none
  | n, fuel + 1 =>
    match candidate v lo hi closed p n with
    | some c => some c
    | none => firstCandidate v lo hi closed p (n + 1) fuel

/-- The shortest digits of `m · 2^e` for `m > 0`. Seventeen digits always suffice; the fallback
of all digits is never reached. -/
def shortest (m : Nat) (e : Int) : Digits :=
  let v := Ratio.ofBinary (4 * m) (e - 2)
  -- the gap below is half as wide at the bottom of a binade
  let lowGap := if m = Nat.pow 2 52 ∧ e > -1074 then 1 else 2
  let lo := Ratio.ofBinary (4 * m - lowGap) (e - 2)
  let hi := Ratio.ofBinary (4 * m + 2) (e - 2)
  let p := decimalExponent v
  let (d, k) := (firstCandidate v lo hi (m % 2 = 0) p 1 17).getD (v.floorScaled (p - 16), p - 16)
  let (ds, z) := stripZeros d
  { digits := ds, point := k + z + ds.length }

end PredictorSweep.Number
