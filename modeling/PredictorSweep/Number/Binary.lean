/-!
# Binary doubles

A double is a sign, an 11-bit exponent field and a 52-bit fraction. A finite double is
`m · 2^e` with `m < 2^53`: for a normal double `m` carries the hidden bit and `e` is the field
less 1075; for a subnormal one the field is zero and `e = -1074`. The all-ones field holds the
infinities (fraction zero) and the NaNs.

A positive ratio is rounded to the nearest double, a tie going to the even significand; a ratio
at or beyond `2^1024` after rounding has no double.

Main definitions:

- `Shape`, `shape`: a double as NaN, an infinity, or a signed `m · 2^e`;
- `roundRatio`: the double nearest to a ratio of naturals, or none when it overflows.
-/

namespace PredictorSweep.Number

/-- What a double is: NaN, an infinity, or a finite value `±m · 2^e`. -/
inductive Shape where
  /-- Not a number. -/
  | nan
  /-- An infinity of the given sign. -/
  | infinite (negative : Bool)
  /-- The finite value `±m · 2^e`, `m < 2^53`; zero has `m = 0`. -/
  | finite (negative : Bool) (m : Nat) (e : Int)
  deriving Repr, DecidableEq

/-- The shape of a double, read off its bits. -/
def shape (x : Float) : Shape :=
  let bits : Nat := x.toBits.toNat
  let negative := bits / Nat.pow 2 63 % 2 == 1
  let field : Nat := bits / Nat.pow 2 52 % Nat.pow 2 11
  let frac : Nat := bits % Nat.pow 2 52
  if field = Nat.pow 2 11 - 1 then
    if frac = 0 then .infinite negative else .nan
  else if field = 0 then .finite negative frac (-1074)
  else .finite negative (frac + Nat.pow 2 52) ((field : Int) - 1075)

/-- The double with the given sign, exponent field and fraction. -/
def assemble (negative : Bool) (field frac : Nat) : Float :=
  Float.ofBits (UInt64.ofNat ((if negative then Nat.pow 2 63 else 0) + field * Nat.pow 2 52 + frac))

/-- The quotient `a / b` rounded to the nearest natural, a tie going to the even one. -/
def divRoundEven (a b : Nat) : Nat :=
  let q := a / b
  let r := a % b
  if 2 * r > b ∨ (2 * r = b ∧ q % 2 = 1) then q + 1 else q

/-- The value `num · 2^s / den` rounded to the nearest natural, a tie going to the even one. -/
def scaledRound (num den : Nat) (s : Int) : Nat :=
  if 0 ≤ s then divRoundEven (num * Nat.pow 2 s.toNat) den
  else divRoundEven num (den * Nat.pow 2 (-s).toNat)

/-- The exponent `b` with `2^b ≤ num / den < 2^(b+1)`, for positive `num` and `den`. -/
def binaryExponent (num den : Nat) : Int :=
  let l : Int := (Nat.log2 num : Int) - Nat.log2 den
  let atLeast : Bool :=
    if 0 ≤ l then decide (den * Nat.pow 2 l.toNat ≤ num) else decide (den ≤ num * Nat.pow 2 (-l).toNat)
  if atLeast then l else l - 1

/-- The double nearest to `±num / den` (`den > 0`), ties to the even significand; none when the
magnitude rounds to `2^1024` or beyond. -/
def roundRatio (negative : Bool) (num den : Nat) : Option Float :=
  if num = 0 ∨ den = 0 then some (assemble negative 0 0)
  else
    let b := binaryExponent num den
    if b > 1023 then none
    else
      -- the unit of the last place: 2^(b-52) for normal values, 2^-1074 below them
      let e : Int := if b < -1022 then -1074 else b - 52
      let q := scaledRound num den (-e)
      let (q, e) := if q = Nat.pow 2 53 then (Nat.pow 2 52, e + 1) else (q, e)
      if e + 52 > 1023 then none
      else if q < Nat.pow 2 52 then some (assemble negative 0 q)
      else some (assemble negative (e + 1075).toNat (q - Nat.pow 2 52))

end PredictorSweep.Number
