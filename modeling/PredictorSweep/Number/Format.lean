import PredictorSweep.Number.Shortest
/-!
# Writing doubles

Doubles are written from their shortest digits in three notations: positional (`123.45`),
scientific (`1.2345e+02`, the exponent signed and of at least two digits), and general, which is
scientific when the decimal exponent is below `-4` or at least `6` and positional otherwise.
Data documents write positional notation for magnitudes from `1e-6` up to `1e21` and
scientific notation outside, with a one-digit negative exponent left unpadded (`1e-7`).
A fixed number of places rounds the exact value to nearest, a tie going to the even digit.

Main definitions:

- `Digits.positional`, `Digits.scientific`;
- `general`, `dataNumber`, `fixed`: the texts of a double.
-/

namespace PredictorSweep.Number

/-- The text of a digit. -/
def digitText (d : Nat) : Char := Char.ofNat ('0'.toNat + d)

namespace Digits

/-- The digit at position `i` (from zero), zero past the end. -/
def digitAt (d : Digits) (i : Int) : Nat :=
  if i < 0 then 0 else d.digits.getD i.toNat 0

/-- Positional notation with `prec` places after the point. -/
def positional (d : Digits) (prec : Nat) : String :=
  let intPart : List Char :=
    if d.point ≤ 0 then ['0']
    else (List.range d.point.toNat).map fun (i : Nat) => digitText (d.digitAt i)
  let frac : List Char := (List.range prec).map fun (i : Nat) => digitText (d.digitAt (d.point + i))
  String.ofList (if prec = 0 then intPart else intPart ++ '.' :: frac)

/-- The exponent part: `e`, a sign, and at least two digits. -/
def exponentText (x : Int) : String :=
  let mag := toString x.natAbs
  "e" ++ (if x < 0 then "-" else "+") ++ (if mag.length < 2 then "0" ++ mag else mag)

/-- Scientific notation with `prec` digits after the point. -/
def scientific (d : Digits) (prec : Nat) : String :=
  let first := digitText (d.digitAt 0)
  let rest := (List.range prec).map fun (i : Nat) => digitText (d.digitAt (i + 1))
  let x : Int := if d.digits.isEmpty then 0 else d.point - 1
  String.ofList (if prec = 0 then [first] else first :: '.' :: rest) ++ exponentText x

/-- Places after the point that shortest positional notation needs. -/
def positionalPlaces (d : Digits) : Nat := (d.digits.length - d.point).toNat

end Digits

/-- The shortest digits of a finite double's magnitude; zero has no digits. -/
def digitsOf (m : Nat) (e : Int) : Digits :=
  if m = 0 then ⟨[], 0⟩ else shortest m e

/-- The texts of the non-finite doubles: NaN, and infinities with their sign. -/
def nonFiniteText : Shape → String
  | .infinite true => "-Inf"
  | .infinite false => "+Inf"
  | _ => "NaN"

/-- General notation of the shortest digits: scientific when the decimal exponent is below `-4`
or at least `6`, positional otherwise. -/
def general (x : Float) : String :=
  match shape x with
  | .finite neg m e =>
    let d := digitsOf m e
    let sign := if neg then "-" else ""
    let ex := d.point - 1
    if ex < -4 ∨ ex ≥ 6 then sign ++ d.scientific (d.digits.length - 1)
    else sign ++ d.positional d.positionalPlaces
  | s => nonFiniteText s

/-- The double nearest to `10^-6`, the least magnitude written positionally in data documents. -/
def dataSmallLimit : Float := (roundRatio false 1 1000000).getD 0

/-- The number text of a data document: positional from `1e-6` up to `1e21`, scientific outside
with a one-digit negative exponent unpadded. Non-finite doubles have the texts of
`nonFiniteText`. -/
def dataNumber (x : Float) : String :=
  match shape x with
  | .finite neg m e =>
    let d := digitsOf m e
    let sign := if neg then "-" else ""
    let small := m ≠ 0 ∧ x.abs < dataSmallLimit
    let large := (Ratio.ofDecimal 1 21).le (Ratio.ofBinary m e)
    if small ∨ large then
      let t := d.scientific (d.digits.length - 1)
      -- `e-07` is written `e-7`
      let cs := t.toList
      let n := cs.length
      if n ≥ 4 ∧ cs.getD (n - 4) ' ' = 'e' ∧ cs.getD (n - 3) ' ' = '-' ∧ cs.getD (n - 2) ' ' = '0'
      then sign ++ String.ofList (cs.take (n - 2) ++ [cs.getD (n - 1) '0'])
      else sign ++ t
    else sign ++ d.positional d.positionalPlaces
  | s => nonFiniteText s

/-- Positional notation with exactly `places` places, the exact value rounded to nearest and a
tie to the even digit; a negative value keeps its sign even when it rounds to zero. -/
def fixed (x : Float) (places : Nat) : String :=
  match shape x with
  | .finite neg m e =>
    let r := Ratio.ofBinary m e
    let n := divRoundEven (r.num * Nat.pow 10 places) r.den
    let ds := (Nat.toDigits 10 n)
    let ds := List.replicate (places + 1 - ds.length) '0' ++ ds
    let cut := ds.length - places
    let body := if places = 0 then ds else ds.take cut ++ '.' :: ds.drop cut
    (if neg then "-" else "") ++ String.ofList body
  | s => nonFiniteText s

end PredictorSweep.Number
