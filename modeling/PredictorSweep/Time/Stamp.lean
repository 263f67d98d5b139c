/-!
# Points in time

A point in time is a count of nanoseconds from the start of 1970 in universal time. It is read
from the date-and-time text of RFC 3339, `YYYY-MM-DDTHH:MM:SS`, an optional fraction of a second
(digits past the ninth are dropped), and `Z` or an offset `+HH:MM` / `-HH:MM`; the offset is
taken off to reach universal time. It is written in universal time the same way, with the
fraction's trailing zeros dropped (and no fraction when it is zero) and `Z`.

Dates are converted to and from day counts with the proleptic Gregorian calendar, counting in
eras of 400 years.

Main definitions:

- `Stamp`, `Stamp.parse`, `Stamp.render`;
- `Stamp.zero`: the first instant of year 1, which stands for a time not given.
-/

namespace PredictorSweep

/-- A point in time: nanoseconds from 1970-01-01T00:00:00Z. -/
structure Stamp where
  /-- The nanoseconds from the start of 1970. -/
  nanos : Int
  deriving DecidableEq, Repr, Inhabited

namespace Stamp

/-- Nanoseconds per second. -/
def perSecond : Int := 1000000000

/-- Whether a year is a leap year. -/
def isLeap (y : Int) : Bool := (y % 4 == 0 && y % 100 != 0) || y % 400 == 0

/-- The days of a month of a year. -/
def daysIn (y : Int) (m : Nat) : Nat :=
  match m with
  | 2 => if isLeap y then 29 else 28
  | 4 | 6 | 9 | 11 => 30
  | _ => 31

/-- The days from 1970-01-01 to a date. -/
def daysFromCivil (y : Int) (m d : Nat) : Int :=
  let y := if m ≤ 2 then y - 1 else y
  let era := Int.fdiv y 400
  let yoe := y - era * 400
  let mp : Int := if m > 2 then (m : Int) - 3 else (m : Int) + 9
  let doy := Int.fdiv (153 * mp + 2) 5 + (d : Int) - 1
  let doe := yoe * 365 + Int.fdiv yoe 4 - Int.fdiv yoe 100 + doy
  era * 146097 + doe - 719468

/-- The date of a day counted from 1970-01-01: year, month and day. -/
def civilFromDays (z : Int) : Int × Nat × Nat :=
  let z := z + 719468
  let era := Int.fdiv z 146097
  let doe := z - era * 146097
  let yoe := Int.fdiv (doe - Int.fdiv doe 1460 + Int.fdiv doe 36524 - Int.fdiv doe 146096) 365
  let y := yoe + era * 400
  let doy := doe - (365 * yoe + Int.fdiv yoe 4 - Int.fdiv yoe 100)
  let mp := Int.fdiv (5 * doy + 2) 153
  let d := doy - Int.fdiv (153 * mp + 2) 5 + 1
  let m := if mp < 10 then mp + 3 else mp - 9
  ((if m ≤ 2 then y + 1 else y), m.toNat, d.toNat)

/-- The first instant of year 1, which stands for a time not given. -/
def zero : Stamp := ⟨daysFromCivil 1 1 1 * 86400 * perSecond⟩

/-- The number a run of ASCII digits spells, if every character is one. -/
def digitsValue (cs : List Char) : Option Nat :=
  if cs.all Char.isDigit && !cs.isEmpty then
    some (cs.foldl (fun n c => n * 10 + (c.toNat - '0'.toNat)) 0)
  else none

/-- The number of a fixed field of digits, if it lies in `[lo, hi]`. -/
def field (cs : List Char) (lo hi : Nat) : Option Nat := do
  let n ← digitsValue cs
  if lo ≤ n && n ≤ hi then some n else none

/-- Reads an RFC 3339 date and time. -/
def parse (s : String) : Option Stamp := do
  let cs := s.toList
  if cs.length < 19 then none
  let part (i n : Nat) := (cs.drop i).take n
  let year ← field (part 0 4) 0 9999
  let month ← field (part 5 2) 1 12
  let day ← field (part 8 2) 1 (daysIn year month)
  let hour ← field (part 11 2) 0 23
  let minute ← field (part 14 2) 0 59
  let second ← field (part 17 2) 0 59
  if !(cs[4]? == some '-' && cs[7]? == some '-' && cs[10]? == some 'T' && cs[13]? == some ':' &&
      cs[16]? == some ':') then none
  let rest := cs.drop 19
  let (frac, rest) := match rest with
    | '.' :: d :: more =>
      if d.isDigit then
        let ds := (d :: more).takeWhile Char.isDigit
        let nine := (ds.take 9 ++ List.replicate 9 '0').take 9
        ((digitsValue nine).getD 0, (d :: more).drop ds.length)
      else (0, rest)
    | _ => (0, rest)
  let offset ← match rest with
    | ['Z'] => some (0 : Int)
    | [sign, h1, h2, ':', m1, m2] =>
      let hh ← field [h1, h2] 0 23
      let mm ← field [m1, m2] 0 59
      if sign == '+' then some ((hh * 60 + mm) * 60 : Int)
      else if sign == '-' then some (-((hh * 60 + mm) * 60 : Int))
      else none
    | _ => none
  let secs := daysFromCivil year month day * 86400 + (hour * 3600 + minute * 60 + second : Nat)
    - offset
  some ⟨secs * perSecond + frac⟩

/-- A number written with at least `width` digits, zeros in front. -/
def padded (width : Nat) (n : Nat) : String :=
  let s := toString n
  String.ofList (List.replicate (width - s.length) '0') ++ s

/-- The stamp written in universal time with the fraction's trailing zeros dropped. -/
def render (t : Stamp) : String :=
  let secs := Int.fdiv t.nanos perSecond
  let frac := (t.nanos - secs * perSecond).toNat
  let days := Int.fdiv secs 86400
  let inDay := (secs - days * 86400).toNat
  let (y, m, d) := civilFromDays days
  let year := if y < 0 then "-" ++ padded 4 y.natAbs else padded 4 y.toNat
  let fracText :=
    if frac == 0 then ""
    else "." ++ String.ofList ((padded 9 frac).toList.reverse.dropWhile (· == '0')).reverse
  year ++ "-" ++ padded 2 m ++ "-" ++ padded 2 d ++ "T" ++ padded 2 (inDay / 3600) ++ ":" ++
    padded 2 (inDay / 60 % 60) ++ ":" ++ padded 2 (inDay % 60) ++ fracText ++ "Z"

end Stamp

end PredictorSweep
