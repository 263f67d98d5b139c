/-!
# Durations

A duration is a signed count of nanoseconds that fits in 64 bits. It is written with units
`h`, `m`, `s` from the largest present unit down, the seconds carrying a fraction without trailing
zeros (`1h30m0s`, `2.5s`); below a second it is written in `ms`, `µs` or `ns` with a fraction
(`1.5ms`), and zero is `0s`.

A duration text is an optional sign and one or more decimal numbers, each with an optional
fraction and a unit (`ns`, `us`, `µs`, `μs`, `ms`, `s`, `m`, `h`); the text `0` alone is zero.
A fraction contributes its value scaled to the unit in double precision, truncated to whole
nanoseconds. A total beyond the 64-bit range is refused.

Main definitions:

- `Duration`, `Duration.render`;
- `DurationError`, `fractionPart`, `readTerm`, `readTerms`, `splitSign`, `Duration.parse`.
-/

namespace PredictorSweep

/-- A signed count of nanoseconds. -/
structure Duration where
  /-- The nanoseconds. -/
  nanos : Int
  deriving DecidableEq, Repr, Inhabited

namespace Duration

/-- Nanoseconds per second. -/
def second : Nat := 1000000000

/-- The duration of so many seconds. -/
def ofSeconds (n : Nat) : Duration := ⟨n * second⟩

/-- The fraction `v / 10^prec` written `.ddd` without trailing zeros (nothing when zero), and the
whole part. -/
def fraction (v prec : Nat) : String × Nat :=
  let digits := (List.range prec).map fun i => v / Nat.pow 10 i % 10
  -- digits from the least significant; drop the zeros at the end of the written fraction
  let kept := (digits.dropWhile (· = 0)).reverse
  let text := if kept.isEmpty then "" else "." ++ String.ofList (kept.map fun d => Char.ofNat (48 + d))
  (text, v / Nat.pow 10 prec)

/-- The written form of a duration. -/
def render (d : Duration) : String :=
  let u := d.nanos.natAbs
  let sign := if d.nanos < 0 then "-" else ""
  if u = 0 then "0s"
  else if u < second then
    let (unit, prec) :=
      if u < 1000 then ("ns", 0) else if u < 1000000 then ("µs", 3) else ("ms", 6)
    let (frac, whole) := fraction u prec
    sign ++ toString whole ++ frac ++ unit
  else
    let (frac, secs) := fraction u 9
    let s := toString (secs % 60) ++ frac ++ "s"
    let mins := secs / 60
    if mins = 0 then sign ++ s
    else
      let m := toString (mins % 60) ++ "m" ++ s
      let hours := mins / 60
      if hours = 0 then sign ++ m else sign ++ toString hours ++ "h" ++ m

end Duration

/-- Why a duration text is refused. -/
inductive DurationError where
  /-- The text is not a duration, or its value is out of range. -/
  | invalid (text : String)
  /-- A number has no unit. -/
  | missingUnit (text : String)
  /-- A unit is not known. -/
  | unknownUnit (unit text : String)
  deriving DecidableEq, Repr

/-- A text quoted for a duration message: ASCII printable characters as they are (a quote or
backslash escaped), every other byte as `\xhh`. -/
def durationQuote (s : String) : String :=
  let hex (n : Nat) : List Char :=
    ['\\', 'x', Nat.digitChar (n / 16), Nat.digitChar (n % 16)]
  let one (c : Char) : List Char :=
    if c.toNat ≥ 0x80 ∨ c.toNat < 0x20 then (String.singleton c).toUTF8.toList.flatMap (hex ·.toNat)
    else if c = '"' ∨ c = '\\' then ['\\', c]
    else [c]
  String.ofList ('"' :: (s.toList.flatMap one ++ ['"']))

/-- The text of a duration error. -/
def DurationError.message : DurationError → String
  | .invalid t => "time: invalid duration " ++ durationQuote t
  | .missingUnit t => "time: missing unit in duration " ++ durationQuote t
  | .unknownUnit u t => "time: unknown unit " ++ durationQuote u ++ " in duration " ++ durationQuote t

/-- The nanoseconds of a unit name. -/
def unitNanos : String → Option Nat
  | "ns" => some 1
  | "us" | "µs" | "μs" => some 1000
  | "ms" => some 1000000
  | "s" => some 1000000000
  | "m" => some 60000000000
  | "h" => some 3600000000000
  | _ => none

/-- The largest magnitude a duration may reach while it is summed. -/
def durationLimit : Nat := Nat.pow 2 63

/-- One more digit of a whole number; none once the value would pass the limit. -/
def wholeStep (acc : Option Nat) (c : Char) : Option Nat :=
  acc.bind fun x =>
    if x > durationLimit / 10 then none
    else
      let y := x * 10 + (c.toNat - 48)
      if y > durationLimit then none else some y

/-- Leading decimal digits and the rest; none when the value passes the limit. -/
def leadingInt (cs : List Char) : Option (Nat × List Char) :=
  let ds := cs.takeWhile fun c => '0' ≤ c ∧ c ≤ '9'
  (ds.foldl wholeStep (some 0)).map fun v => (v, cs.drop ds.length)

/-- One more digit of a fraction: the value and its scale grow while the value stays in range;
once it would not, the digits left are skipped. -/
def fractionStep (acc : Nat × Float × Bool) (c : Char) : Nat × Float × Bool :=
  let (x, scale, full) := acc
  if full then acc
  else if x > (durationLimit - 1) / 10 then (x, scale, true)
  else
    let y := x * 10 + (c.toNat - 48)
    if y > durationLimit then (x, scale, true) else (y, scale * 10, false)

/-- Leading fraction digits: the value kept while it stays in range, its scale, and the rest. -/
def leadingFraction (cs : List Char) : Nat × Float × List Char :=
  let ds := cs.takeWhile fun c => '0' ≤ c ∧ c ≤ '9'
  let (x, scale, _) := ds.foldl fractionStep (0, 1, false)
  (x, scale, cs.drop ds.length)

/-- The fraction after a whole number when the text goes on with a point: its value, its scale,
whether it had digits, and the rest; nothing when there is no point. -/
def fractionPart : List Char → Nat × Float × Bool × List Char
  | '.' :: r =>
    let (f, scale, r') := leadingFraction r
    (f, scale, r'.length ≠ r.length, r')
  | r => (0, 1, false, r)

/-- Reads the number and unit at the head `c :: cs` of a duration text: the nanoseconds they
stand for and the rest of the text. -/
def readTerm (orig : String) (c : Char) (cs : List Char) :
    Except DurationError (Nat × List Char) :=
  if !(c = '.' ∨ ('0' ≤ c ∧ c ≤ '9')) then .error (.invalid orig)
  else
    match leadingInt (c :: cs) with
    | none => .error (.invalid orig)
    | some (v, rest) =>
      let pre := rest.length ≠ (c :: cs).length
      let (f, scale, post, rest) := fractionPart rest
      if !pre ∧ !post then .error (.invalid orig)
      else
        let u := rest.takeWhile fun c => !(c = '.' ∨ ('0' ≤ c ∧ c ≤ '9'))
        let rest := rest.drop u.length
        if u.isEmpty then .error (.missingUnit orig)
        else
          match unitNanos (String.ofList u) with
          | none => .error (.unknownUnit (String.ofList u) orig)
          | some unit =>
            if v > durationLimit / unit then .error (.invalid orig)
            else
              let v := v * unit
              let v := if f > 0 then
                  v + (f.toFloat * (unit.toFloat / scale)).toUInt64.toNat else v
              if v > durationLimit then .error (.invalid orig) else .ok (v, rest)

/-- Reads the numbers and units of a duration text after its sign, adding to `total`. -/
def readTerms (orig : String) (total : Nat) : Nat → List Char → Except DurationError Nat
  | 0, _ => .ok total
  | _, [] => .ok total
  | fuel + 1, c :: cs =>
    match readTerm orig c cs with
    | .error e => .error e
    | .ok (v, rest) =>
      let total := total + v
      if total > durationLimit then .error (.invalid orig)
      else readTerms orig total fuel rest

/-- The sign of a duration text, true when negative, and the text after it. -/
def splitSign : List Char → Bool × List Char
  | '-' :: r => (true, r)
  | '+' :: r => (false, r)
  | r => (false, r)

/-- The duration a text denotes. -/
def Duration.parse (s : String) : Except DurationError Duration :=
  let (neg, body) := splitSign s.toList
  if body = ['0'] then .ok ⟨0⟩
  else if body.isEmpty then .error (.invalid s)
  else
    match readTerms s 0 (body.length + 1) body with
    | .error e => .error e
    | .ok d =>
      if neg then .ok ⟨-(d : Int)⟩
      else if d > durationLimit - 1 then .error (.invalid s)
      else .ok ⟨d⟩

end PredictorSweep
