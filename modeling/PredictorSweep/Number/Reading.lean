import PredictorSweep.Number.Binary
/-!
# Reading numbers

The grammar of a floating-point text: an optional sign, then either a special value (`inf` or
`infinity`, signed or not, `nan` unsigned, any letter case), or a mantissa of decimal digits with
an optional point and an optional `e` exponent, or `0x` and a hexadecimal mantissa with a
mandatory binary `p` exponent. Underscores may separate digits, and may follow a base prefix;
they may not begin or end a run of digits. The whole text must be read. The value is rounded to
the nearest double; a value that rounds beyond the largest double is out of range, and one
below the smallest subnormal reads as zero.

A decimal integer text is an optional sign and decimal digits only; it must fit in 64 bits.

Main definitions:

- `ReadError`: a text outside the grammar, or a value out of range;
- `readFloat`: the double a text denotes;
- `readInt`: the 64-bit integer a text denotes.
-/

namespace PredictorSweep.Number

/-- Why a text does not denote a number. -/
inductive ReadError where
  /-- The text is outside the grammar. -/
  | malformed
  /-- The value is too large in magnitude. -/
  | range
  deriving Repr, DecidableEq

/-- The text that explains a read error. -/
def ReadError.message : ReadError → String
  | .malformed => "invalid syntax"
  | .range => "value out of range"

/-- A character folded to lower case, for ASCII letters. -/
def lowerAscii (c : Char) : Char :=
  if 'A' ≤ c ∧ c ≤ 'Z' then Char.ofNat (c.toNat + 32) else c

/-- The length of the longest common prefix of `cs` and `word`, ignoring ASCII case. -/
def prefixLengthFolded : List Char → List Char → Nat
  | c :: cs, w :: ws => if lowerAscii c = w then prefixLengthFolded cs ws + 1 else 0
  | _, _ => 0

/-- A special value at the start of the text and the number of characters it takes. -/
def special (cs : List Char) : Option (Float × Nat) :=
  let infinity (negative : Bool) (signLen : Nat) (rest : List Char) : Option (Float × Nat) :=
    let n := prefixLengthFolded rest "infinity".toList
    let n := if 3 < n ∧ n < 8 then 3 else n
    if n = 3 ∨ n = 8 then some (if negative then -1.0 / 0.0 else 1.0 / 0.0, signLen + n)
    else none
  match cs with
  | '+' :: rest => infinity false 1 rest
  | '-' :: rest => infinity true 1 rest
  | c :: _ =>
    if lowerAscii c = 'i' then infinity false 0 cs
    else if lowerAscii c = 'n' ∧ prefixLengthFolded cs "nan".toList = 3 then some (0.0 / 0.0, 3)
    else none
  | [] => none

/-- Whether a character is a digit of the base (10 or 16). -/
def isDigitOf (hex : Bool) (c : Char) : Bool :=
  ('0' ≤ c && c ≤ '9') || (hex && 'a' ≤ lowerAscii c && lowerAscii c ≤ 'f')

/-- The value of a digit character. -/
def digitValue (c : Char) : Nat :=
  if '0' ≤ c ∧ c ≤ '9' then c.toNat - '0'.toNat else lowerAscii c |>.toNat |> (· - 'a'.toNat + 10)

/-- Whether the underscores of a number text only separate digits (a base prefix counts as a
digit): none may follow a non-digit, and none may end the text or precede a non-digit. -/
def underscoresSeparate (cs : List Char) : Bool :=
  let cs := match cs with
    | '+' :: r | '-' :: r => r
    | r => r
  -- `prev` is the class of the last character: 0 for start, 1 for a digit, 2 for `_`, 3 other
  let (hex, rest, start) : Bool × List Char × Nat := match cs with
    | '0' :: b :: r =>
      if lowerAscii b = 'b' ∨ lowerAscii b = 'o' ∨ lowerAscii b = 'x' then
        (lowerAscii b = 'x', r, 1)
      else (false, cs, 0)
    | _ => (false, cs, 0)
  let step (acc : Option Nat) (c : Char) : Option Nat :=
    match acc with
    | none => none
    | some prev =>
      if isDigitOf hex c then some 1
      else if c = '_' then (if prev = 1 then some 2 else none)
      else if prev = 2 then none
      else some 3
  match rest.foldl step (some start) with
  | some prev => prev ≠ 2
  | none => false

/-- What the mantissa scan has read: digits, digits after the point, and state flags. -/
structure MantissaScan where
  /-- The digit values read, in order. -/
  digits : List Nat := []
  /-- Digits read after the point. -/
  afterPoint : Nat := 0
  /-- Whether a point was read. -/
  sawPoint : Bool := false
  /-- Whether an underscore was read. -/
  underscores : Bool := false
  /-- Characters taken. -/
  taken : Nat := 0

/-- Scans mantissa characters: digits of the base, underscores, and one point. -/
def scanMantissa (hex : Bool) : MantissaScan → List Char → MantissaScan × List Char
  | st, [] => (st, [])
  | st, c :: rest =>
    if c = '_' then scanMantissa hex { st with underscores := true, taken := st.taken + 1 } rest
    else if c = '.' then
      if st.sawPoint then (st, c :: rest)
      else scanMantissa hex { st with sawPoint := true, taken := st.taken + 1 } rest
    else if isDigitOf hex c then
      let afterPoint := if st.sawPoint then st.afterPoint + 1 else st.afterPoint
      scanMantissa hex
        { st with digits := st.digits ++ [digitValue c], afterPoint, taken := st.taken + 1 } rest
    else (st, c :: rest)

/-- Scans exponent digits and underscores; the value stops growing once it reaches 10000. -/
def scanExponent : Nat → Bool → Nat → List Char → Nat × Bool × Nat × List Char
  | e, us, n, c :: rest =>
    if '0' ≤ c ∧ c ≤ '9' then
      scanExponent (if e < 10000 then e * 10 + digitValue c else e) us (n + 1) rest
    else if c = '_' then scanExponent e true (n + 1) rest
    else (e, us, n, c :: rest)
  | e, us, n, [] => (e, us, n, [])

/-- A number in the grammar: its sign, base, digits, the power applying to them, and the count
of characters it takes. The power is of ten, or of two for a hexadecimal mantissa. -/
structure Literal where
  /-- Whether the sign is minus. -/
  negative : Bool
  /-- Whether the mantissa is hexadecimal. -/
  hex : Bool
  /-- The mantissa digits as one natural. -/
  mantissa : Nat
  /-- The power of the base (ten, or two for hexadecimal) scaling the mantissa. -/
  power : Int
  /-- Characters taken from the text. -/
  taken : Nat

/-- The longest number in the grammar at the start of a text, if any. -/
def scanLiteral (cs : List Char) : Option Literal :=
  let (negative, signLen, rest) : Bool × Nat × List Char := match cs with
    | '+' :: r => (false, 1, r)
    | '-' :: r => (true, 1, r)
    | r => (false, 0, r)
  let (hex, prefLen, rest) : Bool × Nat × List Char := match rest with
    | '0' :: x :: r@(_ :: _) => if lowerAscii x = 'x' then (true, 2, r) else (false, 0, rest)
    | _ => (false, 0, rest)
  let (m, rest) := scanMantissa hex {} rest
  if m.digits.isEmpty then none
  else
    let base := if hex then 16 else 10
    let mantissa := m.digits.foldl (fun acc d => acc * base + d) 0
    let shift : Int := if hex then 4 * (m.afterPoint : Int) else m.afterPoint
    let expChar := if hex then 'p' else 'e'
    let taken := signLen + prefLen + m.taken
    let exponent : Option (Int × Bool × Nat) :=
      match rest with
      | c :: r =>
        if lowerAscii c = expChar then
          let (esign, slen, r) : Int × Nat × List Char := match r with
            | '+' :: r' => (1, 1, r')
            | '-' :: r' => (-1, 1, r')
            | r' => (1, 0, r')
          match r with
          | d :: _ =>
            if '0' ≤ d ∧ d ≤ '9' then
              let (e, us, n, _) := scanExponent 0 false 0 r
              some (esign * e, us, 1 + slen + n)
            else none
          | [] => none
        else if hex then none else some (0, false, 0)
      | [] => if hex then none else some (0, false, 0)
    match exponent with
    | none => none
    | some (e, us, n) =>
      let taken := taken + n
      if (m.underscores || us) && !underscoresSeparate (cs.take taken) then none
      else some { negative, hex, mantissa, power := e - shift, taken }

/-- The double a literal denotes, or the range error. -/
def Literal.value (l : Literal) : Except ReadError Float :=
  if l.mantissa = 0 then .ok (assemble l.negative 0 0)
  else if l.hex then
    let mag : Int := (Nat.log2 l.mantissa : Int) + l.power
    if mag > 1100 then .error .range
    else if mag < -1200 then .ok (assemble l.negative 0 0)
    else
      let r := if 0 ≤ l.power then roundRatio l.negative (l.mantissa * Nat.pow 2 l.power.toNat) 1
        else roundRatio l.negative l.mantissa (Nat.pow 2 (-l.power).toNat)
      match r with
      | some x => .ok x
      | none => .error .range
  else
    let mag : Int := ((Nat.toDigits 10 l.mantissa).length : Int) + l.power
    if mag > 310 then .error .range
    else if mag < -330 then .ok (assemble l.negative 0 0)
    else
      let r := if 0 ≤ l.power then roundRatio l.negative (l.mantissa * Nat.pow 10 l.power.toNat) 1
        else roundRatio l.negative l.mantissa (Nat.pow 10 (-l.power).toNat)
      match r with
      | some x => .ok x
      | none => .error .range

/-- The double a whole text denotes. -/
def readFloat (s : String) : Except ReadError Float :=
  let cs := s.toList
  match special cs with
  | some (x, n) => if n = cs.length then .ok x else .error .malformed
  | none =>
    match scanLiteral cs with
    | none => .error .malformed
    | some l => if l.taken = cs.length then l.value else .error .malformed

/-- The 64-bit integer a decimal text denotes: an optional sign and digits only. -/
def readInt (s : String) : Except ReadError Int :=
  let (negative, ds) : Bool × List Char := match s.toList with
    | '+' :: r => (false, r)
    | '-' :: r => (true, r)
    | r => (false, r)
  if ds.isEmpty ∨ !ds.all (fun c => '0' ≤ c && c ≤ '9') then .error .malformed
  else
    let n := ds.foldl (fun acc c => acc * 10 + digitValue c) 0
    let v : Int := if negative then -(n : Int) else n
    if v < -Int.pow 2 63 ∨ v ≥ Int.pow 2 63 then .error .range else .ok v

/-- The unsigned 64-bit integer a text denotes in the base its prefix names: `0b`, `0o` or `0x`
(in either case), a leading `0` for octal, decimal otherwise; underscores may separate digits.
The first character out of place or the first overflow, in reading order, decides the error. -/
def readUnsignedPrefixed (s : String) : Except ReadError Nat :=
  let cs := s.toList
  if cs.isEmpty then .error .malformed
  else
    let (base, ds) : Nat × List Char := match cs with
      | '0' :: b :: r :: more =>
        if lowerAscii b = 'b' then (2, r :: more)
        else if lowerAscii b = 'o' then (8, r :: more)
        else if lowerAscii b = 'x' then (16, r :: more)
        else (8, b :: r :: more)
      | '0' :: rest => (8, rest)
      | _ => (10, cs)
    let limit : Nat := Nat.pow 2 64
    let step (acc : Except ReadError (Nat × Bool)) (c : Char) : Except ReadError (Nat × Bool) :=
      match acc with
      | .error e => .error e
      | .ok (n, under) =>
        if c = '_' then .ok (n, true)
        else
          let d : Option Nat :=
            if '0' ≤ c ∧ c ≤ '9' then some (c.toNat - '0'.toNat)
            else if 'a' ≤ lowerAscii c ∧ lowerAscii c ≤ 'z' then
              some ((lowerAscii c).toNat - 'a'.toNat + 10)
            else none
          match d with
          | none => .error .malformed
          | some d =>
            if d ≥ base then .error .malformed
            else if n * base + d ≥ limit then .error .range
            else .ok (n * base + d, under)
    match ds.foldl step (.ok (0, false)) with
    | .error e => .error e
    | .ok (n, under) => if under && !underscoresSeparate cs then .error .malformed else .ok n

/-- The signed 64-bit integer a text denotes: an optional sign, then a number in the base its
prefix names. -/
def readIntPrefixed (s : String) : Except ReadError Int :=
  let (negative, body) : Bool × String := match s.toList with
    | '+' :: r => (false, String.ofList r)
    | '-' :: r => (true, String.ofList r)
    | r => (false, String.ofList r)
  if s.isEmpty then .error .malformed
  else match readUnsignedPrefixed body with
    | .error .malformed => .error .malformed
    | .error .range => .error .range
    | .ok n =>
      if !negative && n ≥ Nat.pow 2 63 then .error .range
      else if negative && n > Nat.pow 2 63 then .error .range
      else .ok (if negative then -(n : Int) else n)

end PredictorSweep.Number
