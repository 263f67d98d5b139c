import PredictorSweep.Number.Reading
/-!
# What a scalar stands for

A plain scalar's tag comes from its text. Some texts are fixed words: `true`, `false` and their
capitalised forms are booleans; the empty text, `~` and `null` are null; `.inf`, `.nan` and their
forms are floats. A text that starts with a digit or a sign is an integer if it reads as one in
base 10, or with a `0x`, `0o` or `0b` prefix, or with a leading zero in octal, underscores
ignored; else a float if it has the shape of a decimal float; else a date if it starts with four
digits and a dash and reads as a date. A text starting with `.` may be a float. All else is a
string.

An explicit tag asks for a kind: the text must then resolve to it, an integer also serving as a
float. Tags outside the core set are taken as given.

Main definitions:

- `Resolved`, `shortTag`, `resolve`;
- `readIntAnyBase`, `readNatAnyBase`, `looksLikeFloat`, `isTimestamp`.
-/

namespace PredictorSweep.Yaml

/-- The value of a scalar once its tag is known. -/
inductive Resolved where
  | null
  | bool (b : Bool)
  /-- An integer of the signed 64-bit range. -/
  | int (i : Int)
  /-- An integer above the signed 64-bit range that fits in 64 bits. -/
  | uint (n : Nat)
  | float (x : Float)
  | timestamp
  | str (s : String)
  deriving Inhabited

/-- The prefix of the core schema's tags. -/
def corePrefix : String := "tag:yaml.org,2002:"

/-- The short form of a tag: `!!name` for the core schema's tags, others as they are. -/
def shortTag (tag : String) : String :=
  if tag.startsWith corePrefix then "!!" ++ String.ofList (tag.toList.drop corePrefix.length)
  else tag

/-- The fixed words a plain scalar may be, with their tag and value. -/
def fixedWords : List (String × String × Resolved) :=
  [("true", "!!bool", .bool true), ("True", "!!bool", .bool true), ("TRUE", "!!bool", .bool true),
   ("false", "!!bool", .bool false), ("False", "!!bool", .bool false),
   ("FALSE", "!!bool", .bool false),
   ("", "!!null", .null), ("~", "!!null", .null), ("null", "!!null", .null),
   ("Null", "!!null", .null), ("NULL", "!!null", .null),
   (".nan", "!!float", .float (0.0 / 0.0)), (".NaN", "!!float", .float (0.0 / 0.0)),
   (".NAN", "!!float", .float (0.0 / 0.0)),
   (".inf", "!!float", .float (1.0 / 0.0)), (".Inf", "!!float", .float (1.0 / 0.0)),
   (".INF", "!!float", .float (1.0 / 0.0)),
   ("+.inf", "!!float", .float (1.0 / 0.0)), ("+.Inf", "!!float", .float (1.0 / 0.0)),
   ("+.INF", "!!float", .float (1.0 / 0.0)),
   ("-.inf", "!!float", .float (-1.0 / 0.0)), ("-.Inf", "!!float", .float (-1.0 / 0.0)),
   ("-.INF", "!!float", .float (-1.0 / 0.0)),
   ("<<", "!!merge", .str "<<")]

/-- The first characters that may begin something other than a string: a sign, a digit, a
letter that begins a fixed word, `~`, `<`, or `.`. -/
inductive Hint where
  | sign
  | digit
  | word
  | dot
  | none
  deriving BEq

/-- The hint of a text's first character. -/
def hintOf (text : String) : Hint :=
  match text.toList.head? with
  | none => .word
  | some c =>
    if c == '+' || c == '-' then .sign
    else if c.isDigit then .digit
    else if "yYnNtTfFoO~<".toList.contains c then .word
    else if c == '.' then .dot
    else .none

/-- The value of a digit in bases up to 36. -/
def digitValue (c : Char) : Option Nat :=
  if c.isDigit then some (c.toNat - '0'.toNat)
  else if 'a' ≤ c.toLower && c.toLower ≤ 'z' then some (c.toLower.toNat - 'a'.toNat + 10)
  else none

/-- Reads digits in a base, refusing a digit out of the base and an empty text. -/
def readDigits (base : Nat) (ds : List Char) : Option Nat :=
  ds.foldlM (fun acc c => match digitValue c with
    | some d => if d < base then some (acc * base + d) else none
    | none => none) 0

/-- Reads an unsigned integer with its base from its prefix: `0x` hexadecimal, `0o` octal, `0b`
binary (each needing a digit after it), a leading `0` octal, otherwise decimal. -/
def readNatAnyBase (text : String) : Option Nat :=
  match text.toList with
  | [] => none
  | '0' :: rest =>
    match rest with
    | p :: d :: more =>
      let p := p.toLower
      if p == 'b' then readDigits 2 (d :: more)
      else if p == 'o' then readDigits 8 (d :: more)
      else if p == 'x' then readDigits 16 (d :: more)
      else readDigits 8 rest
    | _ => readDigits 8 rest
  | cs => readDigits 10 cs

/-- Reads a signed integer with its base from its prefix, as `readNatAnyBase` after an optional
sign, within the signed 64-bit range. -/
def readIntAnyBase (text : String) : Option Int :=
  let (neg, body) := match text.toList with
    | '+' :: rest => (false, String.ofList rest)
    | '-' :: rest => (true, String.ofList rest)
    | _ => (false, text)
  match readNatAnyBase body with
  | some n =>
    if neg then (if n ≤ Nat.pow 2 63 then some (-(n : Int)) else none)
    else if n < Nat.pow 2 63 then some n else none
  | none => none

/-- Whether a text has the shape of a decimal float: an optional sign, digits with an optional
point and fraction or a point and digits, then an optional exponent. -/
def looksLikeFloat (text : String) : Bool :=
  let cs := text.toList
  let cs := match cs with
    | '+' :: r => r
    | '-' :: r => r
    | r => r
  let digits (l : List Char) := (l.takeWhile Char.isDigit, l.dropWhile Char.isDigit)
  let afterMantissa : Option (List Char) :=
    match cs with
    | '.' :: r =>
      let (ds, r) := digits r
      if ds.isEmpty then none else some r
    | _ =>
      let (ds, r) := digits cs
      if ds.isEmpty then none
      else match r with
        | '.' :: r' => some (digits r').2
        | _ => some r
  match afterMantissa with
  | none => false
  | some [] => true
  | some (e :: r) =>
    if e == 'e' || e == 'E' then
      let r := match r with
        | '+' :: r' => r'
        | '-' :: r' => r'
        | r' => r'
      let (ds, r) := digits r
      !ds.isEmpty && r.isEmpty
    else false

/-- Reads one or two digits. -/
def readShortNumber (cs : List Char) : Option (Nat × List Char) :=
  match cs with
  | a :: b :: r =>
    if a.isDigit then
      if b.isDigit then some ((a.toNat - 48) * 10 + (b.toNat - 48), r)
      else some (a.toNat - 48, b :: r)
    else none
  | [a] => if a.isDigit then some (a.toNat - 48, []) else none
  | [] => none

/-- Days in a month of a year of the proleptic Gregorian calendar. -/
def daysInMonth (year month : Nat) : Nat :=
  if month == 2 then
    if (year % 4 == 0 && year % 100 != 0) || year % 400 == 0 then 29 else 28
  else if month == 4 || month == 6 || month == 9 || month == 11 then 30
  else 31

/-- Reads a time of day: hour, minute and second of one or two digits each, within range, and
an optional fraction of a second. -/
def readClock (cs : List Char) : Option (List Char) := do
  let (h, r) ← readShortNumber cs
  let r ← match r with | ':' :: r => some r | _ => none
  let (m, r) ← readShortNumber r
  let r ← match r with | ':' :: r => some r | _ => none
  let (s, r) ← readShortNumber r
  if h ≥ 24 || m ≥ 60 || s ≥ 60 then none
  else match r with
    | '.' :: d :: more => if d.isDigit then some (more.dropWhile Char.isDigit) else some r
    | _ => some r

/-- Reads a zone: `Z`, or a sign, two digits of hours, a colon and two of minutes. -/
def zoneOk (cs : List Char) : Bool :=
  match cs with
  | ['Z'] => true
  | [s, h1, h2, ':', m1, m2] =>
    (s == '+' || s == '-') && h1.isDigit && h2.isDigit && m1.isDigit && m2.isDigit &&
      ((h1.toNat - 48) * 10 + (h2.toNat - 48)) ≤ 24 && ((m1.toNat - 48) * 10 + (m2.toNat - 48)) ≤ 60
  | _ => false

/-- Whether a text is a date: four digits of year, a dash, a month and a day of one or two digits
each and within range; then nothing, or `T` or `t` and a time of day with a zone, or a space and
a time of day. -/
def isTimestamp (text : String) : Bool :=
  let cs := text.toList
  let year := cs.take 4
  if year.length != 4 || !year.all Char.isDigit || cs[4]? != some '-' then false
  else
    let yearValue := year.foldl (fun acc c => acc * 10 + (c.toNat - 48)) 0
    let date : Option (List Char) := do
      let (m, r) ← readShortNumber (cs.drop 5)
      let r ← match r with | '-' :: r => some r | _ => none
      let (d, r) ← readShortNumber r
      if m < 1 || m > 12 || d < 1 || d > daysInMonth yearValue m then none else some r
    match date with
    | none => false
    | some [] => true
    | some (sep :: r) =>
      if sep == 'T' || sep == 't' then
        match readClock r with
        | some z => zoneOk z
        | none => false
      else if sep == ' ' then readClock r == some []
      else false

/-- The tag and value of a plain text, with no tag asked for but `!!timestamp` or none. -/
def resolvePlain (tag : String) (text : String) : String × Resolved :=
  match fixedWords.find? (·.1 == text) with
  | some (_, t, v) => (t, v)
  | none =>
    match hintOf text with
    | .dot =>
      match Number.readFloat text with
      | .ok x => ("!!float", .float x)
      | .error _ => ("!!str", .str text)
    | .sign | .digit =>
      if (tag == "" || tag == "!!timestamp") && isTimestamp text then ("!!timestamp", .timestamp)
      else
        let plain := String.ofList (text.toList.filter (· != '_'))
        match readIntAnyBase plain with
        | some i => ("!!int", .int i)
        | none =>
          match readNatAnyBase plain with
          | some n => if n < Nat.pow 2 64 then ("!!int", .uint n) else floatOrText plain
          | none => floatOrText plain
    | _ => ("!!str", .str text)
where
  /-- A decimal float, or the text itself. -/
  floatOrText (plain : String) : String × Resolved :=
    if looksLikeFloat plain then
      match Number.readFloat plain with
      | .ok x => ("!!float", .float x)
      | .error _ => ("!!str", .str text)
    else ("!!str", .str text)

/-- The tags whose texts are resolved; others are taken as given. -/
def resolvableTags : List String :=
  ["", "!!str", "!!bool", "!!int", "!!float", "!!timestamp", "!!null"]

/-- The tag and value of a scalar's text under a tag. A tag outside the core set is kept with
the text; `!!str` keeps the text. Otherwise the text must resolve to the tag asked for, an
integer also serving as a float; if it does not, the error message says so. -/
def resolve (tag : String) (text : String) : Except String (String × Resolved) :=
  let tag := shortTag tag
  if !resolvableTags.contains tag then .ok (tag, .str text)
  else
    let (rtag, value) :=
      if hintOf text == .none || tag == "!!str" then ("!!str", Resolved.str text)
      else resolvePlain tag text
    if tag == "" || tag == rtag || tag == "!!str" then .ok (rtag, value)
    else match tag, value with
      | "!!float", .int i => .ok ("!!float", .float (Float.ofInt i))
      | _, _ => .error ("cannot decode " ++ rtag ++ " `" ++ text ++ "` as a " ++ tag)

/-- The tag a plain text resolves to with no tag asked for. -/
def plainTag (text : String) : String :=
  match resolve "" text with
  | .ok (t, _) => t
  | .error _ => "!!str"

end PredictorSweep.Yaml
