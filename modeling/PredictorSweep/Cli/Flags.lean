import PredictorSweep.Number.Reading
import PredictorSweep.Time.Duration
import PredictorSweep.Text.Quoted
/-!
# Command-line flags

A flag has a long name, perhaps a one-letter shorthand, a kind (text, switch, integer or
duration), a usage line and a default. Arguments are read in order: `--name=value`,
`--name value`, `-x value`, `-xvalue` and `-x=value` set a flag; a switch needs no value, and
letters of switches may be grouped (`-ab`); `--` ends the flags; anything else is an argument,
wherever it stands. The first unknown flag, missing value or value of the wrong form stops the
reading with its error. A group of letters that reads `test.` from some letter on is passed over
from there, as the flags of a test runner.

An integer is read with an optional sign and a base prefix (`0x`, `0o`, `0b`, or `0` for
octal); a switch takes `1`, `t`, `true` or `0`, `f`, `false` in their spellings; a duration
takes the duration notation.

Main definitions:

- `FlagKind`, `FlagSpec`, `FlagValue`, `FlagReading`;
- `readFlags`: the flags and arguments of an argument list;
- `FlagSpec.usageLines`: the flags as a help text lists them.
-/

namespace PredictorSweep.Cli

/-- What a flag holds. -/
inductive FlagKind where
  /-- A text. -/
  | text
  /-- A switch, set by naming it. -/
  | switch
  /-- A 64-bit integer. -/
  | integer
  /-- A duration. -/
  | duration
  deriving Repr, DecidableEq, Inhabited

/-- A flag a command accepts. -/
structure FlagSpec where
  /-- The long name. -/
  name : String
  /-- The one-letter shorthand, if any. -/
  short : Option Char := none
  /-- What the flag holds. -/
  kind : FlagKind := .text
  /-- The usage line. -/
  usage : String
  /-- The default as text. -/
  default : String := ""
  deriving Repr, Inhabited

/-- A value given to a flag. -/
inductive FlagValue where
  | text (s : String)
  | switch (b : Bool)
  | integer (n : Int)
  | duration (d : Duration)
  deriving Repr, Inhabited

/-- The flags set and the arguments left, in order. -/
structure FlagReading where
  /-- The flags set, by long name, in the order set. -/
  set : List (String × FlagValue) := []
  /-- The arguments that are not flags. -/
  args : List String := []
  deriving Inhabited

namespace FlagReading

/-- The last value given to a flag. -/
def value? (r : FlagReading) (name : String) : Option FlagValue :=
  (r.set.reverse.find? (·.1 == name)).map (·.2)

/-- Whether a flag was given. -/
def changed (r : FlagReading) (name : String) : Bool := (r.value? name).isSome

/-- The text of a text flag, or `d`. -/
def text (r : FlagReading) (name : String) (d : String := "") : String :=
  match r.value? name with
  | some (.text s) => s
  | _ => d

/-- The state of a switch. -/
def switch (r : FlagReading) (name : String) : Bool :=
  match r.value? name with
  | some (.switch b) => b
  | _ => false

/-- The value of an integer flag, or zero. -/
def integer (r : FlagReading) (name : String) : Int :=
  match r.value? name with
  | some (.integer n) => n
  | _ => 0

/-- The value of a duration flag, or zero. -/
def duration (r : FlagReading) (name : String) : Duration :=
  match r.value? name with
  | some (.duration d) => d
  | _ => ⟨0⟩

end FlagReading

/-- A value a switch takes, if the text is one. -/
def switchValue (s : String) : Option Bool :=
  if ["1", "t", "T", "TRUE", "true", "True"].contains s then some true
  else if ["0", "f", "F", "FALSE", "false", "False"].contains s then some false
  else none

namespace FlagSpec

/-- How a flag is named in a value error: `-x, --name` or `--name`. -/
def title (f : FlagSpec) : String :=
  match f.short with
  | some c => "-" ++ String.singleton c ++ ", --" ++ f.name
  | none => "--" ++ f.name

/-- The value of a flag for a text, or the error. -/
def parseValue (f : FlagSpec) (v : String) : Except String FlagValue :=
  let bad (why : String) := "invalid argument " ++ Text.quote v ++ " for " ++ Text.quote f.title ++
    " flag: " ++ why
  match f.kind with
  | .text => .ok (.text v)
  | .switch => match switchValue v with
    | some b => .ok (.switch b)
    | none => .error (bad ("strconv.ParseBool: parsing " ++ Text.quote v ++ ": invalid syntax"))
  | .integer => match Number.readIntPrefixed v with
    | .ok n => .ok (.integer n)
    | .error e => .error (bad ("strconv.ParseInt: parsing " ++ Text.quote v ++ ": " ++ e.message))
  | .duration => match Duration.parse v with
    | .ok d => .ok (.duration d)
    | .error e => .error (bad e.message)

/-- The name of a flag's value in its usage line. -/
def valueName (f : FlagSpec) : String :=
  match f.kind with
  | .text => "string"
  | .switch => ""
  | .integer => "int"
  | .duration => "duration"

/-- Whether a flag's default is its kind's zero value. -/
def defaultIsZero (f : FlagSpec) : Bool :=
  match f.kind with
  | .text => f.default == ""
  | .switch => f.default == "" || f.default == "false"
  | .integer => f.default == "" || f.default == "0"
  | .duration => f.default == "" || f.default == "0" || f.default == "0s"

/-- The usage lines of flags sorted by name: the names, then the usage aligned in one column,
and a default that is not zero. -/
def usageLines (flags : List FlagSpec) : String :=
  let flags := flags.mergeSort fun a b => decide (a.name ≤ b.name)
  let heads := flags.map fun f =>
    let names := match f.short with
      | some c => "  -" ++ String.singleton c ++ ", --" ++ f.name
      | none => "      --" ++ f.name
    if f.valueName.isEmpty then names else names ++ " " ++ f.valueName
  let width := heads.foldl (fun m h => max m (h.length + 1)) 0
  let lines := (flags.zip heads).map fun (f, h) =>
    let dflt := if f.defaultIsZero then ""
      else if f.kind == .text then " (default " ++ Text.quote f.default ++ ")"
      else " (default " ++ f.default ++ ")"
    h ++ " " ++ String.ofList (List.replicate (width - h.length) ' ') ++ " " ++ f.usage ++ dflt
  String.join (lines.map (· ++ "\n"))

end FlagSpec

/-- Reads one long flag `--...`: the flags and the arguments still to read, or the error. -/
def readLong (flags : List FlagSpec) (s : String) (rest : List String) (r : FlagReading) :
    Except String (FlagReading × List String) := do
  let body := (s.drop 2).toString
  if body.isEmpty || body.startsWith "-" || body.startsWith "=" then
    throw ("bad flag syntax: " ++ s)
  let (name, given) := match body.splitOn "=" with
    | [n] => (n, none)
    | n :: vs => (n, some ("=".intercalate vs))
    | [] => (body, none)
  let some f := flags.find? (·.name == name) | throw ("unknown flag: --" ++ name)
  let (value, rest) ← match given with
    | some v => pure (v, rest)
    | none =>
      if f.kind == .switch then pure ("true", rest)
      else match rest with
        | v :: more => pure (v, more)
        | [] => throw ("flag needs an argument: " ++ s)
  let v ← f.parseValue value
  pure ({ r with set := r.set ++ [(f.name, v)] }, rest)

/-- A shorthand letter as a flag error quotes it: the letter's first byte taken as a character,
between single quotes, escaped when it cannot be shown. -/
def quoteLetter (c : Char) : String :=
  let b := ((String.singleton c).toUTF8.toList.headD 0).toNat
  let hex (n : Nat) : String := String.ofList (Nat.toDigits 16 n)
  let shown : String :=
    if b == 0x27 then "\\'"
    else if b == 0x5C then "\\\\"
    else if b == 7 then "\\a" else if b == 8 then "\\b" else if b == 12 then "\\f"
    else if b == 10 then "\\n" else if b == 13 then "\\r" else if b == 9 then "\\t"
    else if b == 11 then "\\v"
    else if b < 0x20 || b == 0x7F then "\\x" ++ (if b < 16 then "0" else "") ++ hex b
    else if b < 0x80 then String.singleton (Char.ofNat b)
    else if b ≥ 0xA1 && b != 0xAD then String.singleton (Char.ofNat b)
    else "\\u00" ++ hex b
  "'" ++ shown ++ "'"

/-- Reads a group of shorthand letters `-...`: the flags and the arguments still to read. -/
def readShorts (flags : List FlagSpec) (rest : List String) :
    Nat → List Char → FlagReading → Except String (FlagReading × List String)
  | 0, _, r => pure (r, rest)
  | _, [], r => pure (r, rest)
  | fuel + 1, c :: more, r => do
    let whole := "-" ++ String.ofList (c :: more)
    -- the test runner's own flags (`-test.v`) are passed over
    if (String.ofList (c :: more)).startsWith "test." then return (r, rest)
    let some f := flags.find? (·.short == some c) |
      throw ("unknown shorthand flag: " ++ quoteLetter c ++ " in " ++ whole)
    match more with
    | '=' :: v :: vs =>
      let v ← f.parseValue (String.ofList (v :: vs))
      pure ({ r with set := r.set ++ [(f.name, v)] }, rest)
    | _ =>
      if f.kind == .switch then
        let v ← f.parseValue "true"
        readShorts flags rest fuel more { r with set := r.set ++ [(f.name, v)] }
      else if !more.isEmpty then
        let v ← f.parseValue (String.ofList more)
        pure ({ r with set := r.set ++ [(f.name, v)] }, rest)
      else match rest with
        | v :: after =>
          let v ← f.parseValue v
          pure ({ r with set := r.set ++ [(f.name, v)] }, after)
        | [] => throw ("flag needs an argument: " ++ quoteLetter c ++ " in " ++ whole)

/-- Reads an argument list against the flags a command accepts. -/
def readFlagsFrom (flags : List FlagSpec) : Nat → List String → FlagReading →
    Except String FlagReading
  | 0, _, r => pure r
  | _, [], r => pure r
  | fuel + 1, s :: rest, r =>
    if s.length < 2 || !s.startsWith "-" then
      readFlagsFrom flags fuel rest { r with args := r.args ++ [s] }
    else if s == "--" then pure { r with args := r.args ++ rest }
    else if s.startsWith "--" then do
      let (r, rest) ← readLong flags s rest r
      readFlagsFrom flags fuel rest r
    else do
      let cs := (s.drop 1).toString.toList
      let (r, rest) ← readShorts flags rest (cs.length + 1) cs r
      readFlagsFrom flags fuel rest r

/-- The flags and arguments of an argument list, or the first error. -/
def readFlags (flags : List FlagSpec) (args : List String) : Except String FlagReading :=
  readFlagsFrom flags (args.length + 1) args {}

end PredictorSweep.Cli
