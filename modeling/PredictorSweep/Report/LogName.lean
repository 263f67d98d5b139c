import PredictorSweep.Predictor.Spec
import PredictorSweep.Sweep.Key
import PredictorSweep.Number.Reading
/-!
# Log file names

A job's log is named `benchmark_label.out`, where the label is the family, then for a
table-backed family `_size`, and for a family with history `_width`. Reading a name back splits
it at the first point where an underscore, a family name (longest names tried first) and an
ending of the form `.out`, `_digits.out` or `_digits_digits.out` complete it; the benchmark is
what comes before, and may not be empty or hold a line feed. The size must then make a valid
specification with the family, and a width, when written, must be the width of that size.

Main definitions:

- `LogNameParts`, `splitLogName?`: the pieces of a name;
- `LogNameError`, `keyOfLogName`: the cell a log name identifies.
-/

namespace PredictorSweep

/-- The file ending of job logs. -/
def logSuffix : String := ".out"

/-- The pieces of a log name: benchmark, family name, and the size and width digits if written. -/
structure LogNameParts where
  /-- The benchmark. -/
  benchmark : String
  /-- The family name. -/
  family : String
  /-- The size digits, if written. -/
  size : Option String
  /-- The width digits, if written. -/
  width : Option String
  deriving Repr

/-- Whether a character is an ASCII digit. -/
def isAsciiDigit (c : Char) : Bool := '0' ≤ c && c ≤ '9'

/-- The size and width digits of a name's ending after the family: `.out`, `_d.out` or
`_d_d.out`, with non-empty digit runs. -/
def readEnding (cs : List Char) : Option (Option String × Option String) :=
  let suffix := logSuffix.toList
  if cs = suffix then some (none, none)
  else
    match cs with
    | '_' :: rest =>
      let d1 := rest.takeWhile isAsciiDigit
      let after := rest.drop d1.length
      if d1.isEmpty then none
      else if after = suffix then some (some (String.ofList d1), none)
      else
        match after with
        | '_' :: rest2 =>
          let d2 := rest2.takeWhile isAsciiDigit
          if !d2.isEmpty ∧ rest2.drop d2.length = suffix then
            some (some (String.ofList d1), some (String.ofList d2))
          else none
        | _ => none
    | _ => none

/-- The pieces of a name when the benchmark is `bench` and `rest` follows it: an underscore, the
first family name (longest first) that completes the name, and the ending. -/
def splitAfter (bench : List Char) (rest : List Char) : Option LogNameParts :=
  match rest with
  | '_' :: tail =>
    Family.namesByLength.findSome? fun f =>
      if f.toList.isPrefixOf tail then
        (readEnding (tail.drop f.length)).map fun (s, w) =>
          { benchmark := String.ofList bench, family := f, size := s, width := w }
      else none
  | _ => none

/-- Tries benchmarks of growing length: `bench` is taken so far, `rest` remains. -/
def splitFrom (bench : List Char) : List Char → Option LogNameParts
  | [] => none
  | c :: rest =>
    if c = '\n' then none
    else
      let bench := bench ++ [c]
      match splitAfter bench rest with
      | some p => some p
      | none => splitFrom bench rest

/-- The pieces of a log name, for the shortest benchmark that lets the name complete. -/
def splitLogName? (name : String) : Option LogNameParts :=
  splitFrom [] name.toList

/-- Why a log name identifies no cell. -/
inductive LogNameError where
  /-- The name does not have the shape of a log name. -/
  | unmatched (name : String)
  /-- The size digits do not fit a 64-bit integer. -/
  | sizeUnreadable (name digits : String) (e : Number.ReadError)
  /-- The family and size make no valid specification. -/
  | badSpec (name : String) (e : SpecError)
  /-- The width written is not the width of the size. -/
  | widthMismatch (name width : String) (size : Int)
  deriving Repr

namespace LogNameError

/-- The text of a log name error. -/
def message : LogNameError → String
  | unmatched n => "log file name does not identify a job: " ++ Text.quote n
  | sizeUnreadable n d e =>
    "log file name does not identify a job: " ++ Text.quote n ++ ": strconv.Atoi: parsing " ++
      Text.quote d ++ ": " ++ e.message
  | badSpec n e => "log file name does not identify a job: " ++ Text.quote n ++ ": " ++ e.message
  | widthMismatch n w s =>
    "log file name does not identify a job: " ++ Text.quote n ++ ": width " ++ w ++
      " does not match size " ++ toString s

/-- The view of a log name error. -/
def toFailure (e : LogNameError) : Failure :=
  let classes := match e with
    | badSpec _ se => .badLogName :: se.classes
    | _ => [.badLogName]
  { message := e.message, classes }

end LogNameError

/-- The cell a log name identifies. -/
def keyOfLogName (name : String) : Except LogNameError Key := do
  let some parts := splitLogName? name | throw (.unmatched name)
  let size ← match parts.size with
    | none => pure 0
    | some d =>
      match Number.readInt d with
      | .ok n => pure n
      | .error e => throw (.sizeUnreadable name d e)
  let spec ← match Spec.make parts.family size with
    | .ok s => pure s
    | .error e => throw (.badSpec name e)
  match parts.width with
  | none => pure ()
  | some w =>
    match Number.readInt w with
    | .ok n => if n ≠ spec.width then throw (.widthMismatch name w size)
    | .error _ => throw (.widthMismatch name w size)
  return { family := parts.family, benchmark := parts.benchmark, size := spec.size }

end PredictorSweep
