import PredictorSweep.Failure
import PredictorSweep.Text.Space
import PredictorSweep.Text.Quoted
/-!
# Log levels

Four levels order log messages by severity: debug, info, warn, error. A level name is read
after trimming white space and folding case; the empty name means info and `warning` means
warn. Levels are numbered from zero and written in upper case; a number outside the four is
written `UNKNOWN`.

Main definitions:

- `Level`, `Level.number`, `levelName`;
- `Level.parse`: a name to its level, or the error quoting the name.
-/

namespace PredictorSweep

/-- The severities of log messages. -/
inductive Level where
  /-- Detail for debugging. -/
  | debug
  /-- Normal progress. -/
  | info
  /-- Something unexpected that did not stop the work. -/
  | warn
  /-- A failure. -/
  | error
  deriving DecidableEq, Repr, Inhabited

/-- A text with ASCII letters folded to lower case. -/
def lowerAsciiText (s : String) : String :=
  String.ofList (s.toList.map fun c => if 'A' ≤ c ∧ c ≤ 'Z' then Char.ofNat (c.toNat + 32) else c)

/-- The name written for a level number: `DEBUG`, `INFO`, `WARN`, `ERROR`, or `UNKNOWN`. -/
def levelName (n : Int) : String :=
  match n with
  | 0 => "DEBUG"
  | 1 => "INFO"
  | 2 => "WARN"
  | 3 => "ERROR"
  | _ => "UNKNOWN"

namespace Level

/-- The number of a level, from zero for debug. -/
def number : Level → Nat
  | debug => 0
  | info => 1
  | warn => 2
  | error => 3

/-- The level with a number, if any. -/
def ofNumber? (n : Int) : Option Level :=
  match n with
  | 0 => some debug
  | 1 => some info
  | 2 => some warn
  | 3 => some error
  | _ => none

/-- The upper-case name of a level. -/
def name (l : Level) : String := levelName l.number

/-- A name that is not a level. -/
structure Unknown where
  /-- The name as given. -/
  text : String

/-- The view of an unknown level name. -/
def Unknown.toFailure (e : Unknown) : Failure :=
  { message := "unknown log level: " ++ Text.quote e.text, classes := [.unknownLevel] }

/-- The level a name denotes, after trimming and folding case. -/
def parse (s : String) : Except Unknown Level :=
  match lowerAsciiText (Text.trim s) with
  | "debug" => .ok debug
  | "" | "info" => .ok info
  | "warn" | "warning" => .ok warn
  | "error" => .ok error
  | _ => .error ⟨s⟩

end Level

end PredictorSweep
