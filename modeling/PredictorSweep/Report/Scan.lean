import PredictorSweep.Report.Metric
import PredictorSweep.Number.Reading
import PredictorSweep.Failure
import PredictorSweep.Text.Quoted
/-!
# Reading metrics from a report

A report line states a metric when it consists of optional blanks (spaces and tabs), the
metric's statistic name, at least one blank, and a value: the longest run of characters that are
not blanks, form feeds, carriage returns or line feeds. The instructions-per-cycle statistic is
named `sim_IPC`; each predictor statistic is `bpred_`, a predictor name of ASCII letters, digits
and underscores, a dot, and the statistic's own name. The first line that states a metric gives
its value, which must be a finite number.

Main definitions:

- `StatName`, `Metric.stat`;
- `valueOfLine?`: the value text a line states for a statistic;
- `LookupError`, `lookup`: the value of a named metric in a report.
-/

namespace PredictorSweep

/-- How a statistic is named in a report line. -/
inductive StatName where
  /-- A fixed name. -/
  | exact (name : String)
  /-- The text `bpred_`, a predictor name, a dot, then the given suffix. -/
  | predictor (suffix : String)
  deriving Repr, DecidableEq

/-- The statistic that states a metric. -/
def Metric.stat : Metric → StatName
  | .ipc => .exact "sim_IPC"
  | .updates => .predictor "updates"
  | .addrHits => .predictor "addr_hits"
  | .dirHits => .predictor "dir_hits"
  | .misses => .predictor "misses"
  | .addrRate => .predictor "bpred_addr_rate"
  | .dirRate => .predictor "bpred_dir_rate"

/-- Blanks separating a statistic from its value. -/
def isBlank (c : Char) : Bool := c = ' ' || c = '\t'

/-- Characters that end a value. -/
def endsValue (c : Char) : Bool :=
  c = ' ' || c = '\t' || c = '\n' || c = '\x0c' || c = '\r'

/-- ASCII letters, digits and the underscore. -/
def isWordChar (c : Char) : Bool :=
  ('a' ≤ c && c ≤ 'z') || ('A' ≤ c && c ≤ 'Z') || ('0' ≤ c && c ≤ '9') || c = '_'

/-- The rest of a line after a statistic name at its start, if the name is there. -/
def StatName.strip (n : StatName) (cs : List Char) : Option (List Char) :=
  match n with
  | .exact name =>
    if name.toList.isPrefixOf cs then some (cs.drop name.length) else none
  | .predictor suffix =>
    let head := "bpred_".toList
    if head.isPrefixOf cs then
      let rest := cs.drop head.length
      let word := rest.takeWhile isWordChar
      let after := rest.drop word.length
      let tail := '.' :: suffix.toList
      if !word.isEmpty && tail.isPrefixOf after then some (after.drop tail.length) else none
    else none

/-- The value text a line states for a statistic: blanks, the name, blanks, a value. -/
def valueOfLine? (n : StatName) (line : List Char) : Option String :=
  match n.strip (line.dropWhile isBlank) with
  | none => none
  | some rest =>
    let gap := rest.takeWhile isBlank
    let value := (rest.drop gap.length).takeWhile (fun c => !endsValue c)
    if gap.isEmpty || value.isEmpty then none else some (String.ofList value)

/-- The value text of the first line of a report that states a statistic; the lines of a report
are the pieces of its text between line feeds. -/
def valueText? (n : StatName) (report : String) : Option String :=
  (report.toList.splitOn '\n').findSome? (valueOfLine? n)

/-- Why a metric cannot be read. -/
inductive LookupError where
  /-- The name is not a metric. -/
  | unknownMetric (name : String)
  /-- No line states the metric. -/
  | notFound
  /-- The value text is not a number. -/
  | notANumber (text : String)
  /-- The value is NaN or infinite. -/
  | notFinite (text : String)
  deriving Repr, DecidableEq

namespace LookupError

/-- The text of a lookup error. -/
def message : LookupError → String
  | unknownMetric n => "unknown metric: " ++ n
  | notFound => "metric not found in report"
  | notANumber t => "metric value is not a number: " ++ Text.quote t
  | notFinite t => "metric value is not a number: " ++ Text.quote t ++ " is not finite"

/-- The class of a lookup error. -/
def errorClass : LookupError → ErrorClass
  | unknownMetric _ => .unknownMetric
  | notFound => .metricNotFound
  | notANumber _ => .metricUnparsable
  | notFinite _ => .metricUnparsable

/-- The view of a lookup error. -/
def toFailure (e : LookupError) : Failure :=
  { message := e.message, classes := [e.errorClass] }

end LookupError

/-- Whether a double is neither NaN nor infinite. -/
def isFinite (x : Float) : Bool :=
  match Number.shape x with
  | .finite .. => true
  | _ => false

/-- The value of a metric in a report: the first line stating it, read as a finite number. -/
def Metric.lookup (m : Metric) (report : String) : Except LookupError Float :=
  match valueText? m.stat report with
  | none => .error .notFound
  | some t =>
    match Number.readFloat t with
    | .error _ => .error (.notANumber t)
    | .ok x => if isFinite x then .ok x else .error (.notFinite t)

/-- The value of a named metric in a report. -/
def lookup (report : String) (name : String) : Except LookupError Float :=
  match Metric.ofName? name with
  | none => .error (.unknownMetric name)
  | some m => m.lookup report

end PredictorSweep
