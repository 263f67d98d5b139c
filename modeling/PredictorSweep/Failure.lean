/-!
# Failures

Every operation that can fail returns an error of its own domain type. Callers see each error
through one view, `Failure`: the text that describes it, and the classes it belongs to, which
let a caller tell failures apart without reading the text. A failure may also carry the field
and value of a rejected sweep setting, or mark a job that did not finish well.

Main definitions:

- `ErrorClass`: the classes of failure, in their fixed listing order;
- `Failure`: the view of an error;
- `Failure.classesInOrder`: the classes of a failure, each once, in listing order.
-/

namespace PredictorSweep

/-- The classes of failure that callers distinguish. -/
inductive ErrorClass where
  /-- A log file name names no job. -/
  | badLogName
  /-- A report holds no line for a metric. -/
  | metricNotFound
  /-- A report's metric value is not a finite number. -/
  | metricUnparsable
  /-- A metric name outside the known set. -/
  | unknownMetric
  /-- A predictor family outside the supported set. -/
  | unsupportedFamily
  /-- A predictor table size that is not a power of two of at least 8. -/
  | invalidSize
  /-- A sweep setting lists a value twice. -/
  | duplicateJob
  /-- A sweep with no benchmark to run. -/
  | emptySweep
  /-- The simulator driver or binary is not configured. -/
  | missingTool
  /-- A result table cell is filled twice. -/
  | duplicateCell
  /-- A result table no longer accepts cells. -/
  | tableFrozen
  /-- A cell key whose size does not fit its family. -/
  | shapeMismatch
  /-- A cell key whose family the table does not know. -/
  | unknownFamily
  /-- A cell key without a benchmark. -/
  | emptyBenchmark
  /-- A job ran past its time limit. -/
  | jobTimeout
  /-- A job ended with a non-zero exit status. -/
  | jobFailed
  /-- A job with no command to run. -/
  | emptyCommand
  /-- A stored entry that is not there. -/
  | notFound
  /-- A log level name outside the known set. -/
  | unknownLevel
  /-- A file or directory that does not exist. -/
  | notExist
  deriving DecidableEq, Repr

namespace ErrorClass

/-- Every class, in listing order. -/
def all : List ErrorClass :=
  [badLogName, metricNotFound, metricUnparsable, unknownMetric, unsupportedFamily, invalidSize,
    duplicateJob, emptySweep, missingTool, duplicateCell, tableFrozen, shapeMismatch,
    unknownFamily, emptyBenchmark, jobTimeout, jobFailed, emptyCommand, notFound, unknownLevel,
    notExist]

end ErrorClass

/-- The view of an error: its text, its classes, and the setting or job it concerns. -/
structure Failure where
  /-- The text that describes the error. -/
  message : String
  /-- The classes the error belongs to. -/
  classes : List ErrorClass := []
  /-- The field and value of a rejected sweep setting, when the error is one. -/
  setting : Option (String × String) := none
  /-- Whether the error reports a job that did not finish well. -/
  job : Bool := false
  deriving Repr

namespace Failure

/-- A failure known only by its text. -/
def plain (message : String) : Failure := { message }

/-- The classes of a failure, each once, in listing order. -/
def classesInOrder (f : Failure) : List ErrorClass :=
  ErrorClass.all.filter (· ∈ f.classes)

/-- The same failure with its text behind a prefix; the classes stay. -/
def withPrefix (pre : String) (f : Failure) : Failure :=
  { f with message := pre ++ f.message }

end Failure

end PredictorSweep
