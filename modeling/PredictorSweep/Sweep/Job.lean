import PredictorSweep.Predictor.Spec
import PredictorSweep.Sweep.Key
/-!
# Jobs

A job is one simulator run of a sweep: a benchmark under a predictor specification, the command
that runs it, the log file its output goes to and the scratch directory it may use. Its name is
the benchmark and the specification's label joined by `_`; its key is the cell it fills.

The command is a list of byte strings, which need not be UTF-8. The command line of a job is its
arguments joined by spaces, each written so that a shell reads it back as one word: the empty
argument as `""`, an argument with no blank, quote, backslash or shell operator byte as it stands,
and any other argument quoted. The special characters are all ASCII, and an ASCII byte is never part
of a longer UTF-8 form, so looking for them rune by rune or byte by byte finds the same.

Main definitions:

- `Job`, `Job.key`, `Job.name`, `Job.render`;
- `shellWord`, `Job.commandLine`.
-/

namespace PredictorSweep

/-- One simulator run: benchmark, predictor, command, log file and scratch directory. -/
structure Job where
  /-- The benchmark to run. -/
  benchmark : String
  /-- The predictor to simulate. -/
  predictor : Spec
  /-- The program and its arguments. -/
  command : List Bytes := []
  /-- The file that receives the run's output. -/
  logPath : String := ""
  /-- The directory the run may use. -/
  scratchDir : String := ""
  deriving Repr, DecidableEq, Inhabited

/-- The bytes of the characters that make a shell split or reinterpret a word. -/
def shellSpecial : List UInt8 :=
  [' ', '\t', '\n', '"', '\'', '\\', '$', '`', '&', '|', ';', '<', '>', '(', ')', '*', '?'].map
    Char.toUInt8

/-- An argument written as one shell word: `""` when empty, as it stands when it holds no special
byte, and quoted otherwise. -/
def shellWord (s : Bytes) : Bytes :=
  if s.data.isEmpty then "\"\""
  else if s.data.any (· ∈ shellSpecial) then Text.quoteBytes s
  else s

namespace Job

/-- The cell a job fills. -/
def key (j : Job) : Key :=
  { family := j.predictor.family, benchmark := j.benchmark, size := j.predictor.size }

/-- The benchmark and the predictor label joined by `_`. -/
def name (j : Job) : String :=
  j.benchmark ++ "_" ++ j.predictor.label

/-- The command as one line of shell words. -/
def commandLine (j : Job) : Bytes :=
  ⟨[' '.toUInt8].intercalate (j.command.map fun a => (shellWord a).data)⟩

/-- The name followed by the key in parentheses. -/
def render (j : Job) : String :=
  j.name ++ " (" ++ j.key.render ++ ")"

end Job

end PredictorSweep
