import PredictorSweep.Sweep.Job
import PredictorSweep.Path
import PredictorSweep.Text.Space
/-!
# Sweep plans

A sweep setup names the simulator tools, the result directory, the instruction budget, and the
benchmarks, table sizes and table-backed families to cross. Its plan lists one job per benchmark
and family without a table, then per benchmark, size and table-backed family, benchmarks
outermost and sizes before families.

A setup is checked before any job is listed, in this order: the driver and the simulator must be
named, the benchmarks must be present and distinct, the families must be table-backed and
distinct, the sizes distinct, and each size valid. A blank benchmark is refused when its jobs are
reached.

Main definitions:

- `Setup`, `SetupError`;
- `Setup.describe`: the job for one benchmark and specification;
- `Setup.plan`: the jobs of a setup, or the first setting it refuses.
-/

namespace PredictorSweep

/-- What a sweep runs: tools, paths, budget, and the benchmarks, sizes and families to cross. -/
structure Setup where
  /-- The script that runs one benchmark in the simulator. -/
  driver : String := ""
  /-- The benchmark database the script reads. -/
  benchDb : String := ""
  /-- The simulator binary. -/
  simulator : String := ""
  /-- The directory for logs and scratch space. -/
  resultsDir : String := ""
  /-- Instructions skipped before measuring. -/
  fastForward : Int := 0
  /-- Instructions measured. -/
  maxInst : Int := 0
  /-- The benchmarks to run. -/
  benchmarks : List String := []
  /-- The table sizes to cross with the table-backed families. -/
  sizes : List Int := []
  /-- The table-backed families to run; empty means all of them. -/
  families : List String := []
  deriving Repr, Inhabited

/-- What is wrong with a setting. -/
inductive SetupCause where
  /-- A tool is not named. -/
  | missingTool
  /-- No benchmark, or a blank one. -/
  | emptySweep
  /-- A value appears twice. -/
  | duplicate
  /-- A family that is not table-backed. -/
  | unsupportedFamily
  /-- A size the predictor tables refuse. -/
  | size (e : SizeError)
  deriving Repr, DecidableEq

namespace SetupCause

/-- The text of a cause. -/
def message : SetupCause → String
  | missingTool => "simulator command not configured"
  | emptySweep => "sweep has no benchmarks"
  | duplicate => "duplicate job in sweep"
  | unsupportedFamily => "unsupported predictor family"
  | size e => e.message

/-- The class of a cause. -/
def errorClass : SetupCause → ErrorClass
  | missingTool => .missingTool
  | emptySweep => .emptySweep
  | duplicate => .duplicateJob
  | unsupportedFamily => .unsupportedFamily
  | size _ => .invalidSize

end SetupCause

/-- A refused setting: the field, its value as written, and the cause. -/
structure SetupError where
  /-- The setting's name. -/
  field : String
  /-- The refused value as text. -/
  value : String
  /-- What is wrong with it. -/
  cause : SetupCause
  deriving Repr, DecidableEq

namespace SetupError

/-- The text of a refused setting. -/
def message (e : SetupError) : String :=
  "invalid sweep configuration: " ++ e.field ++ "=" ++ e.value ++ ": " ++ e.cause.message

/-- The view of a refused setting. -/
def toFailure (e : SetupError) : Failure :=
  { message := e.message, classes := [e.cause.errorClass], setting := some (e.field, e.value) }

end SetupError

/-- The first value of a list that an earlier value repeats. -/
def firstRepeat {α : Type} [DecidableEq α] : List α → List α → Option α
  | _, [] => none
  | seen, x :: rest => if x ∈ seen then some x else firstRepeat (x :: seen) rest

/-- Refuses a list with a repeated value, naming the first repeat. -/
def checkDistinct {α : Type} [DecidableEq α] (field : String) (display : α → String) (xs : List α) :
    Except SetupError Unit :=
  match firstRepeat [] xs with
  | some x => .error ⟨field, display x, .duplicate⟩
  | none => .ok ()

namespace Setup

/-- The table-backed families a setup runs: all of them when it names none. -/
def runFamilies (c : Setup) : List String :=
  if c.families.isEmpty then Family.sizedFamilies.map Family.name else c.families

/-- The job running one benchmark under one specification. -/
def describe (c : Setup) (bench : String) (spec : Spec) : Job :=
  let name := bench ++ "_" ++ spec.label
  let scratch := Path.join [c.resultsDir, name]
  let simArgs := spec.flags ++
    ["-fastfwd", toString c.fastForward, "-max:inst", toString c.maxInst]
  { benchmark := bench,
    predictor := spec,
    command := [c.driver, "-db", c.benchDb, "-dir", scratch, "-benchmark", bench,
      "-sim", c.simulator, "-args", " ".intercalate simArgs],
    logPath := Path.join [c.resultsDir, name ++ ".out"],
    scratchDir := scratch }

/-- The width of each size, or the first size refused. -/
def widths : List Int → Except SetupError (List (Int × Int))
  | [] => .ok []
  | s :: rest =>
    match indexWidth s with
    | .error e => .error ⟨"sizes", toString s, .size e⟩
    | .ok w => (widths rest).map ((s, w) :: ·)

/-- The jobs of one benchmark: the families without a table, then each size with each family. -/
def benchJobs (c : Setup) (families : List String) (sized : List (Int × Int)) (bench : String) :
    Except SetupError (List Job) :=
  if Text.isBlank bench then .error ⟨"benchmarks", "\"\"", .emptySweep⟩
  else
    .ok (Family.sizeless.map (fun f => c.describe bench { family := f.name }) ++
      sized.flatMap fun (s, w) =>
        families.map fun f => c.describe bench { family := f, size := s, width := w })

/-- The jobs of a setup, or the first setting it refuses. -/
def plan (c : Setup) : Except SetupError (List Job) := do
  if c.driver.isEmpty then throw ⟨"driver", "\"\"", .missingTool⟩
  if c.simulator.isEmpty then throw ⟨"simulator", "\"\"", .missingTool⟩
  if c.benchmarks.isEmpty then throw ⟨"benchmarks", "[]", .emptySweep⟩
  checkDistinct "benchmarks" id c.benchmarks
  let families := c.runFamilies
  match families.find? (fun f => !Family.nameSized f) with
  | some f => throw ⟨"families", f, .unsupportedFamily⟩
  | none => pure ()
  checkDistinct "families" id families
  checkDistinct "sizes" toString c.sizes
  let sized ← widths c.sizes
  let perBench ← c.benchmarks.mapM (benchJobs c families sized)
  return perBench.flatten

end Setup

end PredictorSweep
