import PredictorSweep.Sweep.Job
import PredictorSweep.Time.Duration
import PredictorSweep.Failure
/-!
# Job results

A job ends in one of four states. It succeeded when it exited with status zero and nothing went
wrong; it failed when it exited with a positive status; it timed out when its time limit killed
it; otherwise it is in error (it could not be launched, was killed by a signal, or its log could
not be made). A failed, timed-out or erroneous job carries the reason as a job error naming its
cell; only the exit status of a job that failed is taken from the error itself.

Each job's log holds a header with the command line, the job's output, and a trailer with the
state: `exit N`, `timed out after D`, or `error: REASON`.

Main definitions:

- `JobFault`, `ResultError`, `JobResult`;
- `JobResult.failed`, `JobResult.status`, `JobResult.reason`, `JobResult.statusLine`;
- `Batch.failures`, `Batch.succeeded`.
-/

namespace PredictorSweep

/-- Why a job did not finish well. -/
inductive JobFault where
  /-- The job exited with a non-zero status. -/
  | exited
  /-- The job ran past its time limit. -/
  | timedOut (limit : Duration)
  /-- The job has no command. -/
  | emptyCommand
  /-- Any other cause, known by its text and the classes it keeps. -/
  | other (text : String) (classes : List ErrorClass)
  deriving Repr, DecidableEq, Inhabited

/-- The error a result carries. -/
inductive ResultError where
  /-- A job error: the cell, the exit status it reports, and the cause. -/
  | job (key : Key) (exitCode : Int) (fault : JobFault)
  /-- An error known only by its text. -/
  | plain (text : String)
  deriving Repr, DecidableEq, Inhabited

namespace ResultError

/-- The text of an error. A job that exited names its status, any other job error its cause. -/
def message : ResultError → String
  | job k code .exited => "job " ++ k.render ++ ": exit status " ++ toString code
  | job k _ (.timedOut d) => "job " ++ k.render ++ ": job timed out after " ++ d.render
  | job k _ .emptyCommand => "job " ++ k.render ++ ": descriptor has no command"
  | job k _ (.other t _) => "job " ++ k.render ++ ": " ++ t
  | plain t => t

/-- The view of an error. -/
def toFailure (e : ResultError) : Failure :=
  match e with
  | job _ _ .exited => { message := e.message, classes := [.jobFailed], job := true }
  | job _ _ (.timedOut _) => { message := e.message, classes := [.jobTimeout], job := true }
  | job _ _ .emptyCommand => { message := e.message, classes := [.emptyCommand], job := true }
  | job _ _ (.other _ cs) => { message := e.message, classes := cs, job := true }
  | plain t => Failure.plain t

end ResultError

/-- The outcome of one job. -/
structure JobResult where
  /-- The job that ran. -/
  job : Job := default
  /-- The exit status; `-1` when the job never exited by itself. -/
  exitCode : Int := 0
  /-- The captured standard output, cut at the output cap. -/
  stdout : String := ""
  /-- The captured standard error, cut at the output cap. -/
  stderr : String := ""
  /-- Whether either stream reached the cap. -/
  truncated : Bool := false
  /-- Whether the job's own time limit killed it. -/
  timedOut : Bool := false
  /-- Why the job did not finish well. -/
  error : Option ResultError := none
  deriving Repr, Inhabited

namespace JobResult

/-- Whether the job failed: an error, a timeout, or a non-zero status. -/
def failed (r : JobResult) : Bool :=
  r.error.isSome || r.timedOut || r.exitCode != 0

/-- The standard output followed by the standard error. -/
def output (r : JobResult) : String := r.stdout ++ r.stderr

/-- The state of a result: `timeout`, `ok`, `failed` (positive status) or `error`. -/
def status (r : JobResult) : String :=
  if r.timedOut then "timeout"
  else if r.error.isNone && r.exitCode == 0 then "ok"
  else if r.exitCode > 0 then "failed"
  else "error"

/-- Why the job failed, empty when it did not. -/
def reason (r : JobResult) : String :=
  if !r.failed then ""
  else match r.error with
    | some e => e.message
    | none => "exit status " ++ toString r.exitCode

/-- The trailer of the job's log, for a run whose time limit is `limit`. -/
def statusLine (r : JobResult) (limit : Duration) : String :=
  match r.status with
  | "ok" => "exit 0"
  | "timeout" => "timed out after " ++ limit.render
  | "failed" => "exit " ++ toString r.exitCode
  | _ => "error: " ++ r.reason

end JobResult

namespace Batch

/-- The positions of the results that failed; absent results are skipped. -/
def failures (rs : List (Option JobResult)) : List Nat :=
  rs.zipIdx.filterMap fun (r, i) => match r with
    | some r => if r.failed then some i else none
    | none => none

/-- How many results did not fail. -/
def succeeded (rs : List (Option JobResult)) : Nat :=
  (rs.filter fun r => match r with
    | some r => !r.failed
    | none => false).length

end Batch

end PredictorSweep
