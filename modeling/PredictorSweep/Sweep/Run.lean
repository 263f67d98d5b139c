import PredictorSweep.Sweep.Outcome
import PredictorSweep.Sweep.Plan
import PredictorSweep.Execution.Batch
import PredictorSweep.Store.Basic
import PredictorSweep.Report.Parse
/-!
# Running a sweep

A sweep lists its jobs from its setup and fills one cell of the result table per job.

With a store and resuming, a job whose cell the store holds for the same command line is not
run: the stored record fills its cell. A store that cannot be asked is noted, and the job is run.

The other jobs go to a runner as one batch; a runner that fails fails the sweep. Every result the
runner gives back counts as executed and is collected in order. A failed job's cell is marked
missing with the reason, and the failure is noted. Any other result's output is parsed for its
cell's metrics, which fill the cell; with a store, a record holding every required metric is
stored under the run, and a store that refuses it is noted.

At the end, every cell of the plan that holds neither a record nor a mark is marked missing as
"no result produced", and the outcome is finished.

Main definitions:

- `Runner`, `Runner.processes`, `Runner.prepared`;
- `SweepRun`, `runSweep`.
-/

namespace PredictorSweep

/-- A way to run a batch of jobs under a context in a working directory: the results it gives
back and the working directory after, or its own failure. -/
abbrev Runner := RunContext → FileTree → List Job → Except String (List JobResult × FileTree)

namespace Runner

/-- Runs the jobs as processes on a host. -/
def processes (host : Host) (s : ExecutorSettings) : Runner := fun ctx files jobs =>
  match runBatch host s ctx files jobs with
  | .ok (rs, files, _) => .ok (rs, files)
  | .error m => .error m

/-- A result given for a job: the job is attached, and a job error names the job's cell. -/
def attach (j : Job) (r : JobResult) : JobResult :=
  let error := r.error.map fun e => match e with
    | .job _ code f => .job j.key code f
    | e => e
  { r with job := j, error }

/-- A runner that answers from prepared results: by job name from `answers`, else `fallback`;
the jobs named in `skipped` give no result; `extra` results follow the batch, each for the job
run of its name; `failure`, when given, is the runner's own failure. -/
def prepared (answers : List (String × JobResult)) (fallback : JobResult) (skipped : List String)
    (extra : List (String × JobResult)) (failure : Option String) : Runner := fun _ files jobs =>
  match failure with
  | some m => .error m
  | none =>
    let batch := (jobs.filter fun j => !skipped.contains j.name).map fun j =>
      attach j ((answers.lookup j.name).getD fallback)
    let more := extra.filterMap fun (n, r) => (jobs.find? (·.name == n)).map fun j => attach j r
    .ok (batch ++ more, files)

end Runner

/-- What a sweep produced: the outcome, the jobs handed to the runner, the store after it, and the
working directory after it. -/
structure SweepRun where
  /-- The outcome. -/
  outcome : Outcome
  /-- The jobs handed to the runner, in order. -/
  asked : List Job
  /-- The store after the sweep, when there is one. -/
  store : Option ResultStore
  /-- The working directory after the sweep. -/
  files : FileTree

/-- Fills the cells the store holds for the same command line, leaving the other jobs to run. -/
def reuseStored (ctx : RunContext) (store : ResultStore) (jobs : List Job) (o : Outcome) :
    Outcome × List Job :=
  jobs.foldl (fun (o, pending) j =>
    let (o, found) := match store.lookup ctx j with
      | .ok r => (o, r)
      | .error e =>
        (o.note { stage := .store, key := j.key,
                  reason := "lookup failed, re-running: " ++ e.message }, none)
    match found with
    | none => (o, pending ++ [j])
    | some r =>
      let (table, _) := o.table.record j.key r
      ({ o with table, reused := o.reused + 1 }, pending)) (o, [])

/-- Collects one result into the outcome and the store. -/
def collectResult (ctx : RunContext) (runId : String) (acc : Outcome × Option ResultStore)
    (r : JobResult) : Outcome × Option ResultStore :=
  let (o, store) := acc
  let key := r.job.key
  if r.failed then
    let o := { o with failed := o.failed + 1 }
    let o := o.note { stage := .execute, key, reason := r.reason }
    let (table, _) := o.table.markMissing key r.reason
    ({ o with table }, store)
  else
    let parsed := parseReport key r.output
    let o := o.noteAll parsed.diagnostics
    let (table, _) := o.table.record key parsed.record
    let o := { o with table }
    match store with
    | none => (o, none)
    | some s =>
      if !(parsed.record.missing (Metric.required.map (·.name))).isEmpty then (o, some s)
      else
        let entry : StoreEntry :=
          { key, command := r.job.commandLine, runId, record := parsed.record }
        match s.put ctx entry with
        | .ok s => (o, some s)
        | .error e => (o.note { stage := .store, key, reason := e.message }, some s)

/-- Runs a sweep: the setup's jobs, less those the store fills when resuming, go to the runner,
and their results fill the table. -/
def runSweep (setup : Setup) (runner : Runner) (store : Option ResultStore) (resume : Bool)
    (ctx : RunContext) (files : FileTree) (runId : String) : Except Failure SweepRun := do
  if ctx == .absent then throw (Failure.plain RunContext.absentMessage)
  let jobs ← match setup.plan with
    | .ok js => pure js
    | .error e => throw e.toFailure
  let o : Outcome := { jobs }
  let (o, pending) := match store with
    | some s => if resume then reuseStored ctx s jobs o else (o, jobs)
    | none => (o, jobs)
  let (results, files) ← match runner ctx files pending with
    | .ok r => pure r
    | .error m => throw (Failure.plain ("execute sweep: " ++ m))
  let o := { o with executed := results.length }
  let (o, store) := results.foldl (collectResult ctx runId) (o, store)
  let o := (o.table.incomplete (jobs.map (·.key))).foldl (fun (o : Outcome) k =>
    { o with table := (o.table.markMissing k "no result produced").1 }) o
  pure { outcome := o.finish, asked := pending, store, files }

end PredictorSweep
