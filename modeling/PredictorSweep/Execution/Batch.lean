import PredictorSweep.Execution.Launch
import PredictorSweep.Context
import PredictorSweep.Text.Bytes
import PredictorSweep.Execution.Capture
/-!
# Running a batch of jobs

A batch runs every job and waits for all of them; a job that fails never stops the others, and its
result carries the reason. Results are kept in the order of the jobs.

Jobs are launched in order. A launch may first wait for the launch rate, which allows one launch
and then one more every interval; a launch that would have to wait past the context's deadline,
or that finds the context done, does not happen ("not launched"). A launch then waits for one of
a fixed number of workers to be free, and the job runs on it.

A job first makes its scratch directory, then its log's directory and the log, which starts with
the command line. A job without a command fails at once. Otherwise its program is looked up and
started on the host (a name not on the search path, a context already done, or a path that does
not name a program that may be run stops it there), and it runs as the host runs it until it ends,
or until it is killed: at the job's time limit, if there is one, or at the context's deadline,
whichever comes first. Its output
goes both to the log, in full and in the order written, and to one capture per stream, each cut
at the output cap. The log ends with a trailer naming how the job ended.

A job killed at its own time limit, while the context is not done, timed out. A job that exited
with a positive status failed with that status. Any other error is the job's; when the context is
done by then, its error is named first.

Time is counted in nanoseconds from the start of the batch; only the jobs' own waiting takes time.

Main definitions:

- `ExecutorSettings`;
- `logStep`, `makeLog`, `openLog`, `pipeChunks`, `runJob`, `notLaunched`;
- `runBatch`: the results of a batch, the working directory after it, and its end.
-/

namespace PredictorSweep

/-- How a batch is run. -/
structure ExecutorSettings where
  /-- How many jobs may run at once; `make` takes it from the options and the machine. -/
  workers : Nat := 1
  /-- The time limit of each job; zero for none. -/
  timeout : Duration := ⟨0⟩
  /-- The nanoseconds between launches, when launches are limited. -/
  launchInterval : Option Nat := none
  /-- The bytes kept of each output stream. -/
  maxOutput : Nat := 16 * 1024 * 1024
  /-- The variables added to each job's environment, as `NAME=VALUE`. -/
  env : List String := []
  deriving Repr, Inhabited

namespace ExecutorSettings

/-- Settings from the options of a batch on a machine with some processors: fewer than one worker
means one per processor; an output cap that is not positive keeps the default; a launch rate that
is not positive sets no limit. -/
def make (processors : Nat) (concurrency : Int) (timeout : Duration) (maxOutput : Int)
    (env : List String) (rate : Option Float) : ExecutorSettings :=
  { workers := if concurrency < 1 then processors else concurrency.toNat
    timeout
    launchInterval := rate.bind fun r => if r ≤ 0 then none else some (1.0 / r * 1e9).toUInt64.toNat
    maxOutput := if maxOutput > 0 then maxOutput.toNat else 16 * 1024 * 1024
    env }

/-- The environment additions as pairs; entries without `=` are left out. -/
def envPairs (s : ExecutorSettings) : List (String × String) :=
  s.env.filterMap fun e => match e.splitOn "=" with
    | n :: v :: rest => some (n, "=".intercalate (v :: rest))
    | _ => none

/-- The time limit in nanoseconds, when there is one. -/
def limit (s : ExecutorSettings) : Option Nat :=
  if s.timeout.nanos > 0 then some s.timeout.nanos.toNat else none

end ExecutorSettings

/-- The header of a job's log: its command line, written as text. -/
def logHeader (j : Job) : String := "# command: " ++ j.commandLine.toText ++ "\n"

/-- One step of making a job's log: a file error becomes the job's fault, its text prefixed by
what was being done, with the tree as it was before the step. -/
def logStep (files : FileTree) (what : String) (r : Except FileError FileTree) :
    Except (FileTree × JobFault) FileTree :=
  match r with
  | .ok t => .ok t
  | .error e => .error (files, .other (what ++ e.message) e.classes)

/-- Makes a job's scratch directory, its log's directory and its log, in that order. -/
def makeLog (files : FileTree) (j : Job) : Except (FileTree × JobFault) FileTree := do
  let files ← if j.scratchDir == "" then pure files
    else logStep files "creating scratch dir: " (files.mkdirAll j.scratchDir)
  if j.logPath == "" then throw (files, .other ("descriptor " ++ j.name ++ " has no log path") [])
  let files ← logStep files "creating log dir: " (files.mkdirAll (Path.dir j.logPath))
  logStep files "creating job log: " (files.create j.logPath (logHeader j))

/-- A job's log: made with its scratch directory and its directory. The tree keeps what was made
before a step failed. -/
def openLog (files : FileTree) (j : Job) : FileTree × Option JobFault :=
  match makeLog files j with
  | .ok t => (t, none)
  | .error (t, f) => (t, some f)

/-- The tree with a job's log holding its header, the output and the trailer. -/
def closeLog (files : FileTree) (j : Job) (output trailer : String) : FileTree :=
  match files.create j.logPath (logHeader j ++ output ++ "\n# status: " ++ trailer ++ "\n") with
  | .ok t => t
  | .error _ => files

/-- A result that ended in an error of the job before it produced anything. -/
def JobResult.broken (j : Job) (fault : JobFault) : JobResult :=
  { job := j, exitCode := -1, error := some (.job j.key (-1) fault) }

/-- The text of everything written to one stream. -/
def streamText (ws : List Shell.Write) (n : Nat) : String :=
  String.join ((ws.filter (·.stream == n)).map (·.text))

/-- The bytes a pipe delivers from one stream, write by write; a write of no bytes delivers
nothing. -/
def pipeChunks (ws : List Shell.Write) (n : Nat) : List (List UInt8) :=
  ((ws.filter (·.stream == n)).map (Text.bytes ·.text)).filter (!·.isEmpty)

/-- What a started program did, as the executor sees it. -/
structure Exit where
  /-- The writes made before the program ended or was killed. -/
  writes : List Shell.Write
  /-- The exit status, when the program exited by itself. -/
  status : Option Nat
  /-- The error of the run: a status other than zero, or how it was stopped. -/
  error : Option String
  /-- The time the program ended or was killed. -/
  stop : Nat
  /-- The working directory afterwards. -/
  files : FileTree

/-- Runs a program started at `start` on a host until it ends or is killed at `kill`. -/
def runProgram (host : Host) (s : ExecutorSettings) (files : FileTree) (prog : Bytes)
    (args : List Bytes) (start : Nat) (kill : Option Nat) : Exit :=
  let trace := host.run files s.envPairs prog args
  let finish := start + trace.duration
  let killedAt := match kill, trace.ending with
    | some k, .endless => some k
    | some k, _ => if finish < k then none else some k
    | none, .endless => some finish
    | none, _ => none
  match killedAt with
  | some k =>
    { writes := trace.writes.filter fun w => start + w.time < k, status := none,
      error := some "signal: killed", stop := k, files := trace.files }
  | none =>
    let (status, error) : Option Nat × Option String := match trace.ending with
      | .exited 0 => (some 0, none)
      | .exited c => (some c, some ("exit status " ++ toString c))
      | .signaled d => (none, some ("signal: " ++ d))
      | .endless => (none, some "signal: killed")
    { writes := trace.writes, status, error, stop := finish, files := trace.files }

/-- Why a program cannot be started on a host at `start`, if it cannot: a name not on the search
path, a context already done, or a path that names no program that may be run. -/
def launchError (host : Host) (ctx : RunContext) (files : FileTree) (prog : Bytes) (start : Nat) :
    Option (String × List ErrorClass) :=
  if !prog.data.contains '/'.toUInt8 then
    if host.onPath prog then (ctx.errorAt start).map fun e => (e, [])
    else some ((LaunchError.notInPath prog).message, [])
  else match ctx.errorAt start with
    | some e => some (e, [])
    | none => match host.exec files prog with
      | some (.cannotExec e) => some (e.message, e.classes)
      | some e => some (e.message, [])
      | none => none

/-- Runs one job started at `start` on a host with its log open: the result, the log's output,
the tree after it, and the time it ended. -/
def runCommand (host : Host) (s : ExecutorSettings) (ctx : RunContext) (files : FileTree)
    (j : Job) (prog : Bytes) (args : List Bytes) (start : Nat) :
    JobResult × String × FileTree × Nat :=
  let kill : Option Nat := match s.limit.map (start + ·), ctx.expiry with
    | some a, some b => some (min a b)
    | some a, none => some a
    | none, b => b
  -- the error's text and the classes it keeps, whether it was a positive exit, and the run
  let (err, e) : Option (String × List ErrorClass) × Exit :=
    match launchError host ctx files prog start with
    | some le => (some le, { writes := [], status := none, error := none, stop := start, files })
    | none =>
      let e := runProgram host s files prog args start kill
      (e.error.map fun t => (t, []), e)
  let out := streamText e.writes 1
  let errText := streamText e.writes 2
  let base : JobResult :=
    { job := j, stdout := Text.bytePrefix out s.maxOutput,
      stderr := Text.bytePrefix errText s.maxOutput,
      truncated := (capture s.maxOutput (pipeChunks e.writes 1)).truncated ||
        (capture s.maxOutput (pipeChunks e.writes 2)).truncated }
  let output := String.join (e.writes.map (·.text))
  let ownLimitPassed := match s.limit with
    | some l => start + l ≤ e.stop
    | none => false
  let r : JobResult := match err with
    | none => { base with exitCode := 0 }
    | some (text, classes) =>
      if ownLimitPassed && !ctx.doneAt e.stop then
        { base with timedOut := true, exitCode := -1,
                    error := some (.job j.key (-1) (.timedOut s.timeout)) }
      else match e.status with
        | some c =>
          if c > 0 then { base with exitCode := c, error := some (.job j.key c .exited) }
          else { base with exitCode := 0 }
        | none =>
          let fault : JobFault := match ctx.errorAt e.stop with
            | some ce => .other (ce ++ ": " ++ text) []
            | none => .other text classes
          { base with exitCode := -1, error := some (.job j.key (-1) fault) }
  (r, output, e.files, e.stop)

/-- Runs one job started at `start` on a host: its result, the tree after it, and the time it
ended. -/
def runJob (host : Host) (s : ExecutorSettings) (ctx : RunContext) (files : FileTree) (j : Job)
    (start : Nat) : JobResult × FileTree × Nat :=
  match openLog files j with
  | (files, some fault) => (JobResult.broken j fault, files, start)
  | (files, none) =>
    match j.command with
    | [] =>
      let r := JobResult.broken j .emptyCommand
      (r, closeLog files j "" (r.statusLine s.timeout), start)
    | prog :: args =>
      let (r, output, files, stop) := runCommand host s ctx files j prog args start
      (r, closeLog files j output (r.statusLine s.timeout), stop)

/-- The result of a job that was never launched, for the cause; its log is made when it can be. -/
def notLaunched (s : ExecutorSettings) (files : FileTree) (j : Job) (cause : String) :
    JobResult × FileTree :=
  let r := JobResult.broken j (.other ("not launched: " ++ cause) [])
  match openLog files j with
  | (files, some _) => (r, files)
  | (files, none) => (r, closeLog files j "" (r.statusLine s.timeout))

/-- The state of a batch between launches. -/
structure Launcher where
  /-- The time the launching has reached. -/
  clock : Nat := 0
  /-- The time each worker is free from. -/
  free : List Nat
  /-- The earliest time the launch rate allows the next launch, after the first. -/
  nextLaunch : Option Nat := none
  /-- The working directory. -/
  files : FileTree
  /-- The results so far. -/
  results : Array JobResult := #[]

/-- Launches one job on a host, or records that it was not launched. -/
def Launcher.launch (host : Host) (s : ExecutorSettings) (ctx : RunContext) (l : Launcher)
    (j : Job) : Launcher :=
  let admitted : Except String Launcher := match s.launchInterval with
    | none => .ok l
    | some gap =>
      match ctx.errorAt l.clock with
      | some e => .error e
      | none =>
        let at0 := match l.nextLaunch with
          | some n => max l.clock n
          | none => l.clock
        match ctx.expiry with
        | some d =>
          if at0 > d then .error "rate: Wait(n=1) would exceed context deadline"
          else .ok { l with clock := at0, nextLaunch := some (at0 + gap) }
        | none => .ok { l with clock := at0, nextLaunch := some (at0 + gap) }
  match admitted with
  | .error cause =>
    let (r, files) := notLaunched s l.files j cause
    { l with files, results := l.results.push r }
  | .ok l =>
    let first := l.free.foldl min (l.free.headD 0)
    let start := max l.clock first
    let (r, files, stop) := runJob host s ctx l.files j start
    { l with clock := start, free := l.free.erase first ++ [stop], files,
             results := l.results.push r }

/-- Runs a batch of jobs on a host in a working directory: the results in job order, the tree
after it, and the time the last job ended. -/
def runBatch (host : Host) (s : ExecutorSettings) (ctx : RunContext) (files : FileTree)
    (jobs : List Job) : Except String (List JobResult × FileTree × Nat) :=
  if ctx == .absent then .error RunContext.absentMessage
  else
    let l := jobs.foldl (Launcher.launch host s ctx)
      { free := List.replicate (max s.workers 1) 0, files }
    .ok (l.results.toList, l.files, l.free.foldl max l.clock)

end PredictorSweep
