import PredictorSweep.Cli.Program
import PredictorSweep.Cli.Report
import PredictorSweep.Settings.Load
import PredictorSweep.Settings.Write
import PredictorSweep.Log.Logger
import PredictorSweep.Sweep.Ingest
import PredictorSweep.Sweep.Run
import PredictorSweep.Store.Open
import PredictorSweep.Telemetry
/-!
# One invocation of the sweep tool

An invocation is the tool called with its arguments in a working directory, with an environment,
and with what the outside world decides: the run's identifier, when it started, how long it took,
today's date, the suffix of a temporary file and how programs run. Its answer is the exit code, what was written to
standard output and standard error, and the working directory after it.

A command that fails writes `Error: ` and its message to standard error and exits with 1; its
output up to the failure stays written.

The commands that read settings first load them (from the file `--config` names, or the defaults),
then apply `--log-level` and `--log-dir`, check the level, open the log directory (a failure there
only turns file logging off, with a notice on standard error), and pick the console style:
`--output`, else the `BPSWEEP_OUTPUT` setting, else plain.

- `run` refuses an unknown report format first, then applies the flags that were given to the
  settings, checks them again, starts telemetry, opens the store when the settings name one, runs
  the sweep's jobs as processes, reports the outcome and writes the metrics file when asked. Once
  the sweep has ended, however what follows ends, telemetry is shut down; the collector's refusal
  of the spans is only a warning record on standard error. Of the records a run logs, this
  warning is the one written here: the others carry times and identifiers of the machine.
- `generate` prints each job's command line, after its log path with `--logs`.
- `ingest` reports on the logs of a directory, the results directory by default.
- `init-config` writes the default settings, to `bpsweep.yaml` by default, refusing to replace a
  file unless forced.
- `help` shows the help of the command its arguments name, or the root's usage for a topic it
  does not know.

Main definitions:

- `Invocation`, `Answer`, `Workspace`, `Session`;
- `Invocation.answer`: the answer of an invocation.
-/

namespace PredictorSweep.Cli

/-- The tool called in a working directory, with what the outside world decides. -/
structure Invocation where
  /-- The arguments after the tool's name. -/
  args : List String
  /-- The working directory. -/
  files : FileTree := {}
  /-- The environment's settings. -/
  env : List (String × String) := []
  /-- The processors of the machine. -/
  processors : Nat
  /-- The run's identifier. -/
  runId : String
  /-- When the run started, as written. -/
  started : String
  /-- How long the run took. -/
  elapsed : Duration := ⟨0⟩
  /-- Today's date as `YYYY-MM-DD`. -/
  today : String
  /-- The suffix that makes a temporary file's name unique. -/
  tempSuffix : String
  /-- How the machine finds and runs programs. -/
  host : Host := Host.shell
  /-- How the trace collector answers a batch of spans sent to it. -/
  collector : Nat → Except String Unit := fun _ => .ok ()
  deriving Inhabited

/-- The value of an environment setting, empty when unset. -/
def Invocation.setting (inv : Invocation) (name : String) : String :=
  (inv.env.lookup name).getD ""

/-- What an invocation has changed so far: the working directory and the two output streams. -/
structure Workspace where
  /-- The working directory. -/
  files : FileTree
  /-- Standard output. -/
  stdout : String := ""
  /-- Standard error. -/
  stderr : String := ""
  deriving Inhabited

/-- A step of an invocation: it changes the workspace, and may fail with a message, keeping what
it wrote before. -/
abbrev Session := ExceptT String (StateM Workspace)

/-- Writes to standard output. -/
def say (s : String) : Session Unit :=
  modify fun w => { w with stdout := w.stdout ++ s }

/-- Writes to standard error. -/
def note (s : String) : Session Unit :=
  modify fun w => { w with stderr := w.stderr ++ s }

/-- The working directory. -/
def workingFiles : Session FileTree := do return (← get).files

/-- Replaces the working directory. -/
def setFiles (files : FileTree) : Session Unit :=
  modify fun w => { w with files }

/-- A result, or its error's message as the step's failure. -/
def orFail {α ε : Type} (message : ε → String) : Except ε α → Session α
  | .ok a => pure a
  | .error e => throw (message e)

/-- The settings a file holds, or the defaults when no file is named. -/
def readSettings (files : FileTree) (path : String) : Except LoadError Settings :=
  if path.isEmpty then Settings.load .defaults
  else match files.readFile path with
    | .ok text => Settings.load (.file path text)
    | .error e => Settings.load (.unreadable e.message (e.errno == .notFound))

/-- Opens the day's log file of a service in a directory; a failure turns file logging off with a
notice. -/
def startLogging (inv : Invocation) (dir service : String) : Session Unit := do
  match openLogFile (← workingFiles) dir service inv.today with
  | .ok (files, _, _) => setFiles files
  | .error why => note ("logging: file logging disabled: " ++ why ++ "\n")

/-- The settings and console style a command works with. -/
structure Prepared where
  /-- The settings, with the flags applied. -/
  settings : Settings
  /-- The console style. -/
  mode : Console.Mode

/-- Loads the settings, applies the logging flags, opens logging and picks the console style. -/
def prepare (inv : Invocation) (r : FlagReading) : Session Prepared := do
  let s ← orFail LoadError.message (readSettings (← workingFiles) (r.text "config"))
  let s := if (r.text "log-level").isEmpty then s else { s with logging.level := r.text "log-level" }
  let s := if (r.text "log-dir").isEmpty then s else { s with logging.dir := r.text "log-dir" }
  let _ ← orFail (fun e => "--log-level: " ++ e.toFailure.message) (Level.parse s.logging.level)
  if !s.logging.dir.isEmpty then startLogging inv s.logging.dir s.telemetry.serviceName
  let output := r.text "output"
  let mode ← match Console.Mode.parse output with
    | some m => pure m
    | none =>
      if output.isEmpty then pure (Console.Mode.detect (inv.setting "BPSWEEP_OUTPUT"))
      else throw ("--output: unknown style " ++ Text.quote output)
  pure { settings := s, mode }

/-- Writes an outcome's report in a format. -/
def report (inv : Invocation) (mode : Console.Mode) (format : ReportFormat) (o : Outcome) :
    Session Unit := do
  let stamp : RunStamp := { runId := inv.runId, started := inv.started, duration := inv.elapsed }
  match format with
  | .table => say (String.join ((outcomeMessages stamp o).map (·.render mode)))
  | .json => say (← orFail id (outcomeJson stamp o))
  | .yaml => say (outcomeYaml stamp o)

/-- The settings with the `run` flags that were given applied. -/
def withRunFlags (s : Settings) (r : FlagReading) : Settings :=
  let s := if r.changed "concurrency" then { s with execution.concurrency := r.integer "concurrency" }
    else s
  let s := if r.changed "timeout" then { s with execution.timeout := r.duration "timeout" } else s
  let s := if r.changed "store" then { s with store.path := r.text "store" } else s
  if r.changed "resume" then { s with store.resume := r.switch "resume" } else s

/-- How the sweep's jobs are run under some settings. -/
def executorFor (inv : Invocation) (s : Settings) : ExecutorSettings :=
  ExecutorSettings.make inv.processors s.execution.concurrency s.execution.timeout
    s.execution.maxOutputBytes
    (inv.env.map fun (k, v) => k ++ "=" ++ v) (some s.execution.launchRate)

/-- The spans a sweep ends: its own, its batch's, and one for each job it hands to the runner. -/
def sweepSpans (swept : SweepRun) : Nat := 2 + swept.asked.length

/-- Shuts telemetry down after a sweep. A failure does not fail the command: the logger writes it
as a warning record on standard error, unless the settings' level is above warnings. -/
def shutDownTelemetry (inv : Invocation) (s : Settings) (t : Telemetry) (spans : Nat) :
    Session Unit :=
  match t.shutdown inv.collector spans with
  | .ok () => pure ()
  | .error why =>
    let least := match Level.parse s.logging.level with
      | .ok l => l
      | .error _ => .info
    let shape : LogShape := if s.telemetry.serviceName.isEmpty then {}
      else LogShape.withAttrs {} [("service", .str s.telemetry.serviceName)]
    if least.number ≤ Level.warn.number then
      note (shape.line inv.started .warn "Telemetry shutdown failed" [("error", .str why)])
    else pure ()

/-- The `run` command. -/
def runAction (inv : Invocation) (r : FlagReading) : Session Unit := do
  let format ← orFail id (ReportFormat.parse (r.text "format" "table"))
  let p ← prepare inv r
  let s := withRunFlags p.settings r
  match s.problems with
  | [] => pure ()
  | ps => throw ("; ".intercalate ps)
  let tel := TelemetryConfig.ofEnv inv.setting
  let tel := { tel with serviceName := s.telemetry.serviceName, traces := s.telemetry.traces
                        metrics := s.telemetry.metrics
                        otlpEndpoint := if s.telemetry.otlpEndpoint.isEmpty then tel.otlpEndpoint
                          else s.telemetry.otlpEndpoint }
  let t ← orFail TelemetryError.message (tel.start .background)
  let store ← if s.store.path.isEmpty then pure none else do
    let disk : StoreDisk := { files := ← workingFiles }
    let (disk, handle) ← orFail (fun (e : OpenError) => "open result store: " ++ e.message)
      (disk.openStore { path := s.store.path })
    setFiles disk.files
    pure (some handle)
  let swept ← orFail Failure.message
    (runSweep s.setup (Runner.processes inv.host (executorFor inv s)) store s.store.resume
      .background (← workingFiles) inv.runId)
  -- telemetry is shut down once the sweep has ended, whether what follows it fails or not
  let spans := sweepSpans swept
  tryCatch
    (do
      setFiles swept.files
      report inv p.mode format swept.outcome
      let metrics := r.text "metrics-out"
      if !metrics.isEmpty then
        setFiles (← orFail id (writeMetricsFile (← workingFiles) metrics inv.tempSuffix "")))
    fun e => do
      shutDownTelemetry inv s t spans
      throw e
  shutDownTelemetry inv s t spans

/-- The `generate` command. -/
def generateAction (inv : Invocation) (r : FlagReading) : Session Unit := do
  let p ← prepare inv r
  let jobs ← orFail SetupError.message p.settings.setup.plan
  say (String.join (jobs.map fun j =>
    (if r.switch "logs" then j.logPath ++ "\t" else "") ++ j.commandLine.toText ++ "\n"))

/-- The `ingest` command. -/
def ingestAction (inv : Invocation) (r : FlagReading) : Session Unit := do
  let format ← orFail id (ReportFormat.parse (r.text "format" "table"))
  let p ← prepare inv r
  let dir := r.args.headD p.settings.simulator.resultsDir
  let o ← orFail Failure.message (ingest .background (← workingFiles) dir)
  report inv p.mode format o

/-- The `init-config` command. -/
def initConfigAction (r : FlagReading) : Session Unit := do
  let path := r.args.headD "bpsweep.yaml"
  let files ← workingFiles
  if !r.switch "force" then
    match files.stat path with
    | .ok _ => throw (path ++ " already exists (use --force to overwrite)")
    | .error e => if e.errno != .notFound then throw e.message
  setFiles (← orFail (fun (e : FileError) => "write config: " ++ e.message)
    (files.create path Settings.defaults.render))
  say ("Wrote default configuration to " ++ path ++ "\n")

/-- Whether a text can be shown between backquotes: no backquote, no byte order mark, and no
control character but the tab. -/
def canBackquote (s : String) : Bool :=
  s.toList.all fun c =>
    c != '\x60' && c != '\x7F' && c != '\uFEFF' && (c.toNat ≥ 0x20 || c == '\t')

/-- Help topics as a list of quoted words. -/
def showTopics (args : List String) : String :=
  "[" ++ " ".intercalate (args.map fun a =>
    if canBackquote a then "\x60" ++ a ++ "\x60" else Text.quote a) ++ "]"

/-- The `help` command. -/
def helpAction (r : FlagReading) : Session Unit :=
  match sweepTool.find r.args with
  | .ok (path, _) => say (sweepTool.helpText path)
  | .error _ =>
    say ("Unknown help topic " ++ showTopics r.args ++ "\n" ++ sweepTool.usageText [] false)

/-- Runs the command at a path. -/
def perform (inv : Invocation) (path : List String) (r : FlagReading) : Session Unit :=
  match path with
  | ["run"] => runAction inv r
  | ["generate"] => generateAction inv r
  | ["ingest"] => ingestAction inv r
  | ["init-config"] => initConfigAction r
  | ["help"] => helpAction r
  | _ => pure ()

/-- The session an invocation's arguments ask for. -/
def Invocation.session (inv : Invocation) : Session Unit :=
  match sweepTool.dispatch inv.args with
  | .show text => say text
  | .fail m => throw m
  | .invoke path r => perform inv path r

/-- What an invocation ends with. -/
structure Answer where
  /-- The exit code. -/
  exitCode : Nat
  /-- Standard output. -/
  stdout : String
  /-- Standard error. -/
  stderr : String
  /-- The working directory after it. -/
  files : FileTree
  deriving Inhabited

/-- The answer of an invocation: a failure adds its message to standard error and exits with 1. -/
def Invocation.answer (inv : Invocation) : Answer :=
  let (result, w) := (inv.session.run).run { files := inv.files }
  match result with
  | .ok () => { exitCode := 0, stdout := w.stdout, stderr := w.stderr, files := w.files }
  | .error m =>
    { exitCode := 1, stdout := w.stdout, stderr := w.stderr ++ "Error: " ++ m ++ "\n"
      files := w.files }

end PredictorSweep.Cli
