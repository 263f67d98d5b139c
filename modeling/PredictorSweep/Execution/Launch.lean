import PredictorSweep.Execution.Result
import PredictorSweep.Shell.Run
import PredictorSweep.Text.Quoted
/-!
# Launching a program

A job's command names its program: a name without `/` is looked up among the programs on the
search path, and a path must name a file that may be run. A program that starts runs to its end:
the trace of the run holds its writes to standard output and error with their times, how it ended
(an exit status, a signal, or never), how long it took, and the working directory after it.

What the system does with a program is a `Host`: which names the search path finds, why a path
cannot be run, and how a started program runs. A batch of jobs is run the same way on any host.
`Host.shell` is the host of this model, where every program is a shell script: a file whose first
line is `#!` and a shell runs in the shell; a file without that line cannot be run ("exec format
error"), and one that names another interpreter is taken to have none.

Main definitions:

- `Ending`, `Trace`, `Trace.run`;
- `LaunchError`, `checkProgram`;
- `Host`, `Host.shell`.
-/

namespace PredictorSweep

/-- How a process ended. -/
inductive Ending where
  /-- It exited with a status. -/
  | exited (code : Nat)
  /-- A signal stopped it, by the signal's description. -/
  | signaled (desc : String)
  /-- It does not end by itself. -/
  | endless
  deriving Repr, DecidableEq, Inhabited

/-- A process's run. -/
structure Trace where
  /-- The writes to standard output and error, in order, timed from the start. -/
  writes : List Shell.Write
  /-- How the process ended. -/
  ending : Ending
  /-- Nanoseconds from the start to the end. -/
  duration : Nat
  /-- The working directory after the run. -/
  files : FileTree
  deriving Inhabited

/-- The budget of steps a run may take. -/
def stepBudget : Nat := 20000

/-- Runs a program with its arguments in a working directory with an environment. -/
def Trace.run (files : FileTree) (env : List (String × String)) (prog : String)
    (args : List String) : Trace :=
  let start : Shell.ShellState := { world := { files, env }, proc := {} }
  let (r, s) := (Shell.startProgram stepBudget prog args).run.run start
  let ending : Ending := match r with
    | .ok () => .exited s.proc.status
    | .error (.exit c) => .exited c
    | .error (.signal d) => .signaled d
    | .error .exhausted => .endless
    | .error _ => .exited s.proc.status
  { writes := s.world.writes.toList, ending, duration := s.world.clock, files := s.world.files }

/-- The programs found on the search path. -/
def pathPrograms : List String :=
  ["sh", "bash", "dash", "echo", "printf", "cat", "sleep", "true", "false", "test", "[", "kill"]

/-- Why a program could not be started. -/
inductive LaunchError where
  /-- A name without `/` that is not on the search path. -/
  | notInPath (name : Bytes)
  /-- A path that does not name a file that may be run. -/
  | cannotExec (e : FileError)
  /-- A file that is not a script of a known interpreter. -/
  | badFormat (path : String)
  deriving Repr, Inhabited

/-- The text of a launch error. -/
def LaunchError.message : LaunchError → String
  | .notInPath n => "exec: " ++ Text.quoteBytes n ++ ": executable file not found in $PATH"
  | .cannotExec e => e.message
  | .badFormat p => "fork/exec " ++ p ++ ": exec format error"

/-- Checks that a path names a program that can be run. -/
def checkProgram (files : FileTree) (path : String) : Option LaunchError :=
  match files.program path with
  | .error e => some (.cannotExec e)
  | .ok src =>
    match Shell.interpreter src with
    | none => some (.badFormat path)
    | some i => if Shell.isShell i then none else some (.cannotExec ⟨"fork/exec", path, .notFound⟩)

/-- What the system does with the programs a batch starts. -/
structure Host where
  /-- Whether a name without `/` is found among the programs on the search path. -/
  onPath : Bytes → Bool
  /-- Why a path does not name a program that may be run, if it does not. -/
  exec : FileTree → Bytes → Option LaunchError
  /-- The run of a started program with its environment and arguments, from a working
  directory. -/
  run : FileTree → List (String × String) → Bytes → List Bytes → Trace

/-- The host of this model: the programs on the search path are the shell's own, a path must
name a shell script, and every program runs in the shell, which reads its arguments as text. -/
def Host.shell : Host where
  onPath p := pathPrograms.contains p.toText
  exec files p := checkProgram files p.toText
  run files env p args := Trace.run files env p.toText (args.map Bytes.toText)

instance : Inhabited Host := ⟨Host.shell⟩

end PredictorSweep
