import PredictorSweep.Shell.Format
import PredictorSweep.Files.Tree
/-!
# The state of a running shell

A job's processes share a world: a clock in nanoseconds since the job started, the writes made to
the job's standard output and error with the time of each, the working directory's files, the
buffer of the innermost command substitution or pipe, and the environment the job was given.

Each shell has its own state: its name (`$0`), positional parameters, variables and which of them
are exported, the status of the last command, where each output descriptor goes, the input not
yet read, the line being run, and whether a failing command ends it.

Running stops early for `exit`, for a signal, for `break` and `continue`, and when the step
budget runs out, which stands for a run that does not end.

Main definitions:

- `Sink`, `Write`, `World`, `Proc`, `Stop`, `ShellM`;
- `write`, `complain`, `lookup`, `assign`.
-/

namespace PredictorSweep.Shell

/-- Where the writes to an output descriptor go. -/
inductive Sink where
  /-- The job's standard output (1) or standard error (2). -/
  | stream (n : Nat)
  /-- The end of a file of the working directory. -/
  | file (path : String)
  /-- Nowhere. -/
  | discard
  /-- The buffer of the innermost command substitution or pipe. -/
  | capture
  deriving Repr, DecidableEq, Inhabited

/-- A write to the job's standard output or error. -/
structure Write where
  /-- The time of the write, in nanoseconds since the job started. -/
  time : Nat
  /-- The stream: 1 for output, 2 for error. -/
  stream : Nat
  /-- The text written. -/
  text : String
  deriving Repr, Inhabited

/-- What the shells of one job share. -/
structure World where
  /-- Nanoseconds since the job started. -/
  clock : Nat := 0
  /-- The writes to the job's streams, in order. -/
  writes : Array Write := #[]
  /-- The working directory. -/
  files : FileTree := {}
  /-- The buffer of the innermost command substitution or pipe. -/
  captured : String := ""
  /-- The environment the job was given. -/
  env : List (String × String) := []
  deriving Inhabited

/-- One shell's own state. -/
structure Proc where
  /-- The shell's name, `$0`, also the prefix of its complaints. -/
  name : String := "sh"
  /-- The positional parameters. -/
  params : List String := []
  /-- The variables. -/
  vars : List (String × String) := []
  /-- The names of the exported variables. -/
  exported : List String := []
  /-- The status of the last command. -/
  status : Nat := 0
  /-- Where output descriptors go. -/
  fds : List (Nat × Sink) := [(1, .stream 1), (2, .stream 2)]
  /-- The input not yet read. -/
  stdin : String := ""
  /-- The line of the script being run. -/
  line : Nat := 1
  /-- Whether a failing command ends the shell. -/
  errexit : Bool := false
  deriving Inhabited

/-- A shell: the shared world and its own state. -/
structure ShellState where
  /-- What the job's processes share. -/
  world : World
  /-- This shell's own state. -/
  proc : Proc
  deriving Inhabited

/-- Why running stopped early. -/
inductive Stop where
  /-- An `exit` with a status, or a fatal error. -/
  | exit (code : Nat)
  /-- A signal, by its description. -/
  | signal (name : String)
  /-- A `break` out of `n` loops. -/
  | breakLoop (n : Nat)
  /-- A `continue` with the `n`th enclosing loop. -/
  | continueLoop (n : Nat)
  /-- The step budget ran out: the run would not end. -/
  | exhausted
  deriving Repr, Inhabited

/-- Running a shell: the state survives an early stop. -/
abbrev ShellM := ExceptT Stop (StateM ShellState)

/-- The process number a shell reports for `$$`. -/
def selfPid : Nat := 4242

/-- The shell's own state. -/
def getProc : ShellM Proc := do pure (← get).proc

/-- Changes the shell's own state. -/
def modifyProc (f : Proc → Proc) : ShellM Unit :=
  modify fun s => { s with proc := f s.proc }

/-- Changes the shared world. -/
def modifyWorld (f : World → World) : ShellM Unit :=
  modify fun s => { s with world := f s.world }

/-- Sets the status of the last command. -/
def setStatus (n : Nat) : ShellM Unit := modifyProc fun p => { p with status := n }

/-- Writes text to an output descriptor; a descriptor with no sink discards it. -/
def write (fd : Nat) (text : String) : ShellM Unit := do
  if text.isEmpty then return
  let p ← getProc
  match p.fds.lookup fd with
  | some (.stream n) =>
    modifyWorld fun w => { w with writes := w.writes.push ⟨w.clock, n, text⟩ }
  | some (.file path) =>
    modifyWorld fun w =>
      let old := match w.files.readFile path with | .ok c => c | .error _ => ""
      match w.files.create path (old ++ text) with
      | .ok t => { w with files := t }
      | .error _ => w
  | some .capture => modifyWorld fun w => { w with captured := w.captured ++ text }
  | _ => pure ()

/-- Writes a complaint to standard error: the shell's name, the line, and the message. -/
def complain (msg : String) : ShellM Unit := do
  let p ← getProc
  write 2 (p.name ++ ": " ++ toString p.line ++ ": " ++ msg ++ "\n")

/-- The value of a variable: the shell's own, else the environment's. -/
def lookup (name : String) : ShellM (Option String) := do
  let s ← get
  match s.proc.vars.lookup name with
  | some v => pure (some v)
  | none => pure (s.world.env.lookup name)

/-- Sets a variable. -/
def assign (name value : String) : ShellM Unit :=
  modifyProc fun p =>
    if p.vars.any (·.1 == name) then
      { p with vars := p.vars.map fun (k, v) => if k == name then (k, value) else (k, v) }
    else { p with vars := p.vars ++ [(name, value)] }

/-- Removes a variable. -/
def unassign (name : String) : ShellM Unit :=
  modifyProc fun p => { p with vars := p.vars.filter (·.1 != name) }

/-- The environment a child process gets: the job's, then the exported variables. -/
def childEnv : ShellM (List (String × String)) := do
  let s ← get
  let exported := s.proc.vars.filter fun (k, _) => s.proc.exported.contains k
  pure (exported ++ s.world.env.filter fun (k, _) => !exported.any (·.1 == k))

/-- Advances the clock. -/
def elapse (nanos : Nat) : ShellM Unit := modifyWorld fun w => { w with clock := w.clock + nanos }

end PredictorSweep.Shell
