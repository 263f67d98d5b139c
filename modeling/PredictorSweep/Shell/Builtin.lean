import PredictorSweep.Shell.State
import PredictorSweep.Shell.Condition
/-!
# Built-in commands

The commands a job script may call that need no other command: `echo`, `printf`, `cat`, `sleep`,
`true`, `false`, `:`, `test` and `[`, `shift`, `set`, `export`, `unset`, `kill`, `read`, `cd`,
`wait` and `exit`. Each sets the status of the last command; `exit` and a signal sent to the
shell itself stop it.

`sleep` takes numbers with an optional unit `s`, `m`, `h` or `d` and waits for their sum.
`kill` understands the signals by number or name; sent to the shell's own number it stops the
shell with that signal, and otherwise finds no process.

Main definitions:

- `signalName`: the description of a signal by number or name;
- `sleepNanos`: the time `sleep` waits;
- `builtin`: runs a built-in command, or says there is none of that name.
-/

namespace PredictorSweep.Shell

/-- The number and description of a signal, by number or name. -/
def signalName (s : String) : Option (Nat × String) :=
  let s := if s.startsWith "SIG" then (s.drop 3).toString else s
  match s with
  | "1" | "HUP" => some (1, "hangup")
  | "2" | "INT" => some (2, "interrupt")
  | "3" | "QUIT" => some (3, "quit")
  | "6" | "ABRT" => some (6, "aborted")
  | "9" | "KILL" => some (9, "killed")
  | "10" | "USR1" => some (10, "user defined signal 1")
  | "12" | "USR2" => some (12, "user defined signal 2")
  | "13" | "PIPE" => some (13, "broken pipe")
  | "14" | "ALRM" => some (14, "alarm clock")
  | "15" | "TERM" => some (15, "terminated")
  | _ => none

/-- The nanoseconds of one `sleep` operand: a decimal number and an optional unit. -/
def sleepOperand (s : String) : Option Nat :=
  let cs := s.toList
  let (body, unit) := match cs.getLast? with
    | some 's' => (cs.dropLast, 1)
    | some 'm' => (cs.dropLast, 60)
    | some 'h' => (cs.dropLast, 3600)
    | some 'd' => (cs.dropLast, 86400)
    | _ => (cs, 1)
  let whole := body.takeWhile Char.isDigit
  let rest := body.drop whole.length
  let frac := match rest with
    | '.' :: ds => if ds.all Char.isDigit then some ds else none
    | [] => some []
    | _ => none
  match frac with
  | none => none
  | some ds =>
    if whole.isEmpty && ds.isEmpty then none
    else
      let w := (String.ofList whole).toNat?.getD 0
      let ds9 := (ds ++ List.replicate 9 '0').take 9
      let f := (String.ofList ds9).toNat?.getD 0
      some ((w * 1000000000 + f) * unit)

/-- The time `sleep` waits for its operands, or the complaint. -/
def sleepNanos (args : List String) : Except String Nat :=
  if args.isEmpty then .error "missing operand"
  else args.foldlM (fun acc a => match sleepOperand a with
    | some n => .ok (acc + n)
    | none => .error ("invalid time interval '" ++ a ++ "'")) 0

/-- Writes a tool's complaint, `name: message`, to standard error. -/
def toolComplaint (name msg : String) : ShellM Unit := write 2 (name ++ ": " ++ msg ++ "\n")

/-- The `cat` command: the files named, `-` or nothing meaning the input. -/
def catFiles (args : List String) : ShellM Unit := do
  let args := if args.isEmpty then ["-"] else args
  let mut status := 0
  for a in args do
    if a == "-" then
      let p ← getProc
      write 1 p.stdin
      modifyProc fun p => { p with stdin := "" }
    else
      match (← get).world.files.readFile a with
      | .ok c => write 1 c
      | .error e =>
        toolComplaint "cat" (a ++ ": " ++ (if e.errno == .isDirectory then "Is a directory"
          else if e.errno == .notDirectory then "Not a directory" else "No such file or directory"))
        status := 1
  setStatus status

/-- The `read` command: a line of input into the named variables, the last taking the rest. -/
def readLine (names : List String) : ShellM Unit := do
  let p ← getProc
  if p.stdin.isEmpty then
    setStatus 1
    return
  let line := p.stdin.toList.takeWhile (· ≠ '\n')
  let rest := (p.stdin.toList.drop (line.length + 1))
  modifyProc fun p => { p with stdin := String.ofList rest }
  let names := names.filter (· != "-r")
  let words := ((String.ofList line).splitOn " ").filter (· != "")
  let rec fill : List String → List String → List (String × String)
    | [], _ => []
    | [n], ws => [(n, " ".intercalate ws)]
    | n :: ns, w :: ws => (n, w) :: fill ns ws
    | n :: ns, [] => (n, "") :: fill ns []
  for (n, v) in fill names words do assign n v
  setStatus 0

/-- Runs a built-in command with its arguments; false when there is no built-in of that name. -/
def builtin (name : String) (args : List String) : ShellM Bool := do
  match name with
  | "echo" =>
    write 1 (Format.echo args)
    setStatus 0
  | "printf" =>
    match args with
    | [] =>
      complain "printf: usage: printf format [arg ...]"
      setStatus 2
    | fmt :: rest =>
      let (out, complaints) := Format.printf fmt rest
      write 1 out
      for c in complaints do complain ("printf: " ++ c)
      setStatus (if complaints.isEmpty then 0 else 1)
  | "cat" => catFiles args
  | "sleep" =>
    match sleepNanos args with
    | .ok n => elapse n; setStatus 0
    | .error m =>
      toolComplaint "sleep" m
      write 2 "Try 'sleep --help' for more information.\n"
      setStatus 1
  | "true" | ":" => setStatus 0
  | "false" => setStatus 1
  | "test" | "[" =>
    let args := if name == "[" then
        (if args.getLast? == some "]" then some args.dropLast else none)
      else some args
    match args with
    | none =>
      complain "[: missing ]"
      setStatus 2
    | some args =>
      match Condition.holds (← get).world.files args with
      | .ok b => setStatus (if b then 0 else 1)
      | .error m =>
        complain (name ++ ": " ++ m)
        setStatus 2
  | "shift" =>
    let n := (args.head?.bind String.toNat?).getD 1
    let p ← getProc
    if n > p.params.length then
      complain "shift: can't shift that many"
      throw (.exit 2)
    modifyProc fun p => { p with params := p.params.drop n, status := 0 }
  | "set" =>
    match args with
    | "--" :: rest => modifyProc fun p => { p with params := rest }
    | _ =>
      for a in args do
        if a == "-e" then modifyProc fun p => { p with errexit := true }
        else if a == "+e" then modifyProc fun p => { p with errexit := false }
    setStatus 0
  | "export" =>
    for a in args do
      let n := String.ofList (a.toList.takeWhile (· ≠ '='))
      if n.length < a.length then assign n (String.ofList (a.toList.drop (n.length + 1)))
      modifyProc fun p => { p with exported := p.exported ++ [n] }
    setStatus 0
  | "unset" =>
    for a in args do unassign a
    setStatus 0
  | "kill" =>
    let (sig, targets) := match args with
      | "-s" :: s :: rest => (s, rest)
      | a :: rest => if a.startsWith "-" then ((a.drop 1).toString, rest) else ("TERM", a :: rest)
      | [] => ("TERM", [])
    match signalName sig with
    | none =>
      complain ("kill: invalid signal number or name: " ++ sig)
      setStatus 2
    | some (_, desc) =>
      if targets.contains (toString selfPid) then throw (.signal desc)
      for _ in targets do complain ("kill: No such process")
      setStatus (if targets.isEmpty then 2 else 1)
  | "read" => readLine args
  | "cd" =>
    match args with
    | [] => setStatus 0
    | d :: _ =>
      match (← get).world.files.stat d with
      | .ok .dir => setStatus 0
      | _ =>
        complain ("cd: can't cd to " ++ d)
        setStatus 2
  | "wait" => setStatus 0
  | "exit" =>
    match args with
    | [] => throw (.exit (← getProc).status)
    | a :: _ =>
      match a.toNat? with
      | some n => throw (.exit (n % 256))
      | none =>
        complain ("exit: Illegal number: " ++ a)
        throw (.exit 2)
  | _ => return false
  return true

end PredictorSweep.Shell
