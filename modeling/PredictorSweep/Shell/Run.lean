import PredictorSweep.Shell.Builtin
import PredictorSweep.Shell.Pattern
/-!
# Running shell commands

A script runs one complete command at a time: the next line's commands are read only after the
previous line ran, so a syntax error stops the script where it is met, after the lines before it
have run.

Words are expanded left to right: parameters, arithmetic and command substitutions, then the
results of unquoted expansions are split into fields at blanks; literal and quoted text is never
split, and `"$@"` gives one field per positional parameter. A simple command's assignments alone
set variables; otherwise its first field names a built-in, a shell (`sh`, `bash`, `dash`), or a
program by path, which must be a file that may be run and is run as a shell script; any other
name is not found (status 127).

Redirections send a descriptor's writes to a file (made empty first unless appended), to
nowhere for `/dev/null`, or where another descriptor's go; `<` and here-documents give the
input. A pipe runs its commands in turn, each reading what the one before wrote.

Every step takes one unit of a budget that bounds how deep running may go; running out stands
for a command that does not end.

Main definitions:

- `Piece`, `fieldsOf`;
- `runCommand`, `runText`, `runScript`: running commands, a script's text, and a script as a
  child shell.
-/

namespace PredictorSweep.Shell

/-- A piece of an expanded word before it is split into fields. -/
inductive Piece where
  /-- Text kept whole; `literal` when it was quoted. A whole piece makes a field even if empty. -/
  | whole (s : String) (literal : Bool)
  /-- The result of an unquoted expansion, split at blanks. -/
  | loose (s : String)
  /-- The end of a field, between the items of `"$@"`. -/
  | boundary
  deriving Repr, Inhabited

/-- Fields being built from pieces. -/
structure Fields where
  /-- The finished fields. -/
  done : List String := []
  /-- The field being built. -/
  current : String := ""
  /-- Whether the field being built exists, even if empty. -/
  started : Bool := false

/-- The characters that split fields. -/
def isFieldBlank (c : Char) : Bool := c == ' ' || c == '\t' || c == '\n'

/-- Ends the field being built, if there is one. -/
def Fields.close (f : Fields) : Fields :=
  if f.started then { done := f.done ++ [f.current] } else f

/-- Adds a piece to the fields. -/
def Fields.add (f : Fields) : Piece → Fields
  | .whole s _ => { f with current := f.current ++ s, started := true }
  | .loose s => s.toList.foldl (fun f c =>
      if isFieldBlank c then f.close
      else { f with current := f.current.push c, started := true }) f
  | .boundary => f.close

/-- The fields of a word's pieces. -/
def fieldsOf (ps : List Piece) : List String := (ps.foldl Fields.add {}).close.done

/-- The text of a word's pieces, unsplit; the items of `"$@"` are joined by blanks. -/
def textOf (ps : List Piece) : String :=
  String.join (ps.map fun p => match p with
    | .whole s _ => s
    | .loose s => s
    | .boundary => " ")

/-- The text pieces of a pattern, each with whether it matches literally. -/
def patternOf (ps : List Piece) : List (String × Bool) :=
  ps.filterMap fun p => match p with
    | .whole s lit => some (s, lit)
    | .loose s => some (s, false)
    | .boundary => some (" ", true)

/-- The text of a substitution: trailing newlines removed. -/
def trimNewlines (s : String) : String :=
  String.ofList (s.toList.reverse.dropWhile (· == '\n')).reverse

/-- The value of a special or positional parameter, or none for a variable name. -/
def special (p : Proc) (name : String) : Option (Option String) :=
  if name == "#" then some (some (toString p.params.length))
  else if name == "?" then some (some (toString p.status))
  else if name == "$" then some (some (toString selfPid))
  else if name == "!" || name == "-" then some (some "")
  else if name == "0" then some (some p.name)
  else match name.toNat? with
    | some n => some (p.params[n - 1]?)
    | none => none

/-- Pieces of a value: whole when quoted, loose otherwise. -/
def valuePiece (quoted : Bool) (v : String) : Piece :=
  if quoted then .whole v true else .loose v

/-- The pieces of `$@` or `$*`. -/
def paramsPieces (p : Proc) (name : String) (quoted : Bool) : List Piece :=
  if quoted && name == "*" then [.whole (" ".intercalate p.params) true]
  else
    match p.params with
    | [] => []
    | x :: xs => valuePiece quoted x :: xs.flatMap fun y => [.boundary, valuePiece quoted y]

/-- Whether a program name is a shell. -/
def isShell (name : String) : Bool :=
  let base := (name.splitOn "/").getLastD name
  base == "sh" || base == "bash" || base == "dash"

/-- The interpreter a script's first line names, if it starts with `#!`; a script without one
runs in a shell. -/
def interpreter (src : String) : Option String :=
  if src.startsWith "#!" then
    let line := String.ofList ((src.toList.drop 2).takeWhile (· ≠ '\n'))
    let words := (line.splitOn " ").filter (· != "")
    match words with
    | [] => some ""
    | w :: rest =>
      if (w.splitOn "/").getLastD w == "env" then some (rest.headD "") else some w
  else none

/-- The target a redirection's path stands for: a stream, nowhere, or a file. -/
def pathSink (path : String) : Option Sink :=
  if path == "/dev/null" then some .discard
  else if path == "/dev/stdout" then some (.stream 1)
  else if path == "/dev/stderr" then some (.stream 2)
  else none

/-- Opens a file for writing, made empty unless `append`: the sink, or the complaint. -/
def openOutput (path : String) (append : Bool) : ShellM (Option Sink) := do
  match pathSink path with
  | some s => pure (some s)
  | none =>
    let w := (← get).world
    let old := if append then (match w.files.readFile path with | .ok c => c | .error _ => "") else ""
    match w.files.create path old with
    | .ok t =>
      modifyWorld fun w => { w with files := t }
      pure (some (.file path))
    | .error e =>
      let why := match e.errno with
        | .isDirectory => "Is a directory"
        | .notFound => "Directory nonexistent"
        | _ => "Not a directory"
      complain ("cannot create " ++ path ++ ": " ++ why)
      pure none

/-- Sets where a descriptor's writes go. -/
def setFd (fd : Nat) (s : Sink) : ShellM Unit :=
  modifyProc fun p => { p with fds := (fd, s) :: p.fds.filter (·.1 != fd) }

/-- The status of a run stopped by a signal, as a parent shell sees it. -/
def signalStatus (desc : String) : Nat :=
  match desc with
  | "hangup" => 129 | "interrupt" => 130 | "quit" => 131 | "aborted" => 134 | "killed" => 137
  | "user defined signal 1" => 138 | "user defined signal 2" => 140 | "broken pipe" => 141
  | "alarm clock" => 142 | _ => 143

mutual

/-- Expands one part of a word into pieces. -/
def expandPart : Nat → Part → ShellM (List Piece)
  | 0, _ => throw .exhausted
  | n + 1, part =>
    match part with
    | .text s q => pure [.whole s q]
    | .param name q m => do
      let p ← getProc
      if name == "@" || name == "*" then
        match m with
        | .length => pure [valuePiece q (toString p.params.length)]
        | _ => pure (paramsPieces p name q)
      else
        let v ← match special p name with
          | some v => pure v
          | none => lookup name
        match m with
        | .plain => pure [valuePiece q (v.getD "")]
        | .length => pure [valuePiece q (toString (v.getD "").length)]
        | .useDefault empty w =>
          if v.isNone || (empty && v == some "") then do
            let t ← modifierText n w
            pure [valuePiece q t]
          else pure [valuePiece q (v.getD "")]
        | .assignDefault empty w =>
          if v.isNone || (empty && v == some "") then do
            let t ← modifierText n w
            assign name t
            pure [valuePiece q t]
          else pure [valuePiece q (v.getD "")]
        | .useAlternate empty w =>
          if v.isNone || (empty && v == some "") then pure [valuePiece q ""]
          else do
            let t ← modifierText n w
            pure [valuePiece q t]
    | .arith src q => do
      let t ← match partsOf .heredoc src with
        | .ok ps => do
          let pieces ← expandParts n ps
          pure (textOf pieces)
        | .error _ => pure src
      let p ← getProc
      let env := (← get).world.env
      match Arith.evaluate t (p.vars ++ env.filter fun (k, _) => !p.vars.any (·.1 == k)) with
      | .ok (v, vars) =>
        for (k, x) in vars do
          if (p.vars.lookup k) != some x && (env.lookup k) != some x then assign k x
        pure [valuePiece q (toString v)]
      | .error m =>
        complain ("arithmetic expression: " ++ m ++ ": \"" ++ t ++ "\"")
        throw (.exit 2)
    | .subst src q => do
      let t ← substitute n src
      pure [valuePiece q t]

/-- Expands the parts of a word into pieces. -/
def expandParts : Nat → List Part → ShellM (List Piece)
  | 0, _ => throw .exhausted
  | _ + 1, [] => pure []
  | n + 1, p :: ps => do
    let a ← expandPart n p
    let b ← expandParts n ps
    pure (a ++ b)

/-- The text of a parameter modifier's word. -/
def modifierText : Nat → String → ShellM String
  | 0, _ => throw .exhausted
  | n + 1, w =>
    match partsOf .inner w with
    | .ok ps => do
      let pieces ← expandParts n ps
      pure (textOf pieces)
    | .error m => do
      complain m
      throw (.exit 2)

/-- Runs commands with their output captured, as a command substitution: the captured text
without trailing newlines. The commands run in a subshell; its status is kept. -/
def substitute : Nat → String → ShellM String
  | 0, _ => throw .exhausted
  | n + 1, src => do
    let saved ← getProc
    let savedBuffer := (← get).world.captured
    modifyWorld fun w => { w with captured := "" }
    setFd 1 .capture
    let code ← tryCatch (do runText n { rest := src.toList, line := saved.line }; pure (← getProc).status)
      fun e => match e with
        | .exit c => pure c
        | other => throw other
    let out := (← get).world.captured
    modifyWorld fun w => { w with captured := savedBuffer }
    modify fun s => { s with proc := { saved with status := code } }
    pure (trimNewlines out)

/-- Runs a script's text command by command from a place in it. -/
def runFrom : Nat → Cursor → ShellM Unit
  | 0, _ => throw .exhausted
  | n + 1, c =>
    match nextCommands c with
    | .error (line, m) => do
      modifyProc fun p => { p with line := line }
      complain m
      throw (.exit 2)
    | .ok none => pure ()
    | .ok (some (cmds, c')) => do
      runSequence n cmds
      runFrom n c'

/-- Runs a script's text. -/
def runText : Nat → Cursor → ShellM Unit
  | 0, _ => throw .exhausted
  | n + 1, c => runFrom n c

/-- Runs commands in order. -/
def runSequence : Nat → List Command → ShellM Unit
  | 0, _ => throw .exhausted
  | _ + 1, [] => pure ()
  | n + 1, c :: cs => do
    runCommand n c
    runSequence n cs

/-- Runs one command. -/
def runCommand : Nat → Command → ShellM Unit
  | 0, _ => throw .exhausted
  | n + 1, cmd =>
    match cmd with
    | .simple assigns words redirects line => do
      modifyProc fun p => { p with line := line }
      runSimple n assigns words redirects
    | .sequence cmds => runSequence n cmds
    | .andOr first rest => do
      runCommand n first
      runLinks n rest
    | .pipeline cmds negate => do
      runPipe n cmds none
      if negate then
        let st := (← getProc).status
        setStatus (if st == 0 then 1 else 0)
    | .group body subshell redirects =>
      withRedirects n redirects (if subshell then runSubshell n body else runCommand n body)
    | .ifThen branches otherwise => runBranches n branches otherwise
    | .forIn name items body => do
      let words ← match items with
        | some ws => expandFields n ws
        | none => pure (← getProc).params
      setStatus 0
      runFor n name words body
    | .loop cond body negate => do
      setStatus 0
      runWhile n cond body negate 0
    | .caseOf subject arms => do
      let s ← expandParts n subject
      setStatus 0
      runArms n (textOf s) arms

/-- Runs the links of an and-or list: `&&` runs its command after success, `||` after failure. -/
def runLinks : Nat → List (Bool × Command) → ShellM Unit
  | 0, _ => throw .exhausted
  | _ + 1, [] => pure ()
  | n + 1, (isAnd, c) :: rest => do
    let st := (← getProc).status
    if (isAnd && st == 0) || (!isAnd && st != 0) then runCommand n c
    runLinks n rest

/-- Runs a pipe's commands in turn, each reading what the one before wrote. -/
def runPipe : Nat → List Command → Option String → ShellM Unit
  | 0, _, _ => throw .exhausted
  | _ + 1, [], _ => pure ()
  | n + 1, [c], input => do
    let saved ← getProc
    if let some text := input then
      modifyProc fun p => { p with stdin := text }
    runSubshell n c
    let st := (← getProc).status
    modifyProc fun p => { p with stdin := saved.stdin, status := st }
  | n + 1, c :: rest, input => do
    let saved ← getProc
    let savedBuffer := (← get).world.captured
    modifyWorld fun w => { w with captured := "" }
    if let some text := input then
      modifyProc fun p => { p with stdin := text }
    setFd 1 .capture
    runSubshell n c
    let out := (← get).world.captured
    modifyWorld fun w => { w with captured := savedBuffer }
    modify fun s => { s with proc := saved }
    runPipe n rest (some out)

/-- Runs a command in a subshell: its variables and `exit` stay inside; its status is kept. -/
def runSubshell : Nat → Command → ShellM Unit
  | 0, _ => throw .exhausted
  | n + 1, c => do
    let saved ← getProc
    let code ← tryCatch (do runCommand n c; pure (← getProc).status) fun e => match e with
      | .exit code => pure code
      | other => throw other
    modify fun s => { s with proc := { saved with status := code } }

/-- Runs the first branch of an `if` whose condition succeeds, else the `else` part. -/
def runBranches : Nat → List (Command × Command) → Option Command → ShellM Unit
  | 0, _, _ => throw .exhausted
  | n + 1, [], otherwise =>
    match otherwise with
    | some c => runCommand n c
    | none => setStatus 0
  | n + 1, (cond, body) :: rest, otherwise => do
    let errexit := (← getProc).errexit
    modifyProc fun p => { p with errexit := false }
    runCommand n cond
    modifyProc fun p => { p with errexit := errexit }
    if (← getProc).status == 0 then runCommand n body
    else runBranches n rest otherwise

/-- Runs a `for` loop's body once per word. -/
def runFor : Nat → String → List String → Command → ShellM Unit
  | 0, _, _, _ => throw .exhausted
  | _ + 1, _, [], _ => pure ()
  | n + 1, name, w :: ws, body => do
    assign name w
    let next ← tryCatch (do runCommand n body; pure true) fun e => match e with
      | .breakLoop k => if k ≤ 1 then pure false else throw (.breakLoop (k - 1))
      | .continueLoop k => if k ≤ 1 then pure true else throw (.continueLoop (k - 1))
      | other => throw other
    if next then runFor n name ws body

/-- Runs a `while` (or `until`) loop; `last` is the status of the body's last run. -/
def runWhile : Nat → Command → Command → Bool → Nat → ShellM Unit
  | 0, _, _, _, _ => throw .exhausted
  | n + 1, cond, body, negate, last => do
    let errexit := (← getProc).errexit
    modifyProc fun p => { p with errexit := false }
    runCommand n cond
    modifyProc fun p => { p with errexit := errexit }
    let ok := ((← getProc).status == 0) != negate
    if !ok then setStatus last
    else
      let next ← tryCatch (do runCommand n body; pure true) fun e => match e with
        | .breakLoop k => if k ≤ 1 then pure false else throw (.breakLoop (k - 1))
        | .continueLoop k => if k ≤ 1 then pure true else throw (.continueLoop (k - 1))
        | other => throw other
      let st := (← getProc).status
      if next then runWhile n cond body negate st else setStatus 0

/-- Runs the first `case` arm with a pattern that fits the subject. -/
def runArms : Nat → String → List (List Word × Command) → ShellM Unit
  | 0, _, _ => throw .exhausted
  | _ + 1, _, [] => setStatus 0
  | n + 1, subject, (pats, body) :: rest => do
    let fit ← armFits n subject pats
    if fit then runCommand n body else runArms n subject rest

/-- Whether one of an arm's patterns fits the subject. -/
def armFits : Nat → String → List Word → ShellM Bool
  | 0, _, _ => throw .exhausted
  | _ + 1, _, [] => pure false
  | n + 1, subject, p :: ps => do
    let pieces ← expandParts n p
    if Glob.fits (Glob.ofPieces (patternOf pieces)) subject.toList then pure true
    else armFits n subject ps

/-- The fields of words. -/
def expandFields : Nat → List Word → ShellM (List String)
  | 0, _ => throw .exhausted
  | _ + 1, [] => pure []
  | n + 1, w :: ws => do
    let ps ← expandParts n w
    let rest ← expandFields n ws
    pure (fieldsOf ps ++ rest)

/-- Runs a body with redirections applied; their targets are expanded first. A redirection
that cannot be made fails the command with status 2 instead. -/
def withRedirects : Nat → List Redirect → ShellM Unit → ShellM Unit
  | 0, _, _ => throw .exhausted
  | n + 1, redirects, body => do
    if redirects.isEmpty then body
    else
      let saved ← getProc
      let ok ← applyRedirects n redirects
      if ok then
        let r ← tryCatch (do body; pure none) fun e => pure (some e)
        let st := (← getProc).status
        modifyProc fun p => { p with fds := saved.fds, stdin := saved.stdin, status := st }
        match r with
        | some e => throw e
        | none => pure ()
      else
        modifyProc fun p => { p with fds := saved.fds, stdin := saved.stdin, status := 2 }

/-- Applies redirections in order; false when one cannot be made. -/
def applyRedirects : Nat → List Redirect → ShellM Bool
  | 0, _ => throw .exhausted
  | _ + 1, [] => pure true
  | n + 1, r :: rest => do
    let ok ← match r with
      | .toFile fd target append => do
        let path := textOf (← expandParts n target)
        match ← openOutput path append with
        | some s => do setFd fd s; pure true
        | none => pure false
      | .fromFile fd source => do
        let path := textOf (← expandParts n source)
        match (← get).world.files.readFile path with
        | .ok c =>
          if fd == 0 then modifyProc fun p => { p with stdin := c }
          pure true
        | .error _ =>
          if path == "/dev/null" then
            if fd == 0 then modifyProc fun p => { p with stdin := "" }
            pure true
          else do
            complain ("cannot open " ++ path ++ ": No such file")
            pure false
      | .duplicate fd src => do
        let p ← getProc
        match p.fds.lookup src with
        | some s => do setFd fd s; pure true
        | none =>
          if src == 0 then pure true
          else do
            complain (toString src ++ ": Bad file descriptor")
            pure false
      | .here fd body => do
        let text := textOf (← expandParts n body)
        if fd == 0 then modifyProc fun p => { p with stdin := text }
        pure true
    if ok then applyRedirects n rest else pure false

/-- Runs a simple command. -/
def runSimple : Nat → List (String × Word) → List Word → List Redirect → ShellM Unit
  | 0, _, _, _ => throw .exhausted
  | n + 1, assigns, words, redirects => do
    let argv ← expandFields n words
    let values : List (String × String) ← assignValues n assigns
    match argv with
    | [] =>
      for (k, v) in values do assign k v
      -- the status of the last command substitution, or zero when there was none
      let st := (← getProc).status
      let substituted := (assigns.map (·.2) ++ words).any fun w =>
        w.any fun p => match p with | .subst .. => true | _ => false
      withRedirects n redirects (setStatus (if substituted then st else 0))
    | name :: args => do
      let saved := (← getProc).vars
      for (k, v) in values do assign k v
      withRedirects n redirects (runArgv n name args (values.map (·.1)))
      if !values.isEmpty && !(["export", "readonly", "set", "unset"].contains name) then
        let keep := (← getProc).vars.filter fun (k, _) => !(values.any (·.1 == k))
        let restored := saved.filter fun (k, _) => values.any (·.1 == k)
        modifyProc fun p => { p with vars := keep ++ restored }
      let p ← getProc
      if p.errexit && p.status != 0 then throw (.exit p.status)

/-- The values of assignments, expanded without splitting. -/
def assignValues : Nat → List (String × Word) → ShellM (List (String × String))
  | 0, _ => throw .exhausted
  | _ + 1, [] => pure []
  | n + 1, (k, w) :: rest => do
    let v := textOf (← expandParts n w)
    let more ← assignValues n rest
    pure ((k, v) :: more)

/-- Runs a command by name: `exec`, a built-in, a shell, or a script by path. `exported` names
variables set for this command alone, which a child shell sees. -/
def runArgv : Nat → String → List String → List String → ShellM Unit
  | 0, _, _, _ => throw .exhausted
  | n + 1, name, args, exported => do
    if name == "exec" then
      match args with
      | [] => setStatus 0
      | prog :: rest => do
        runArgv n prog rest exported
        throw (.exit (← getProc).status)
    else if ← builtin name args then pure ()
    else if isShell name then runShellArgs n name args exported
    else if name.contains '/' then runPath n name args exported
    else do
      complain (name ++ ": not found")
      setStatus 127

/-- Runs a shell program with its arguments: `-c` and a command text (then its name and
parameters), or a script file and its parameters. -/
def runShellArgs : Nat → String → List String → List String → ShellM Unit
  | 0, _, _, _ => throw .exhausted
  | n + 1, name, args, exported => do
    let opts := args.takeWhile fun a => a.startsWith "-" && a != "-" && a != "--"
    let rest := args.drop opts.length
    let rest := if rest.head? == some "--" then rest.drop 1 else rest
    let errexit := opts.contains "-e"
    if opts.contains "-c" then
      match rest with
      | [] => do
        write 2 (name ++ ": 0: -c requires an argument\n")
        setStatus 2
      | src :: more =>
        runChild n (more.headD name) (more.drop 1) src exported errexit
    else
      match rest with
      | [] => runChild n name [] "" exported errexit
      | file :: params =>
        match (← get).world.files.readFile file with
        | .ok src => runChild n file params src exported errexit
        | .error _ => do
          write 2 (name ++ ": 0: cannot open " ++ file ++ ": No such file\n")
          setStatus 2

/-- Runs a program by path: it must be a file that may be run; it runs as a shell script. -/
def runPath : Nat → String → List String → List String → ShellM Unit
  | 0, _, _, _ => throw .exhausted
  | n + 1, path, args, exported => do
    match (← get).world.files.program path with
    | .ok src =>
      match interpreter src with
      | some i =>
        if isShell i then runChild n path args src exported false
        else do
          complain (path ++ ": not found")
          setStatus 127
      | none => runChild n path args src exported false
    | .error e =>
      if e.errno == .notFound || e.errno == .notDirectory then do
        complain (path ++ ": not found")
        setStatus 127
      else do
        complain (path ++ ": Permission denied")
        setStatus 126

/-- Runs a script's text as a child shell with a name and parameters. The child sees the
exported variables and those set for it; its status becomes the caller's. -/
def runChild : Nat → String → List String → String → List String → Bool → ShellM Unit
  | 0, _, _, _, _, _ => throw .exhausted
  | n + 1, name, params, src, exported, errexit => do
    let saved ← getProc
    let env ← childEnv
    let extra := saved.vars.filter fun (k, _) => exported.contains k
    let vars := extra ++ env.filter fun (k, _) => !extra.any (·.1 == k)
    modifyProc fun p =>
      { p with name := name, params := params, vars := vars, exported := vars.map (·.1) }
    modifyProc fun p => { p with status := 0, line := 1, errexit := errexit }
    let code ← tryCatch (do runText n { rest := src.toList }; pure (← getProc).status)
      fun e => match e with
        | .exit c => pure c
        | .signal d => pure (signalStatus d)
        | .breakLoop _ | .continueLoop _ => do pure (← getProc).status
        | .exhausted => throw .exhausted
    modify fun s => { s with proc := { saved with status := code } }

end

/-- Runs a script's text as the top shell of a job, with its name and parameters. -/
def runScript (fuel : Nat) (name : String) (params : List String) (src : String)
    (errexit : Bool := false) : ShellM Unit := do
  modifyProc fun p => { p with name := name, params := params, errexit := errexit }
  runText fuel { rest := src.toList }

/-- Starts a job's program from its arguments: a shell with its options and a command text or
script file, a script by path, or a built-in tool. The program's own `exit` and signals end the
job; a program that cannot be found ends it with status 127. -/
def startProgram (fuel : Nat) (prog : String) (args : List String) : ShellM Unit := do
  if isShell prog then
    let opts := args.takeWhile fun a => a.startsWith "-" && a != "-" && a != "--"
    let rest := args.drop opts.length
    let rest := if rest.head? == some "--" then rest.drop 1 else rest
    let errexit := opts.contains "-e"
    if opts.contains "-c" then
      match rest with
      | [] =>
        write 2 (prog ++ ": 0: -c requires an argument\n")
        throw (.exit 2)
      | src :: more => runScript fuel (more.headD prog) (more.drop 1) src errexit
    else
      match rest with
      | [] => runScript fuel prog [] "" errexit
      | file :: params =>
        match (← get).world.files.readFile file with
        | .ok src => runScript fuel file params src errexit
        | .error _ =>
          write 2 (prog ++ ": 0: cannot open " ++ file ++ ": No such file\n")
          throw (.exit 2)
  else if prog.contains '/' then
    match (← get).world.files.program prog with
    | .ok src => runScript fuel prog args src
    | .error _ => throw (.exit 127)
  else
    modifyProc fun p => { p with name := prog }
    if !(← builtin prog args) then throw (.exit 127)

end PredictorSweep.Shell
