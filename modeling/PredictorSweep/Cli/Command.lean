import PredictorSweep.Cli.Flags
/-!
# Command trees

A program's command line is a tree of commands under a root: each command has a name, perhaps
aliases, a usage line, a short and a long description, its own flags, flags its subcommands
inherit, a rule on how many arguments it takes, and whether it runs at all (a command that only
groups subcommands shows its help instead).

The command an argument list names is found word by word: words that are flags, and the values
of flags that take one, are skipped, and the first other word names a subcommand, by name or
alias. A word that names none is an argument; the root, which only groups, refuses it as an
unknown command, with close names suggested. The flags are then read against the command's own
and inherited flags, each command also taking `-h`/`--help`; asking for help, or naming a command
that does not run, shows the command's help. Otherwise the arguments are checked against the
command's rule and the command runs.

A help text is the long description (or the short one), then the usage: how to call the command,
its aliases, its subcommands with their short descriptions, its flags and the flags it inherits.

Main definitions:

- `ArgRule`, `CommandSpec`, `CommandTree`;
- `CommandTree.find`: the command an argument list names;
- `CommandTree.helpText`, `CommandTree.usageText`;
- `Dispatch`, `CommandTree.dispatch`.
-/

namespace PredictorSweep.Cli

/-- How many arguments a command takes. -/
inductive ArgRule where
  /-- Any number, but a grouping root refuses any as an unknown command. -/
  | unchecked
  /-- None: an argument is an unknown command. -/
  | noArgs
  /-- At most this many. -/
  | atMost (n : Nat)
  deriving Repr, DecidableEq, Inhabited

/-- A command of a tree, placed by the names leading to it from the root. -/
structure CommandSpec where
  /-- The names from the root to the command; empty for the root. -/
  path : List String
  /-- The usage line: the name and how arguments are written. -/
  use : String
  /-- Other names the command answers to. -/
  aliases : List String := []
  /-- A one-line description. -/
  short : String := ""
  /-- A longer description. -/
  long : String := ""
  /-- The command's own flags. -/
  flags : List FlagSpec := []
  /-- The flags the command and its subcommands accept. -/
  persistent : List FlagSpec := []
  /-- How many arguments the command takes. -/
  args : ArgRule := .unchecked
  /-- Whether the command runs, rather than only grouping subcommands. -/
  runnable : Bool := true
  /-- Whether the command is left out of listings. -/
  hidden : Bool := false
  /-- Whether the usage line mentions flags. -/
  flagsInUseLine : Bool := true
  deriving Repr, Inhabited

/-- A tree of commands under a named root. -/
structure CommandTree where
  /-- The program's name. -/
  name : String
  /-- The commands, the root among them. -/
  commands : List CommandSpec
  deriving Inhabited

/-- What an argument list asks for: a text to show, a command to run with its flags and
arguments, or an error. -/
inductive Dispatch where
  /-- Show a help text. -/
  | show (text : String)
  /-- Run the command at this path. -/
  | invoke (path : List String) (reading : FlagReading)
  /-- Fail with a message. -/
  | fail (message : String)
  deriving Inhabited

/-- The edit distance of two texts, by characters. -/
def editDistance (a b : String) : Nat :=
  let bs := b.toList
  let first := List.range (bs.length + 1)
  let last := a.toList.foldl (fun (prev : List Nat) ca =>
    let start := prev.headD 0 + 1
    let (row, _) := (bs.zip (prev.zip prev.tail)).foldl
      (fun (acc : List Nat × Nat) (cb, diag, up) =>
        let (row, left) := acc
        let cost := if ca == cb then diag else diag + 1
        let v := min cost (min (up + 1) (left + 1))
        (row ++ [v], v)) ([start], start)
    row) first
  last.getLastD 0

namespace CommandTree

/-- The command at a path. -/
def spec? (t : CommandTree) (path : List String) : Option CommandSpec :=
  t.commands.find? (·.path == path)

/-- The command at a path, or an empty one. -/
def spec (t : CommandTree) (path : List String) : CommandSpec :=
  (t.spec? path).getD { path, use := "" }

/-- The name of the command at a path. -/
def nameOf (t : CommandTree) (path : List String) : String := path.getLastD t.name

/-- The subcommands of a command, sorted by name. -/
def children (t : CommandTree) (path : List String) : List CommandSpec :=
  let cs := t.commands.filter fun c => c.path.length == path.length + 1 && c.path.take path.length == path
  cs.mergeSort fun a b => decide (a.path.getLastD "" ≤ b.path.getLastD "")

/-- The subcommand a word names, by name or alias. -/
def child? (t : CommandTree) (path : List String) (word : String) : Option CommandSpec :=
  (t.children path).find? fun c => c.path.getLastD "" == word || c.aliases.contains word

/-- The help flag of a command. -/
def helpFlag (t : CommandTree) (path : List String) : FlagSpec :=
  { name := "help", short := some 'h', kind := .switch, usage := "help for " ++ t.nameOf path }

/-- The flags a command inherits: those of its ancestors for their subcommands, nearest first. -/
def inherited (t : CommandTree) (path : List String) : List FlagSpec :=
  let ancestors := (List.range path.length).reverse.map fun n => path.take n
  let own := (t.spec path).flags ++ (t.spec path).persistent
  let all := ancestors.flatMap fun p => (t.spec p).persistent
  let kept := all.foldl (fun (acc : List FlagSpec) f =>
    if acc.any (·.name == f.name) then acc else acc ++ [f]) []
  kept.filter fun f => !own.any (·.name == f.name)

/-- A command's own flags, the help flag among them when `withHelp`. -/
def localFlags (t : CommandTree) (path : List String) (withHelp : Bool) : List FlagSpec :=
  let c := t.spec path
  c.flags ++ c.persistent ++ (if withHelp then [t.helpFlag path] else [])

/-- Every flag a command accepts. -/
def allFlags (t : CommandTree) (path : List String) (withHelp : Bool) : List FlagSpec :=
  t.localFlags path withHelp ++ t.inherited path

/-- Whether a flag named by a long name takes no value. -/
def takesNoValue (flags : List FlagSpec) (name : String) : Bool :=
  flags.any fun f => f.name == name && f.kind == .switch

/-- Whether a flag named by a shorthand letter takes no value. -/
def shortTakesNoValue (flags : List FlagSpec) (c : String) : Bool :=
  flags.any fun f => f.short.map String.singleton == some c && f.kind == .switch

/-- Whether a word is a flag that takes the next word as its value. -/
def takesNext (flags : List FlagSpec) (s : String) : Bool :=
  (s.startsWith "--" && !s.contains '=' && !takesNoValue flags (s.drop 2).toString) ||
  (s.startsWith "-" && !s.startsWith "--" && !s.contains '=' && s.length == 2 &&
    !shortTakesNoValue flags (s.drop 1).toString)

/-- The words of an argument list that are not flags or flag values, up to `--`. -/
def commandWords (flags : List FlagSpec) : Nat → List String → List String
  | 0, _ => []
  | _, [] => []
  | fuel + 1, s :: rest =>
    if s == "--" then []
    else if takesNext flags s then
      match rest with
      | _ :: more => commandWords flags fuel more
      | [] => []
    else if s != "" && !s.startsWith "-" then s :: commandWords flags fuel rest
    else commandWords flags fuel rest

/-- An argument list without the first word equal to `x` that is not a flag or flag value. -/
def withoutWord (flags : List FlagSpec) (x : String) : Nat → List String → List String
  | 0, args => args
  | _, [] => []
  | fuel + 1, s :: rest =>
    if s == "--" then s :: rest
    else if takesNext flags s then
      match rest with
      | v :: more => s :: v :: withoutWord flags x fuel more
      | [] => [s]
    else if !s.startsWith "-" && s == x then rest
    else s :: withoutWord flags x fuel rest


/-- The command path as written: the program and the names. -/
def commandPath (t : CommandTree) (path : List String) : String :=
  " ".intercalate (t.name :: path)

/-- Whether a command is listed among its parent's subcommands. -/
def available (t : CommandTree) (c : CommandSpec) : Bool :=
  !c.hidden && c.path != ["help"] &&
    (c.runnable || (t.children c.path).any fun d => !d.hidden && d.runnable)

/-- The listed subcommands close to a word, in the order the tree holds them: within two edits,
or starting with it, ignoring case. -/
def suggestions (t : CommandTree) (path : List String) (word : String) : List String :=
  let w := word.toLower
  (t.commands.filter fun c => c.path.length == path.length + 1 && c.path.take path.length == path &&
      t.available c).filterMap fun c =>
    let n := c.path.getLastD ""
    if editDistance w n.toLower ≤ 2 || n.toLower.startsWith w then some n else none

/-- Finds the command an argument list names and the arguments left for it, or the root's
refusal of an unknown command. -/
def findFrom (t : CommandTree) : Nat → List String → List String →
    Except String (List String × List String)
  | 0, path, args => .ok (path, args)
  | fuel + 1, path, args =>
    let flags := t.allFlags path false
    match commandWords flags (args.length + 1) args with
    | w :: _ =>
      match t.child? path w with
      | some c => findFrom t fuel c.path (withoutWord flags w (args.length + 1) args)
      | none => .ok (path, args)
    | [] => .ok (path, args)

/-- The command an argument list names and the arguments left for it; a root that only groups
refuses a word that names no subcommand. -/
def find (t : CommandTree) (args : List String) : Except String (List String × List String) := do
  let (path, rest) ← t.findFrom (args.length + 1) [] args
  let c := t.spec path
  if c.args == .unchecked && path.isEmpty && !(t.children path).isEmpty then
    match commandWords (t.allFlags path false) (rest.length + 1) rest with
    | w :: _ =>
      let hints := t.suggestions path w
      let hintText := if hints.isEmpty then ""
        else "\n\nDid you mean this?\n" ++ String.join (hints.map fun h => "\t" ++ h ++ "\n")
      throw ("unknown command " ++ Text.quote w ++ " for " ++ Text.quote (t.commandPath path) ++
        hintText)
    | [] => pure (path, rest)
  else pure (path, rest)

/-- Whether a command has subcommands it lists. -/
def hasAvailableChildren (t : CommandTree) (path : List String) : Bool :=
  (t.children path).any (t.available ·)

/-- The usage line of a command. -/
def useLine (t : CommandTree) (path : List String) : String :=
  let c := t.spec path
  let line := if path.isEmpty then c.use else t.commandPath path.dropLast ++ " " ++ c.use
  if c.flagsInUseLine && (line.splitOn "[flags]").length ≤ 1 then line ++ " [flags]"
  else line

/-- A text without its trailing white space. -/
def trimRight (s : String) : String :=
  String.ofList (s.toList.reverse.dropWhile (fun c => c == ' ' || c == '\n' || c == '\t' ||
    c == '\r')).reverse

/-- The usage text of a command, ending with a line break. -/
def usageText (t : CommandTree) (path : List String) (withHelp : Bool) : String :=
  let c := t.spec path
  let subs := t.hasAvailableChildren path
  let pad := max 11 ((t.children path).foldl (fun m d => max m (d.path.getLastD "").length) 0)
  let listing := (t.children path).filter fun d => t.available d || d.path == ["help"]
  let own := t.localFlags path withHelp
  let inh := t.inherited path
  "Usage:" ++
  (if c.runnable then "\n  " ++ t.useLine path else "") ++
  (if subs then "\n  " ++ t.commandPath path ++ " [command]" else "") ++
  (if c.aliases.isEmpty then "" else
    "\n\nAliases:\n  " ++ ", ".intercalate (t.nameOf path :: c.aliases)) ++
  (if subs then
    "\n\nAvailable Commands:" ++ String.join (listing.map fun d =>
      let n := d.path.getLastD ""
      "\n  " ++ n ++ String.ofList (List.replicate (pad - n.length) ' ') ++ " " ++ d.short)
  else "") ++
  (if own.isEmpty then "" else "\n\nFlags:\n" ++ trimRight (FlagSpec.usageLines own)) ++
  (if inh.isEmpty then "" else "\n\nGlobal Flags:\n" ++ trimRight (FlagSpec.usageLines inh)) ++
  (if subs then
    "\n\nUse \"" ++ t.commandPath path ++ " [command] --help\" for more information about a command."
  else "") ++ "\n"

/-- The help text of a command: its description, then its usage when it runs or has
subcommands. -/
def helpText (t : CommandTree) (path : List String) : String :=
  let c := t.spec path
  let about := trimRight (if c.long.isEmpty then c.short else c.long)
  (if about.isEmpty then "" else about ++ "\n\n") ++
    (if c.runnable || !(t.children path).isEmpty then t.usageText path true else "")

/-- Checks a command's arguments against its rule. -/
def checkArgs (t : CommandTree) (path : List String) (args : List String) : Except String Unit :=
  match (t.spec path).args, args with
  | .noArgs, a :: _ =>
    .error ("unknown command " ++ Text.quote a ++ " for " ++ Text.quote (t.commandPath path))
  | .atMost n, _ =>
    if args.length > n then
      .error ("accepts at most " ++ toString n ++ " arg(s), received " ++ toString args.length)
    else .ok ()
  | _, _ => .ok ()

/-- What an argument list asks for: the command found, its flags read, help shown when asked for
or when the command does not run, and its arguments checked. -/
def dispatch (t : CommandTree) (args : List String) : Dispatch :=
  match t.find args with
  | .error m => .fail m
  | .ok (path, rest) =>
    match readFlags (t.allFlags path true) rest with
    | .error m => .fail m
    | .ok r =>
      if r.switch "help" || !(t.spec path).runnable then .show (t.helpText path)
      else match t.checkArgs path r.args with
        | .error m => .fail m
        | .ok () => .invoke path r

end CommandTree

end PredictorSweep.Cli
