import PredictorSweep.Log.Level
import PredictorSweep.Json.Value
import PredictorSweep.Files.Tree
/-!
# Structured logging

A logger writes one data record per line: the time, the level's name, the message, then the
attributes the logger carries and those of the call. A call's arguments alternate keys and values;
a value where a key belongs, or a key left without a value, is kept under the key `!BADKEY`. An
attribute with an empty key and no value is dropped.

A logger may carry attributes and name groups. Attributes added after a group is named go inside
it, and so do a call's attributes; a group is written only once something is put in it.

The records go to the console unless the logger is quiet, and to the day's log file of the
service when a log directory is given: `service_YYYY-MM-DD.log`, the service `bpsweep` when
unnamed, in the directory, which is made when missing. A log directory of `~` or under `~/` is in
the home directory, which is the working directory and is shown as `~`. When the directory or file
cannot be opened, file logging is off and the console says why. Records below the logger's level
are dropped; a level outside the four means info.

Main definitions:

- `LogAttr.ofArgs`, `LogShape`: the attributes and groups a logger carries;
- `LogShape.line`: a record as written;
- `openLogFile`: the day's log file of a service;
- `LoggerConfig`, `LogSinks`, `LogSinks.start`, `LogSinks.write`, `LogSinks.close`.
-/

namespace PredictorSweep

/-- An attribute of a log record: a key and a data value. -/
abbrev LogAttr := String × Json.Value

namespace LogAttr

/-- The attributes of a call's alternating keys and values. -/
def ofArgs : List Json.Value → List LogAttr
  | [] => []
  | [.str k] => [("!BADKEY", .str k)]
  | .str k :: v :: rest => (k, v) :: ofArgs rest
  | v :: rest => ("!BADKEY", v) :: ofArgs rest

/-- Whether an attribute is empty: no key and no value. -/
def isEmpty (a : LogAttr) : Bool :=
  a.1.isEmpty && match a.2 with
    | .null => true
    | _ => false

end LogAttr

/-- The groups a logger has opened, outermost first, with the attributes put in each, ending in
the innermost. -/
def nestGroups : List (String × List LogAttr) → List LogAttr
  | [] => []
  | (g, xs) :: deeper => [(g, .obj (xs ++ nestGroups deeper))]

/-- What a logger adds to each record: attributes at the top level, the groups opened so far with
their attributes, and the groups named but not yet opened. -/
structure LogShape where
  /-- The attributes at the top level. -/
  top : List LogAttr := []
  /-- The opened groups, outermost first, with their attributes. -/
  opened : List (String × List LogAttr) := []
  /-- The groups named but not yet opened, outermost first. -/
  pending : List String := []
  deriving Inhabited

namespace LogShape

/-- Opens the named groups, each inside the one before. -/
def openPending (s : LogShape) : LogShape :=
  { s with opened := s.opened ++ s.pending.map (·, []), pending := [] }

/-- Puts attributes in the innermost opened group, or at the top level. -/
def addInnermost (s : LogShape) (as : List LogAttr) : LogShape :=
  match s.opened.reverse with
  | [] => { s with top := s.top ++ as }
  | (g, xs) :: outer => { s with opened := outer.reverse ++ [(g, xs ++ as)] }

/-- Puts attributes in the innermost group, opening the named ones, unless none is non-empty. -/
def withAttrs (s : LogShape) (as : List LogAttr) : LogShape :=
  let as := as.filter fun a => !a.isEmpty
  if as.isEmpty then s else s.openPending.addInnermost as

/-- Names a group for what follows; the empty name names none. -/
def withGroup (s : LogShape) (name : String) : LogShape :=
  if name.isEmpty then s else { s with pending := s.pending ++ [name] }

/-- The attributes of a record after the built-in ones. -/
def members (s : LogShape) (attrs : List LogAttr) : List LogAttr :=
  let s := s.withAttrs attrs
  s.top ++ nestGroups s.opened

/-- How texts of log records are escaped: markup characters and the backspace and form feed are
left as they are. -/
def style : Json.TextStyle := { html := false, shortControls := false }

/-- A record as written, with its line break. -/
def line (s : LogShape) (time : String) (level : Level) (msg : String) (attrs : List LogAttr) :
    String :=
  (Json.Value.obj ([("time", .str time), ("level", .str level.name), ("msg", .str msg)] ++
    s.members attrs)).render style ++ "\n"

end LogShape

/-- The path under the home directory that a log directory names, if it names one there. -/
def homePath (dir : String) : Option String :=
  if dir == "~" then some "."
  else if dir.startsWith "~/" then some (Path.clean (dir.drop 2).toString)
  else none

/-- A path under the home directory as shown. -/
def showHome (p : String) : String := if p == "." then "~" else "~/" ++ p

/-- Opens the day's log file of a service in a directory, made when missing: the working
directory, the file's path in it and the file's path as shown, or why it cannot be opened. -/
def openLogFile (files : FileTree) (dir service today : String) :
    Except String (FileTree × String × String) :=
  let home := homePath dir
  let here := home.getD dir
  let shown (p : String) := if home.isSome then showHome p else p
  match files.mkdirAll here with
  | .error e => .error ("create log dir: " ++ { e with path := shown e.path }.message)
  | .ok files =>
    let name := (if service.isEmpty then "bpsweep" else service) ++ "_" ++ today ++ ".log"
    let path := Path.join [here, name]
    let cannot (e : Errno) : Except String (FileTree × String × String) :=
      .error ("open log file: open " ++ shown path ++ ": " ++ e.text)
    match files.stat path with
    | .ok (.file _ _) => .ok (files, path, shown path)
    | .ok .dir => cannot .isDirectory
    | _ =>
      match files.create path "" with
      | .ok files => .ok (files, path, shown path)
      | .error e => cannot e.errno

/-- Where a logger's console goes. -/
inductive LogConsole where
  /-- A writer of the caller's. -/
  | writer
  /-- The process's standard error. -/
  | standardError
  deriving DecidableEq, Repr, Inhabited

/-- How a logger is set up. -/
structure LoggerConfig where
  /-- The least level written, by number; a number outside the four means info. -/
  level : Int := 1
  /-- The log directory; empty for none. -/
  dir : String := ""
  /-- The service, carried by every record when named. -/
  service : String := ""
  /-- Whether nothing goes to the console. -/
  quiet : Bool := false
  /-- Where the console goes. -/
  console : LogConsole := .writer
  deriving Repr, Inhabited

/-- The least level a configuration writes. -/
def LoggerConfig.least (c : LoggerConfig) : Level := (Level.ofNumber? c.level).getD .info

/-- What a logger writes to: the console writer, the process's standard error, the working
directory, the open log file and the log file's path as shown. -/
structure LogSinks where
  /-- The console writer's text. -/
  console : String := ""
  /-- The process's standard error. -/
  standardError : String := ""
  /-- The working directory. -/
  files : FileTree
  /-- The open log file's path in the working directory. -/
  file : Option String := none
  /-- The log file's path as shown; empty when there is none. -/
  path : String := ""
  deriving Inhabited

namespace LogSinks

/-- Writes a text to the console. -/
def say (c : LoggerConfig) (k : LogSinks) (text : String) : LogSinks :=
  match c.console with
  | .writer => { k with console := k.console ++ text }
  | .standardError => { k with standardError := k.standardError ++ text }

/-- Sets a logger up: its log file opened, and the service attribute carried. -/
def start (c : LoggerConfig) (files : FileTree) (today : String) : LogSinks × LogShape :=
  let k : LogSinks := { files }
  let k := if c.dir.isEmpty then k
    else match openLogFile files c.dir c.service today with
      | .ok (files, file, path) => { k with files, file := some file, path }
      | .error why =>
        if c.quiet then k else k.say c ("logging: file logging disabled: " ++ why ++ "\n")
  let shape : LogShape :=
    if c.service.isEmpty then {} else LogShape.withAttrs {} [("service", .str c.service)]
  (k, shape)

/-- Writes a record at a level with a logger's shape, unless the level is below the least. -/
def write (c : LoggerConfig) (k : LogSinks) (shape : LogShape) (time : String) (level : Level)
    (msg : String) (args : List Json.Value) : LogSinks :=
  if level.number < c.least.number then k
  else
    let text := shape.line time level msg (LogAttr.ofArgs args)
    let k := if c.quiet then k else k.say c text
    match k.file with
    | none => k
    | some p =>
      let before := match k.files.readFile p with
        | .ok t => t
        | .error _ => ""
      match k.files.create p (before ++ text) with
      | .ok files => { k with files }
      | .error _ => k

/-- Closes the log file; later records go to the console only. -/
def close (k : LogSinks) : LogSinks := { k with file := none }

end LogSinks

end PredictorSweep
