import PredictorSweep.Sweep.Outcome
import PredictorSweep.Report.File
import PredictorSweep.Context
import PredictorSweep.Text.Space
/-!
# Reading a directory of logs

The logs of an earlier sweep can be read back without running anything. Every file of the
directory whose name ends in `.out` is read, in name order; directories are passed over.

A log whose name identifies no cell, or that cannot be read, is noted and skipped. A log whose
first status line, `# status: ...`, reports anything but `exit 0` marks its cell missing with that
status. Any other log is parsed for its cell's metrics, which fill the cell; a cell filled twice
keeps the later log's record, and the replacement is noted. Every log that reached its cell's
record counts as read.

The context is looked at before each log: once it is done, the reading stops with its error.

Main definitions:

- `statusLine?`: the status a log's text reports;
- `ingestLog`: reads one log into an outcome;
- `ingest`: reads a directory of logs.
-/

namespace PredictorSweep

/-- The status a log's text reports: the rest of the first line that starts with `# status: `
and has something after it, trimmed. -/
def statusLine? (text : String) : Option String :=
  ((text.toList.splitOn '\n').find? fun l => "# status: ".toList.isPrefixOf l && l.length > 10).map
    fun l => Text.trim (String.ofList (l.drop 10))

/-- Reads the log `name` of directory `dir` into an outcome. -/
def ingestLog (files : FileTree) (dir name : String) (o : Outcome) : Outcome :=
  match readLog files (Path.join [dir, name]) with
  | .error e =>
    let key : Key := match e with
      | .badName _ => { family := "", benchmark := name }
      | .unreadable k _ _ => k
    o.note { stage := .ingest, key, reason := e.message }
  | .ok (key, text) =>
    match statusLine? text with
    | some status =>
      if status != "exit 0" then
        let o := { o with failed := o.failed + 1 }
        let o := o.note { stage := .ingest, key, reason := "job log reports " ++ status }
        let (table, r) := o.table.markMissing key status
        let o := { o with table }
        match r with
        | .ok () => o
        | .error e => o.note { stage := .ingest, key, reason := e.message }
      else
        ingestRecord key name text o
    | none => ingestRecord key name text o
where
  /-- Parses a log's metrics into its cell. -/
  ingestRecord (key : Key) (name text : String) (o : Outcome) : Outcome :=
    let parsed := parseReport key text
    let o := o.noteAll parsed.diagnostics
    let (table, r) := o.table.record key parsed.record
    let o := { o with table }
    match r with
    | .ok () => { o with executed := o.executed + 1 }
    | .error (.duplicateCell _) =>
      let reason := name ++ " replaced the record of an earlier log for the same cell"
      let o := o.note { stage := .ingest, key, reason }
      { o with executed := o.executed + 1 }
    | .error e => o.note { stage := .ingest, key, reason := name ++ ": " ++ e.message }

/-- The names of the logs of a directory's entries, sorted. -/
def logNames (entries : List (String × Entry)) : List String :=
  let names := entries.filterMap fun (n, e) => match e with
    | .dir => none
    | _ => if n.endsWith logSuffix then some n else none
  names.mergeSort fun a b => decide (a ≤ b)

/-- Reads every log of a directory into a finished outcome. -/
def ingest (ctx : RunContext) (files : FileTree) (dir : String) : Except Failure Outcome := do
  if ctx == .absent then throw (Failure.plain RunContext.absentMessage)
  let entries ← match files.readDir dir with
    | .ok es => pure es
    | .error e => throw { message := "read log dir: " ++ e.message, classes := e.classes }
  let o ← (logNames entries).foldlM (fun o name => do
    if let some e := ctx.errorAt 0 then throw (Failure.plain e)
    pure (ingestLog files dir name o)) ({} : Outcome)
  pure o.finish

end PredictorSweep
