import PredictorSweep.Report.Parse
import PredictorSweep.Report.LogName
import PredictorSweep.Files.Tree
import PredictorSweep.Path
/-!
# Reading a log file

A log read from disk names its cell by its file name alone, so a name that identifies no cell is
refused before the file is opened. The file is then read whole; a file that cannot be read is
reported with its path and the cause.

Main definitions:

- `LogReadError`;
- `readLog`: the cell a log file names and its text;
- `parseLogFile`: the metrics of a log file.
-/

namespace PredictorSweep

/-- Why a log file could not be read. -/
inductive LogReadError where
  /-- The file name identifies no cell. -/
  | badName (e : LogNameError)
  /-- The file could not be read: its cell and path, and the cause. -/
  | unreadable (key : Key) (path : String) (e : FileError)
  deriving Repr

namespace LogReadError

/-- The text of a read error. -/
def message : LogReadError → String
  | badName e => e.message
  | unreadable _ p e => "reading log " ++ p ++ ": " ++ e.message

/-- The view of a read error. -/
def toFailure : LogReadError → Failure
  | badName e => e.toFailure
  | e@(unreadable _ _ fe) => { message := e.message, classes := fe.classes }

end LogReadError

/-- The cell a log file's name identifies and the file's text. -/
def readLog (files : FileTree) (path : String) : Except LogReadError (Key × String) :=
  match keyOfLogName (Path.base path) with
  | .error e => .error (.badName e)
  | .ok k =>
    match files.readFile path with
    | .ok text => .ok (k, text)
    | .error e => .error (.unreadable k path e)

/-- The metrics of a log file for the cell its name identifies. -/
def parseLogFile (files : FileTree) (path : String) : Except LogReadError Parsed := do
  let (k, text) ← readLog files path
  pure (parseReport k text)

end PredictorSweep
