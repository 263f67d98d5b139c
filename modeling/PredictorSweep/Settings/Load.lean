import PredictorSweep.Settings.Decode
import PredictorSweep.Settings.Validate
import PredictorSweep.Yaml.Library
import PredictorSweep.Failure
/-!
# Loading settings

Settings start from the defaults. A settings file's first document, as the YAML library reads it,
is decoded over them, and the result is checked. Loading fails when the file cannot be read, when its text is no YAML
document of the settings' shape, or when a check fails; the messages of the failed checks are
joined with `; `.

Main definitions:

- `SettingsSource`, `LoadError`, `LoadError.toFailure`;
- `Settings.load`.
-/

namespace PredictorSweep

/-- Where settings come from: nowhere, so the defaults hold; a file's text; or a file that could
not be read, with the reason and whether it is missing. -/
inductive SettingsSource where
  | defaults
  | file (path : String) (text : String)
  | unreadable (reason : String) (missing : Bool)

/-- Why settings could not be loaded. -/
inductive LoadError where
  /-- The file could not be read. -/
  | unreadable (reason : String) (missing : Bool)
  /-- The file's text is not settings. -/
  | unparsable (path : String) (reason : String)
  /-- Checks failed. -/
  | invalid (problems : List String)

namespace LoadError

/-- The message of a load error. -/
def message : LoadError → String
  | unreadable reason _ => "failed to read the config file: " ++ reason
  | unparsable path reason => "failed to parse the config file " ++ path ++ ": " ++ reason
  | invalid problems => "invalid config: " ++ String.intercalate "; " problems

/-- The failure of a load error; a missing file is of the class of things that do not exist. -/
def toFailure (e : LoadError) : Failure :=
  match e with
  | unreadable _ true => { message := e.message, classes := [.notExist] }
  | _ => Failure.plain e.message

end LoadError

namespace Settings

/-- The settings, if they pass their checks. -/
def checked (s : Settings) : Except LoadError Settings :=
  match s.problems with
  | [] => .ok s
  | ps => .error (.invalid ps)

/-- Loads settings from a source, reading a file with a YAML library. -/
def load [Yaml.Library] : SettingsSource → Except LoadError Settings
  | .defaults => defaults.checked
  | .unreadable reason missing => .error (.unreadable reason missing)
  | .file path text =>
    match Yaml.Library.read text with
    | .error e => .error (.unparsable path e.message)
    | .ok none => defaults.checked
    | .ok (some doc) =>
      match decode doc defaults with
      | .error m => .error (.unparsable path m)
      | .ok s => s.checked

end Settings

end PredictorSweep
