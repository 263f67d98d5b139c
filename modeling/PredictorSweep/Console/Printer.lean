import PredictorSweep.Console.Grid
import PredictorSweep.Text.Space
/-!
# Console messages

Messages go to the console in one of two modes. The plain mode suits machines and logs: no title,
prefixes `OK:`, `WARN:` and `ERROR:`, a summary line `SUMMARY: label=value ...` (spaces in labels
become underscores), and tables as tab-separated lines. The rich mode suits people: a title, the
icons ✓, ⚠ and ✗ before outcomes, a bar before notes, a summary of counts after a blank line, and
bordered tables.

A mode is named by `rich`, `color` or `full`, or by `plain`, `machine` or `quiet`, in any case and
with white space around it; any other name names no mode, which prints plainly. A console that
picks its own mode takes it from the `BPSWEEP_OUTPUT` setting, else prints plainly, since its
output is not a terminal.

Main definitions:

- `Mode`, `Mode.parse`, `Mode.detect`;
- `Icon.render`, `Count`, `Message`, `Message.render`.
-/

namespace PredictorSweep.Console

/-- How the console writes. -/
inductive Mode where
  /-- For people: icons, colours and borders. -/
  | rich
  /-- For machines: prefixes and tab-separated tables. -/
  | plain
  deriving Repr, DecidableEq, Inhabited

namespace Mode

/-- The name of a mode. -/
def name : Mode → String
  | rich => "rich"
  | plain => "plain"

/-- The mode a name names, if any. -/
def parse (s : String) : Option Mode :=
  match (Text.trim s).toLower with
  | "rich" | "color" | "full" => some rich
  | "plain" | "machine" | "quiet" => some plain
  | _ => none

/-- The mode a console picks for itself from the output setting. -/
def detect (setting : String) : Mode := (parse setting).getD plain

end Mode

/-- An icon as shown: the three outcome icons take their styles, any other text stays as it is. -/
def Icon.render (icon : String) : String :=
  if icon == "✓" || icon == "⚠" || icon == "✗" then styled icon else icon

/-- A labelled count of a summary; a bad count is highlighted when not zero. -/
structure Count where
  /-- The label. -/
  label : String
  /-- The count. -/
  value : Int
  /-- Whether a count above zero is bad news. -/
  bad : Bool := false
  deriving Repr, Inhabited

/-- A message to the console. -/
inductive Message where
  /-- A heading. -/
  | title (text : String)
  /-- Something that went well. -/
  | success (text : String)
  /-- Something to look at. -/
  | warning (text : String)
  /-- Something that went wrong. -/
  | error (text : String)
  /-- A note. -/
  | info (text : String)
  /-- A table; rows shorter than the header are filled with empty cells. -/
  | table (headers : List String) (rows : List (List String))
  /-- A line of counts. -/
  | summary (counts : List Count)
  /-- An icon on a line of its own. -/
  | icon (text : String)
  deriving Repr, Inhabited

namespace Message

/-- Rows filled with empty cells to the header's width. -/
def padRows (width : Nat) (rows : List (List String)) : List (List String) :=
  rows.map fun r => if r.length ≥ width then r else r ++ List.replicate (width - r.length) ""

/-- The text a message writes in a mode. -/
def render (mode : Mode) : Message → String
  | title t => if mode == .plain then "" else styled t ++ "\n"
  | success t => if mode == .plain then "OK: " ++ t ++ "\n" else "✓ " ++ styled t ++ "\n"
  | warning t => if mode == .plain then "WARN: " ++ t ++ "\n" else "⚠ " ++ styled t ++ "\n"
  | error t => if mode == .plain then "ERROR: " ++ t ++ "\n" else "✗ " ++ styled t ++ "\n"
  | info t => if mode == .plain then t ++ "\n" else "│ " ++ t ++ "\n"
  | table hs rows =>
    let rows := padRows hs.length rows
    if mode == .plain then
      String.join (("\t".intercalate hs :: rows.map ("\t".intercalate ·)).map (· ++ "\n"))
    else grid hs rows ++ "\n"
  | summary cs =>
    if mode == .plain then
      "SUMMARY: " ++ " ".intercalate (cs.map fun c =>
        "_".intercalate (c.label.splitOn " ") ++ "=" ++ toString c.value) ++ "\n"
    else
      "\n" ++ "  ".intercalate (cs.map fun c => styled (toString c.value) ++ " " ++ styled c.label) ++
        "\n"
  | icon t => Icon.render t ++ "\n"

end Message

end PredictorSweep.Console
