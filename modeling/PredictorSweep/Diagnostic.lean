import PredictorSweep.Sweep.Key
/-!
# Diagnostics

A diagnostic records something a sweep stage could not do for a cell: the stage, the cell's key,
the metric concerned if any, and the reason. It is written `[stage] key[ metric=m]: reason`.

Stages rank in pipeline order: execute, ingest, parse, store, aggregate. A list of diagnostics is
reported sorted by stage rank, then key order, then metric name, equal diagnostics keeping the
order they were added in; the sort moves each diagnostic left past every one that ranks after
it.

Main definitions:

- `Stage`, `Stage.rank`, `Diagnostic`, `Diagnostic.render`;
- `Diagnostic.before`: the sort test;
- `insertionSort`, `Diagnostic.sort`;
- `DiagnosticList`: diagnostics gathered in the order they were added, read back sorted.
-/

namespace PredictorSweep

/-- The stages of a sweep, and any other stage name met in input. -/
inductive Stage where
  /-- Running jobs. -/
  | execute
  /-- Reading job logs from a directory. -/
  | ingest
  /-- Reading metrics from a report. -/
  | parse
  /-- Keeping results in the result store. -/
  | store
  /-- Combining cells into aggregates. -/
  | aggregate
  /-- A stage name outside the pipeline. -/
  | other (name : String)
  deriving DecidableEq, Repr, Inhabited

namespace Stage

/-- The name of a stage. -/
def name : Stage → String
  | execute => "execute"
  | ingest => "ingest"
  | parse => "parse"
  | store => "store"
  | aggregate => "aggregate"
  | other s => s

/-- The stage a name denotes. -/
def ofName (s : String) : Stage :=
  match s with
  | "execute" => execute
  | "ingest" => ingest
  | "parse" => parse
  | "store" => store
  | "aggregate" => aggregate
  | _ => other s

/-- The pipeline position of a stage; a stage outside the pipeline ranks first. -/
def rank : Stage → Nat
  | execute => 0
  | ingest => 1
  | parse => 2
  | store => 3
  | aggregate => 4
  | other _ => 0

end Stage

/-- Something a stage could not do for a cell. -/
structure Diagnostic where
  /-- The stage that reports it. -/
  stage : Stage
  /-- The cell concerned. -/
  key : Key
  /-- The metric concerned, or empty. -/
  metric : String := ""
  /-- What went wrong. -/
  reason : String
  deriving DecidableEq, Repr, Inhabited

/-- Inserts `x` into a list sorted for `lt`, after every element it does not sort before, seen
from the end: `x` passes leftwards over the elements that `x` sorts before. -/
def insertSorted {α : Type} (lt : α → α → Bool) (x : α) (xs : List α) : List α :=
  -- scanning the reversed list: stop at the first element `x` does not sort before
  let rec go : List α → List α → List α
    | [], acc => x :: acc
    | y :: ys, acc => if lt x y then go ys (y :: acc) else (y :: ys).reverse ++ x :: acc
  go xs.reverse []

/-- Sorts by inserting each element in turn, from the first; stable. -/
def insertionSort {α : Type} (lt : α → α → Bool) (xs : List α) : List α :=
  xs.foldl (fun acc x => insertSorted lt x acc) []

namespace Diagnostic

/-- The written form `[stage] key[ metric=m]: reason`. -/
def render (d : Diagnostic) : String :=
  "[" ++ d.stage.name ++ "] " ++ d.key.render ++
    (if d.metric.isEmpty then "" else " metric=" ++ d.metric) ++ ": " ++ d.reason

/-- Whether `a` sorts before `b`: by stage rank when the stages differ, then by key when the keys
differ, then by metric. -/
def before (a b : Diagnostic) : Bool :=
  if a.stage ≠ b.stage then decide (a.stage.rank < b.stage.rank)
  else if a.key ≠ b.key then a.key.lt b.key
  else decide (a.metric < b.metric)

/-- Diagnostics in report order. -/
def sort (ds : List Diagnostic) : List Diagnostic := insertionSort before ds

/-- The diagnostics of one stage, in order. -/
def ofStage (ds : List Diagnostic) (s : Stage) : List Diagnostic :=
  ds.filter (·.stage == s)

end Diagnostic

/-- The diagnostics a phase gathers, in the order they were added. -/
structure DiagnosticList where
  /-- Everything added so far, oldest first. -/
  added : List Diagnostic := []
  deriving Inhabited

namespace DiagnosticList

/-- Adds diagnostics after those already there. -/
def add (l : DiagnosticList) (ds : List Diagnostic) : DiagnosticList := ⟨l.added ++ ds⟩

/-- How many diagnostics were added. -/
def len (l : DiagnosticList) : Nat := l.added.length

/-- The diagnostics added, in report order. -/
def items (l : DiagnosticList) : List Diagnostic := Diagnostic.sort l.added

end DiagnosticList

end PredictorSweep
