import PredictorSweep.Number.Format
/-!
# Metrics and records

A simulator report states statistics one per line. Seven of them are the sweep's metrics:
instructions per cycle, and the branch predictor's updates, address hits, direction hits,
misses, address rate and direction rate. The first five are required for a cell to count in an
aggregate.

A record maps metric names to values. Any name may be a key; records are written
`{name=value …}` with the seven metrics in their order, values in general notation, and other
names left out.

Main definitions:

- `Metric`, `Metric.all`, `Metric.required`, `Metric.ofName?`;
- `Record`, `Record.get?`, `Record.insert`, `Record.missing`, `Record.render`.
-/

namespace PredictorSweep

/-- The metrics a sweep reads from a report. -/
inductive Metric where
  /-- Instructions per cycle. -/
  | ipc
  /-- Predictor updates. -/
  | updates
  /-- Correct target address predictions. -/
  | addrHits
  /-- Correct direction predictions. -/
  | dirHits
  /-- Mispredictions. -/
  | misses
  /-- Address hits per update. -/
  | addrRate
  /-- Direction hits per update. -/
  | dirRate
  deriving DecidableEq, Repr

namespace Metric

/-- Every metric, in order. -/
def all : List Metric := [ipc, updates, addrHits, dirHits, misses, addrRate, dirRate]

/-- The metrics a cell needs to count in an aggregate. -/
def required : List Metric := [ipc, updates, addrHits, dirHits, misses]

/-- The name of a metric. -/
def name : Metric → String
  | ipc => "ipc"
  | updates => "updates"
  | addrHits => "addr_hits"
  | dirHits => "dir_hits"
  | misses => "misses"
  | addrRate => "addr_rate"
  | dirRate => "dir_rate"

/-- The metric a text names, if any. -/
def ofName? (s : String) : Option Metric := all.find? (·.name == s)

end Metric

/-- Metric values by name; each name appears once. -/
structure Record where
  /-- The entries, each name once, in the order they were first set. -/
  entries : List (String × Float) := []
  deriving Inhabited

namespace Record

/-- The value of a name, if set. -/
def get? (r : Record) (name : String) : Option Float :=
  (r.entries.find? (·.1 == name)).map (·.2)

/-- The value of a name, zero when unset. -/
def getD (r : Record) (name : String) : Float := (r.get? name).getD 0

/-- Whether a name is set. -/
def has (r : Record) (name : String) : Bool := (r.get? name).isSome

/-- The record with a name set to a value, replacing an earlier value. -/
def insert (r : Record) (name : String) (v : Float) : Record :=
  if r.has name then ⟨r.entries.map fun (k, x) => if k == name then (k, v) else (k, x)⟩
  else ⟨r.entries ++ [(name, v)]⟩

/-- The record of a list of entries; a later entry for a name replaces an earlier one. -/
def ofList (xs : List (String × Float)) : Record :=
  xs.foldl (fun r (k, v) => r.insert k v) {}

/-- The names of a list that are not set, in the list's order. -/
def missing (r : Record) (names : List String) : List String :=
  names.filter fun n => !r.has n

/-- The record written `{name=value …}`: the metrics in order, in general notation. -/
def render (r : Record) : String :=
  let parts := Metric.all.filterMap fun m =>
    (r.get? m.name).map fun v => m.name ++ "=" ++ Number.general v
  "\x7b" ++ " ".intercalate parts ++ "\x7d"

/-- The entries sorted by name. -/
def sorted (r : Record) : List (String × Float) :=
  r.entries.mergeSort fun a b => decide (a.1 ≤ b.1)

end Record

end PredictorSweep
