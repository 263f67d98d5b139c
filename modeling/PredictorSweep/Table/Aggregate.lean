import PredictorSweep.Table.Basic
/-!
# Aggregates

The table is summarised per group: each family without a table that holds a record or a
missing mark, as one group of size zero; and each table-backed family with each size that
appears in one of its records or marks, sizes ascending. Groups come in family order.

In a group, missing cells are skipped with a diagnostic, and so are cells lacking a required
metric. The remaining cells, in key order, contribute their benchmark and their required
metrics to running sums. The means are the sums divided by the number of contributing cells,
and the address and direction rates are the hit sums divided by the update sum. A group with no
contributing cell has no means and no rates; a group whose update sum is zero has no rates.

Main definitions:

- `Aggregate`, `Aggregate.label`;
- `Table.groups`, `Table.aggregateGroup`, `Table.aggregate`.
-/

namespace PredictorSweep

/-- The summary of one group of cells. -/
structure Aggregate where
  /-- The group's family. -/
  family : String
  /-- The group's size, zero for a family without a table. -/
  size : Int
  /-- The contributing benchmarks, in key order. -/
  benchmarks : List String
  /-- How many cells contributed. -/
  samples : Nat
  /-- Mean instructions per cycle. -/
  meanIpc : Option Float
  /-- Mean updates. -/
  meanUpdates : Option Float
  /-- Mean address hits. -/
  meanAddrHits : Option Float
  /-- Mean direction hits. -/
  meanDirHits : Option Float
  /-- Mean misses. -/
  meanMisses : Option Float
  /-- Sum of updates. -/
  sumUpdates : Float
  /-- Sum of address hits. -/
  sumAddrHits : Float
  /-- Sum of direction hits. -/
  sumDirHits : Float
  /-- Sum of misses. -/
  sumMisses : Float
  /-- Address hits per update. -/
  addrRate : Option Float
  /-- Direction hits per update. -/
  dirRate : Option Float
  deriving Inhabited

/-- The label of an aggregate: the family, and `_size` for a sized group. -/
def Aggregate.label (a : Aggregate) : String :=
  if a.size = 0 then a.family else a.family ++ "_" ++ toString a.size

/-- Running sums over the contributing cells. -/
structure Sums where
  /-- Benchmarks seen, in order. -/
  benchmarks : List String := []
  /-- Sum of instructions per cycle. -/
  ipc : Float := 0
  /-- Sum of updates. -/
  updates : Float := 0
  /-- Sum of address hits. -/
  addrHits : Float := 0
  /-- Sum of direction hits. -/
  dirHits : Float := 0
  /-- Sum of misses. -/
  misses : Float := 0

/-- Adds a cell to the sums. -/
def Sums.add (s : Sums) (bench : String) (r : Record) : Sums :=
  { benchmarks := s.benchmarks ++ [bench],
    ipc := s.ipc + r.getD "ipc",
    updates := s.updates + r.getD "updates",
    addrHits := s.addrHits + r.getD "addr_hits",
    dirHits := s.dirHits + r.getD "dir_hits",
    misses := s.misses + r.getD "misses" }

/-- Inserts into an ascending list of distinct integers. -/
def insertSize (n : Int) : List Int → List Int
  | [] => [n]
  | m :: rest => if n < m then n :: m :: rest else if n = m then m :: rest else m :: insertSize n rest

namespace Table

/-- The groups of the table: `(family, size)` pairs in family order, sizes ascending. -/
def groups (t : Table) : List (Family × Int) :=
  Family.all.flatMap fun f =>
    let keys := t.cells.map (·.key) ++ t.marks.map (·.key)
    let ofFamily := keys.filter (·.family == f.name)
    if f.sized then (ofFamily.foldr (fun k acc => insertSize k.size acc) []).map (f, ·)
    else if ofFamily.isEmpty then [] else [(f, 0)]

/-- The summary of one group and the diagnostics it raises. -/
def aggregateGroup (t : Table) (f : Family) (size : Int) : Aggregate × List Diagnostic :=
  let groupKey : Key := { family := f.name, benchmark := "", size }
  let inGroup (k : Key) : Bool := k.family == f.name && k.size == size
  let skipped := (t.missing.filter (inGroup ·.key)).map fun m =>
    ({ stage := .aggregate, key := m.key, reason := "cell skipped: " ++ m.reason } : Diagnostic)
  let required := Metric.required.map Metric.name
  let step (acc : Sums × List Diagnostic) (c : Cell) : Sums × List Diagnostic :=
    match c.record.missing required with
    | [] => (acc.1.add c.key.benchmark c.record, acc.2)
    | absent =>
      let d : Diagnostic :=
        { stage := .aggregate, key := c.key, metric := String.intercalate "," absent,
          reason := "cell skipped: required metrics missing" }
      (acc.1, acc.2 ++ [d])
  let (sums, diags) := (t.cellList.filter (inGroup ·.key)).foldl step ({}, skipped)
  let n := sums.benchmarks.length
  let base : Aggregate :=
    { family := f.name, size, benchmarks := sums.benchmarks, samples := n,
      meanIpc := none, meanUpdates := none, meanAddrHits := none, meanDirHits := none,
      meanMisses := none, sumUpdates := sums.updates, sumAddrHits := sums.addrHits,
      sumDirHits := sums.dirHits, sumMisses := sums.misses, addrRate := none, dirRate := none }
  if n = 0 then
    let d : Diagnostic :=
      { stage := .aggregate, key := groupKey,
        reason := "no contributing benchmarks; aggregate undefined" }
    (base, diags ++ [d])
  else
    let count := n.toFloat
    let withMeans :=
      { base with meanIpc := some (sums.ipc / count), meanUpdates := some (sums.updates / count),
                  meanAddrHits := some (sums.addrHits / count),
                  meanDirHits := some (sums.dirHits / count),
                  meanMisses := some (sums.misses / count) }
    if sums.updates == 0 then
      let d : Diagnostic :=
        { stage := .aggregate, key := groupKey, metric := "updates",
          reason := "sum of updates is zero; rates undefined" }
      (withMeans, diags ++ [d])
    else
      ({ withMeans with addrRate := some (sums.addrHits / sums.updates),
                        dirRate := some (sums.dirHits / sums.updates) }, diags)

/-- The summaries of all groups, and their diagnostics in group order. -/
def aggregate (t : Table) : List Aggregate × List Diagnostic :=
  t.groups.foldl (fun (as, ds) (f, size) =>
    let (a, d) := t.aggregateGroup f size
    (as ++ [a], ds ++ d)) ([], [])

end Table

end PredictorSweep
