import Std.Data.HashMap
import PredictorSweep.Predictor.Spec
import PredictorSweep.Report.Metric
import PredictorSweep.Diagnostic
/-!
# The result table

The result table holds one record per cell and a reason for each cell known to be missing. It is
kept by family: a family without a table keeps a record per benchmark, a table-backed family a
record per benchmark and size, and each family keeps the shape it was made with. The reasons are
kept by cell key. Each level is a hash map, enumerated in an order of its own.

A cell key is accepted when its family is known, its benchmark is not empty, and its size fits the
family: zero for a family without a table, a valid table size otherwise. Recording a cell replaces
an earlier record, clears its missing mark, and reports the replacement; marking a cell missing is
refused when it holds a record. Once frozen, the table refuses both. A cell is read in its
family's records, and a family without a table holds no record at a nonzero size.

The views list the records family by family, and the count adds up each family's records; the
listings of cells and of missing cells are sorted by key, so they do not depend on the order in
which the records are kept.

Main definitions:

- `Table`, `FamilyCells`, `TableError`, `validateKey`, `checkKey`;
- `Table.record`, `Table.markMissing`, `Table.freeze`: the updates, each returning the new table
  and its outcome;
- `Table.find?`, `Table.reason?`, `Table.size`, `Table.missing`, `Table.incomplete`,
  `Table.cellList`: the views.
-/
namespace PredictorSweep

/-- Why the table refuses an update. -/
inductive TableError where
  /-- The table is frozen. -/
  | frozen
  /-- The key's family is not known. -/
  | unknownFamily (name : String)
  /-- The key has no benchmark. -/
  | emptyBenchmark
  /-- The key's size is not a valid table size for a table-backed family. -/
  | badSize (key : Key) (e : SizeError)
  /-- The key gives a size to a family without a table. -/
  | takesNoSize (key : Key)
  /-- The cell already holds a record. -/
  | duplicateCell (key : Key)
  deriving Repr

namespace TableError

/-- The text of a table error. -/
def message : TableError → String
  | frozen => "metric table is frozen"
  | unknownFamily n => "unknown predictor family: " ++ Text.quote n
  | emptyBenchmark => "key has no benchmark"
  | badSize k e => "key shape does not match predictor family: " ++ k.render ++ ": " ++ e.message
  | takesNoSize k => "key shape does not match predictor family: " ++ k.render ++
      ": family takes no size"
  | duplicateCell k => "metric table cell already populated: " ++ k.render

/-- The class of a table error. -/
def errorClass : TableError → ErrorClass
  | frozen => .tableFrozen
  | unknownFamily _ => .unknownFamily
  | emptyBenchmark => .emptyBenchmark
  | badSize .. | takesNoSize _ => .shapeMismatch
  | duplicateCell _ => .duplicateCell

/-- The view of a table error. -/
def toFailure (e : TableError) : Failure :=
  { message := e.message, classes := [e.errorClass] }

end TableError

/-- The family of a key that names a cell: a known family, a benchmark, and a size that fits the
family. -/
def validateKey (k : Key) : Except TableError Family :=
  match Family.ofName? k.family with
  | none => .error (.unknownFamily k.family)
  | some f =>
    if k.benchmark.isEmpty then .error .emptyBenchmark
    else if f.sized then
      match validateSize k.size with
      | .error e => .error (.badSize k e)
      | .ok () => .ok f
    else if k.size ≠ 0 then .error (.takesNoSize k)
    else .ok f

/-- Whether a key names a cell. -/
def checkKey (k : Key) : Except TableError Unit :=
  (validateKey k).map fun _ => ()

/-- A cell of the table: its key and record. -/
structure Cell where
  /-- The cell's key. -/
  key : Key
  /-- The cell's record. -/
  record : Record
  deriving Inhabited

/-- A cell known to be missing, and why. -/
structure MissingCell where
  /-- The cell's key. -/
  key : Key
  /-- Why it is missing. -/
  reason : String
  deriving Repr, Inhabited

/-- The records of one family: by benchmark for a family without a table, by benchmark and then
size for a table-backed one. -/
inductive FamilyCells where
  /-- A family without a table: a record per benchmark. -/
  | flat (byBenchmark : Std.HashMap String Record)
  /-- A table-backed family: per benchmark, a record per size. -/
  | sized (byBenchmark : Std.HashMap String (Std.HashMap Int Record))

namespace FamilyCells

/-- No records, in the shape a family takes. -/
def empty (f : Family) : FamilyCells :=
  if f.sized then .sized ∅ else .flat ∅

/-- Whether the records are kept by size. -/
def isSized : FamilyCells → Bool
  | .flat _ => false
  | .sized _ => true

/-- The record at a benchmark and size; a family without a table holds none at a nonzero size. -/
def find? : FamilyCells → String → Int → Option Record
  | .flat m, b, size => if size ≠ 0 then none else m[b]?
  | .sized m, b, size => m[b]?.bind (·[size]?)

/-- Sets the record at a benchmark and size, and says whether one was there: a family without a
table keeps one record per benchmark; a table-backed family starts a benchmark's sizes when it has
none. -/
def insert : FamilyCells → String → Int → Record → FamilyCells × Bool
  | .flat m, b, _, r => (.flat (m.insert b r), m.contains b)
  | .sized m, b, size, r =>
    let bySize := m.getD b ∅
    (.sized (m.insert b (bySize.insert size r)), bySize.contains size)

/-- The cells, under a family name, in the order the maps enumerate them. -/
def cells (name : String) : FamilyCells → List Cell
  | .flat m => m.toList.map fun e => ⟨{ family := name, benchmark := e.1 }, e.2⟩
  | .sized m => m.toList.flatMap fun e =>
    e.2.toList.map fun s => ⟨{ family := name, benchmark := e.1, size := s.1 }, s.2⟩

/-- The number of records: one per benchmark, or the sizes of each benchmark added up. -/
def count : FamilyCells → Nat
  | .flat m => m.size
  | .sized m => m.fold (fun n _ bySize => n + bySize.size) 0

theorem isSized_empty (f : Family) : (empty f).isSized = f.sized := by
  unfold empty
  cases f.sized <;> rfl

theorem isSized_insert (c : FamilyCells) (b : String) (size : Int) (r : Record) :
    (c.insert b size r).1.isSized = c.isSized := by
  cases c <;> rfl

end FamilyCells

/-- The result table: the records of each family, the reasons of the cells marked missing, and
whether it is frozen. -/
structure Table where
  /-- Whether the table refuses updates. -/
  frozen : Bool := false
  /-- The records of each family. -/
  families : Family → FamilyCells := FamilyCells.empty
  /-- The reason of each cell marked missing. -/
  markers : Std.HashMap Key String := ∅
  /-- Every family keeps its records in the shape the family takes. -/
  shaped : ∀ f, (families f).isSized = f.sized := by exact FamilyCells.isSized_empty

instance : Inhabited Table := ⟨{}⟩

/-- Sorts keyed items by key. -/
def sortByKey {α : Type} (key : α → Key) (xs : List α) : List α :=
  xs.mergeSort fun a b => !(key b).lt (key a)

namespace Table

/-- Replacing one family's records by records of the same shape keeps every family's shape. -/
theorem shaped_update (t : Table) {f : Family} {c : FamilyCells} (h : c.isSized = f.sized)
    (g : Family) : (if g = f then c else t.families g).isSized = g.sized := by
  by_cases hg : g = f
  · rw [if_pos hg, hg, h]
  · rw [if_neg hg, t.shaped g]

/-- The table with one family's records replaced by records of the same shape. -/
def setFamily (t : Table) (f : Family) (c : FamilyCells) (h : c.isSized = f.sized) : Table :=
  { t with families := fun g => if g = f then c else t.families g, shaped := t.shaped_update h }

/-- The record of a cell, if it holds one: the key's family's record at its benchmark and size. -/
def find? (t : Table) (k : Key) : Option Record :=
  (Family.ofName? k.family).bind fun f => (t.families f).find? k.benchmark k.size

/-- The missing reason of a cell, if it is marked. -/
def reason? (t : Table) (k : Key) : Option String :=
  t.markers[k]?

/-- Records a cell: the record replaces an earlier one and clears the missing mark; replacing is
reported as a duplicate after the update is made. -/
def record (t : Table) (k : Key) (r : Record) : Table × Except TableError Unit :=
  if t.frozen then (t, .error .frozen)
  else
    match validateKey k with
    | .error e => (t, .error e)
    | .ok f =>
      let ins := (t.families f).insert k.benchmark k.size r
      ({ t.setFamily f ins.1 ((FamilyCells.isSized_insert ..).trans (t.shaped f)) with
          markers := t.markers.erase k },
        if ins.2 then .error (.duplicateCell k) else .ok ())

/-- Marks a cell missing with a reason, replacing an earlier reason; refused when the cell holds
a record. -/
def markMissing (t : Table) (k : Key) (why : String) : Table × Except TableError Unit :=
  if t.frozen then (t, .error .frozen)
  else
    match validateKey k with
    | .error e => (t, .error e)
    | .ok _ =>
      if (t.find? k).isSome then (t, .error (.duplicateCell k))
      else ({ t with markers := t.markers.insert k why }, .ok ())

/-- The table refusing further updates. -/
def freeze (t : Table) : Table := { t with frozen := true }

/-- The cells holding records, family by family in listing order, each family's in the order its
maps enumerate them. -/
def cells (t : Table) : List Cell :=
  Family.all.flatMap fun f => (t.families f).cells f.name

/-- The cells marked missing, in the order the map enumerates them. -/
def marks (t : Table) : List MissingCell :=
  t.markers.toList.map fun e => ⟨e.1, e.2⟩

/-- The number of cells holding a record: each family's count, added up. -/
def size (t : Table) : Nat :=
  Family.all.foldl (fun n f => n + (t.families f).count) 0

/-- The missing cells, sorted by key. -/
def missing (t : Table) : List MissingCell := sortByKey (·.key) t.marks

/-- The keys of a list that hold neither a record nor a missing mark, in order. -/
def incomplete (t : Table) (keys : List Key) : List Key :=
  keys.filter fun k => (t.find? k).isNone && (t.reason? k).isNone

/-- One family's cells, sorted by key. -/
def familyCells (t : Table) (f : Family) : List Cell :=
  sortByKey (·.key) ((t.families f).cells f.name)

/-- The cells holding records: family by family in listing order, each family's sorted by key. -/
def cellList (t : Table) : List Cell :=
  Family.all.flatMap t.familyCells

end Table

end PredictorSweep
