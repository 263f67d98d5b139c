import PredictorSweep.Table.Aggregate
import PredictorSweep.Sweep.Job
/-!
# The outcome of a sweep

A sweep, or a reading of a directory of logs, fills a result table and notes what went wrong on
the way. It counts the jobs run (or logs read), the cells filled from earlier results, and the
cells that failed. When it is done the table is frozen, each group of cells is summarised, and
the notes are put in report order.

Main definitions:

- `Outcome`;
- `Outcome.note`, `Outcome.finish`.
-/

namespace PredictorSweep

/-- What a sweep produced. -/
structure Outcome where
  /-- The jobs of the sweep; none for a reading of logs. -/
  jobs : List Job := []
  /-- The jobs run, or the logs read. -/
  executed : Nat := 0
  /-- The cells filled from earlier results. -/
  reused : Nat := 0
  /-- The cells that failed. -/
  failed : Nat := 0
  /-- The result table. -/
  table : Table := {}
  /-- The summaries of the groups of cells, once done. -/
  aggregates : List Aggregate := []
  /-- The cells known to be missing, once done. -/
  missing : List MissingCell := []
  /-- The notes: in the order made until done, then in report order. -/
  diagnostics : List Diagnostic := []
  deriving Inhabited

namespace Outcome

/-- Adds a note. -/
def note (o : Outcome) (d : Diagnostic) : Outcome :=
  { o with diagnostics := o.diagnostics ++ [d] }

/-- Adds notes in order. -/
def noteAll (o : Outcome) (ds : List Diagnostic) : Outcome :=
  { o with diagnostics := o.diagnostics ++ ds }

/-- Ends a sweep: the table frozen, its groups summarised, the missing cells listed, and the
notes, the summaries' own included, in report order. -/
def finish (o : Outcome) : Outcome :=
  let table := o.table.freeze
  let (aggregates, extra) := table.aggregate
  { o with table, aggregates, missing := table.missing,
           diagnostics := Diagnostic.sort (o.diagnostics ++ extra) }

end Outcome

end PredictorSweep
