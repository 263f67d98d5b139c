import PredictorSweep.Report.Scan
import PredictorSweep.Diagnostic
/-!
# Parsed reports

Parsing a report for a cell reads every metric in order. A metric read is set in the record;
a metric that cannot be read gives one parse diagnostic naming it, whose reason is
`pattern not found in report` when no line states it and the lookup error's text otherwise. A
parse is complete when it has no diagnostic.

Main definitions:

- `Parsed`, `Parsed.complete`;
- `parseReport`: the record and diagnostics of a report for a cell.
-/

namespace PredictorSweep

/-- The outcome of parsing a report for a cell. -/
structure Parsed where
  /-- The cell the report belongs to. -/
  key : Key
  /-- The metrics read. -/
  record : Record
  /-- One diagnostic per metric that could not be read, in metric order. -/
  diagnostics : List Diagnostic
  deriving Inhabited

/-- A parse is complete when every metric was read. -/
def Parsed.complete (p : Parsed) : Bool := p.diagnostics.isEmpty

/-- The reason a metric could not be read. -/
def LookupError.reason : LookupError → String
  | .notFound => "pattern not found in report"
  | e => e.message

/-- Reads every metric of a report for a cell. -/
def parseReport (key : Key) (report : String) : Parsed :=
  let step (p : Parsed) (m : Metric) : Parsed :=
    match m.lookup report with
    | .ok v => { p with record := p.record.insert m.name v }
    | .error e =>
      { p with diagnostics := p.diagnostics ++
          [{ stage := .parse, key, metric := m.name, reason := e.reason }] }
  Metric.all.foldl step { key, record := {}, diagnostics := [] }

end PredictorSweep
