import PredictorSweep.Sweep.Outcome
import PredictorSweep.Json.Value
import PredictorSweep.Yaml.Library
import PredictorSweep.Console.Printer
import PredictorSweep.Time.Duration
import PredictorSweep.Number.Format
import PredictorSweep.Text.Quoted
/-!
# Reports of a sweep

The outcome of a sweep is reported in one of three formats. The table format shows a title with
the run, one row per aggregate (its label, samples, mean instructions per cycle to four places,
mean counts to one place, the rates to four places, `-` for what is undefined), the notes when
there are any, and a summary of the counts. The data formats write the outcome as a document:
its run, counts, aggregates, missing cells, notes, start and duration, a zero size, an undefined
mean or rate and an empty metric left out.

A data document cannot hold a number that is not finite; such an outcome is refused.

Main definitions:

- `ReportFormat`, `ReportFormat.parse`;
- `RunStamp`: the run's identity and timing as reported;
- `outcomeJson`, `outcomeYaml`, `outcomeMessages`.
-/

namespace PredictorSweep.Cli

/-- How an outcome is reported. -/
inductive ReportFormat where
  | table
  | json
  | yaml
  deriving Repr, DecidableEq, Inhabited

/-- The format a name names, or the refusal. -/
def ReportFormat.parse (s : String) : Except String ReportFormat :=
  match s with
  | "table" => .ok .table
  | "json" => .ok .json
  | "yaml" => .ok .yaml
  | _ => .error ("--format: unknown format " ++ Text.quote s ++ " (want table, json or yaml)")

/-- A run's identity and timing as a report shows them. -/
structure RunStamp where
  /-- The run's identifier. -/
  runId : String
  /-- When the run started, as written. -/
  started : String
  /-- How long it took. -/
  duration : Duration
  deriving Inhabited

/-- A cell key as a document. -/
def keyJson (k : Key) : Json.Value :=
  .obj ([("family", .str k.family), ("benchmark", .str k.benchmark)] ++
    (if k.size = 0 then [] else [("size", .int k.size)]))

/-- A number as a document, or the refusal of one that is not finite. -/
def numberJson (x : Float) : Except String Json.Value :=
  if x.isNaN then .error "json: unsupported value: NaN"
  else if x.isInf then .error ("json: unsupported value: " ++ (if x > 0 then "+Inf" else "-Inf"))
  else .ok (.num x)

/-- An aggregate as a document. -/
def aggregateJson (a : Aggregate) : Except String Json.Value := do
  let opt (name : String) (x : Option Float) : Except String (List (String × Json.Value)) :=
    match x with
    | some v => do pure [(name, ← numberJson v)]
    | none => pure []
  pure (.obj ([("family", .str a.family)] ++
    (if a.size = 0 then [] else [("size", .int a.size)]) ++
    [("benchmarks", .arr (a.benchmarks.map .str)), ("samples", .int a.samples)] ++
    (← opt "mean_ipc" a.meanIpc) ++ (← opt "mean_updates" a.meanUpdates) ++
    (← opt "mean_addr_hits" a.meanAddrHits) ++ (← opt "mean_dir_hits" a.meanDirHits) ++
    (← opt "mean_misses" a.meanMisses) ++
    [("sum_updates", ← numberJson a.sumUpdates), ("sum_addr_hits", ← numberJson a.sumAddrHits),
     ("sum_dir_hits", ← numberJson a.sumDirHits), ("sum_misses", ← numberJson a.sumMisses)] ++
    (← opt "addr_rate" a.addrRate) ++ (← opt "dir_rate" a.dirRate)))

/-- A note as a document. -/
def diagnosticJson (d : Diagnostic) : Json.Value :=
  .obj ([("stage", .str d.stage.name), ("key", keyJson d.key)] ++
    (if d.metric.isEmpty then [] else [("metric", .str d.metric)]) ++ [("reason", .str d.reason)])

/-- The outcome as a document, indented by two spaces, ending with a line break. -/
def outcomeJson (stamp : RunStamp) (o : Outcome) : Except String String := do
  let aggs ← o.aggregates.mapM aggregateJson
  let doc : Json.Value := .obj
    [("run_id", .str stamp.runId), ("executed", .int o.executed), ("reused", .int o.reused),
     ("failed", .int o.failed), ("aggregates", if aggs.isEmpty then .null else .arr aggs),
     ("missing", .arr (o.missing.map fun m =>
        .obj [("key", keyJson m.key), ("reason", .str m.reason)])),
     ("diagnostics", .arr (o.diagnostics.map diagnosticJson)),
     ("started", .str stamp.started), ("duration", .int stamp.duration.nanos)]
  pure (Json.Value.renderIndented {} "  " 0 doc ++ "\n")

/-- A cell key as YAML. -/
def keyYaml (k : Key) : Yaml.Value :=
  .mapping ([("family", .ofString k.family), ("benchmark", .ofString k.benchmark)] ++
    (if k.size = 0 then [] else [("size", .ofInt k.size)]))

/-- An aggregate as YAML. -/
def aggregateYaml (a : Aggregate) : Yaml.Value :=
  let opt (name : String) (x : Option Float) : List (String × Yaml.Value) :=
    match x with
    | some v => [(name, .ofFloat v)]
    | none => []
  .mapping ([("family", .ofString a.family)] ++
    (if a.size = 0 then [] else [("size", .ofInt a.size)]) ++
    [("benchmarks", .sequence (a.benchmarks.map .ofString)), ("samples", .ofInt a.samples)] ++
    opt "mean_ipc" a.meanIpc ++ opt "mean_updates" a.meanUpdates ++
    opt "mean_addr_hits" a.meanAddrHits ++ opt "mean_dir_hits" a.meanDirHits ++
    opt "mean_misses" a.meanMisses ++
    [("sum_updates", .ofFloat a.sumUpdates), ("sum_addr_hits", .ofFloat a.sumAddrHits),
     ("sum_dir_hits", .ofFloat a.sumDirHits), ("sum_misses", .ofFloat a.sumMisses)] ++
    opt "addr_rate" a.addrRate ++ opt "dir_rate" a.dirRate)

/-- The outcome as YAML with two-space indentation, as the program's YAML library writes it. -/
def outcomeYaml (stamp : RunStamp) (o : Outcome) : String :=
  let doc : Yaml.Value := .mapping
    [("run_id", .ofString stamp.runId), ("executed", .ofInt o.executed),
     ("reused", .ofInt o.reused), ("failed", .ofInt o.failed),
     ("aggregates", .sequence (o.aggregates.map aggregateYaml)),
     ("missing", .sequence (o.missing.map fun m =>
        .mapping [("key", keyYaml m.key), ("reason", .ofString m.reason)])),
     ("diagnostics", .sequence (o.diagnostics.map fun d =>
        .mapping ([("stage", .ofString d.stage.name), ("key", keyYaml d.key)] ++
          (if d.metric.isEmpty then [] else [("metric", .ofString d.metric)]) ++
          [("reason", .ofString d.reason)]))),
     ("started", .scalar stamp.started .plain), ("duration", .ofString stamp.duration.render)]
  Yaml.Library.write 2 doc

/-- A value shown to a number of places, `-` when undefined. -/
def optionalCell (x : Option Float) (places : Nat) : String :=
  match x with
  | some v => Text.trim (Number.fixed v places)
  | none => "-"

/-- The columns of the aggregate table. -/
def aggregateHeaders : List String :=
  ["predictor", "samples", "ipc", "updates", "addr_hits", "dir_hits", "misses", "addr_rate",
   "dir_rate"]

/-- An aggregate as a table row. -/
def aggregateRow (a : Aggregate) : List String :=
  [a.label, toString a.samples, optionalCell a.meanIpc 4, optionalCell a.meanUpdates 1,
   optionalCell a.meanAddrHits 1, optionalCell a.meanDirHits 1, optionalCell a.meanMisses 1,
   optionalCell a.addrRate 4, optionalCell a.dirRate 4]

/-- The outcome as console messages: the title, the table, the notes and the summary. -/
def outcomeMessages (stamp : RunStamp) (o : Outcome) : List Console.Message :=
  [.title ("Branch predictor sweep " ++ stamp.runId),
   .table aggregateHeaders (o.aggregates.map aggregateRow)] ++
  (if o.diagnostics.isEmpty then []
   else .warning (toString o.diagnostics.length ++ " diagnostics") ::
     o.diagnostics.map fun d => .info d.render) ++
  [.summary [{ label := "executed", value := o.executed },
             { label := "reused", value := o.reused },
             { label := "failed", value := o.failed, bad := true },
             { label := "missing cells", value := o.missing.length, bad := true }]]

end PredictorSweep.Cli
