import PredictorSweep.Context
import PredictorSweep.Files.Tree
/-!
# Telemetry

A sweep may export traces, to a collector (`otlp`) or as text (`stdout`), and metrics, to the
process's metric registry (`prometheus`) or as text (`stdout`); `none` or the empty name exports
nothing. The names default to the `OTEL_TRACES_EXPORTER` and `OTEL_METRICS_EXPORTER` settings, else
`none`, and the collector to `OTEL_EXPORTER_OTLP_ENDPOINT`, else `localhost:4317`.

Starting telemetry needs a context, then checks the trace exporter's name, then the metric
exporter's. Shutting it down flushes what is pending: a text exporter of traces writes the spans
ended so far, and a text exporter of metrics always writes its collection. Spans bound for a
collector are sent to it, and the shutdown fails with the collector's reason when it does not take
them; the collector's reply is a parameter, since the collector is a service outside the program.

Metrics are written to a text file through a temporary file beside it, renamed over it.

Main definitions:

- `TelemetryConfig`, `TelemetryConfig.ofEnv`;
- `TelemetryError`, `Telemetry`, `TelemetryConfig.start`;
- `Telemetry.shutdown`, `Telemetry.writesOnShutdown`;
- `writeMetricsFile`.
-/

namespace PredictorSweep

/-- How telemetry is set up. -/
structure TelemetryConfig where
  /-- The service's name. -/
  serviceName : String := "bpsweep"
  /-- The service's version. -/
  serviceVersion : String := "dev"
  /-- The run carried by every span, when given. -/
  runId : String := ""
  /-- The trace exporter's name. -/
  traces : String := "none"
  /-- The metric exporter's name. -/
  metrics : String := "none"
  /-- The trace collector's address. -/
  otlpEndpoint : String := "localhost:4317"
  /-- Whether the collector is reached without encryption. -/
  otlpInsecure : Bool := true
  /-- Whether text exporters write to a writer of the caller's, rather than standard error. -/
  toWriter : Bool := true
  deriving Repr, Inhabited

/-- The defaults, with the exporters and collector taken from the environment's settings when set. -/
def TelemetryConfig.ofEnv (setting : String → String) : TelemetryConfig :=
  let orElse (name fallback : String) := if (setting name).isEmpty then fallback else setting name
  { traces := orElse "OTEL_TRACES_EXPORTER" "none"
    metrics := orElse "OTEL_METRICS_EXPORTER" "none"
    otlpEndpoint := orElse "OTEL_EXPORTER_OTLP_ENDPOINT" "localhost:4317" }

/-- Where traces are exported. -/
inductive TraceExporter where
  /-- To a collector. -/
  | otlp
  /-- As text. -/
  | stdout
  deriving DecidableEq, Repr, Inhabited

/-- Where metrics are exported. -/
inductive MetricExporter where
  /-- To the process's metric registry. -/
  | prometheus
  /-- As text. -/
  | stdout
  deriving DecidableEq, Repr, Inhabited

/-- Why telemetry could not start. -/
inductive TelemetryError where
  /-- No context was given. -/
  | absentContext
  /-- The trace exporter's name is not known. -/
  | unknownTraceExporter (name : String)
  /-- The metric exporter's name is not known. -/
  | unknownMetricExporter (name : String)
  deriving DecidableEq, Repr

/-- The text of a telemetry error. -/
def TelemetryError.message : TelemetryError → String
  | .absentContext => "context must not be nil"
  | .unknownTraceExporter n => "init tracer: unknown exporter: " ++ n
  | .unknownMetricExporter n => "init meter: unknown exporter: " ++ n

/-- Telemetry that has started: its exporters, and whether text goes to the caller's writer. -/
structure Telemetry where
  /-- The trace exporter, if any. -/
  traces : Option TraceExporter
  /-- The metric exporter, if any. -/
  metrics : Option MetricExporter
  /-- Whether text exporters write to the caller's writer. -/
  toWriter : Bool
  deriving Repr, Inhabited

/-- Starts telemetry, or says why it cannot start. -/
def TelemetryConfig.start (c : TelemetryConfig) (ctx : RunContext) :
    Except TelemetryError Telemetry := do
  if ctx == .absent then throw .absentContext
  let traces ← match c.traces with
    | "" | "none" => pure none
    | "otlp" => pure (some .otlp)
    | "stdout" => pure (some .stdout)
    | n => throw (.unknownTraceExporter n)
  let metrics ← match c.metrics with
    | "" | "none" => pure none
    | "prometheus" => pure (some .prometheus)
    | "stdout" => pure (some .stdout)
    | n => throw (.unknownMetricExporter n)
  pure { traces, metrics, toWriter := c.toWriter }

namespace Telemetry

/-- Shuts telemetry down after some spans have ended. Spans bound for a collector are sent to it,
and `collector` is its reply to a batch of that many spans: the shutdown fails with the reply's
reason. Nothing else a shutdown does can fail. -/
def shutdown (t : Telemetry) (collector : Nat → Except String Unit) (spans : Nat) :
    Except String Unit :=
  if t.traces == some .otlp && spans > 0 then collector spans else .ok ()

/-- Whether shutting down writes text to the caller's writer. -/
def writesOnShutdown (t : Telemetry) (spans : Nat) : Bool :=
  t.toWriter && ((t.traces == some .stdout && spans > 0) || t.metrics == some .stdout)

end Telemetry

/-- Writes a metrics text file: a temporary file named by the file's name and a suffix is made
beside it, then renamed over it, which fails when a directory stands there. -/
def writeMetricsFile (files : FileTree) (path suffix content : String) :
    Except String FileTree := do
  let why := "write metrics textfile: "
  let temp := Path.dir path ++ "/" ++ Path.base path ++ suffix
  match files.create temp "" with
  | .error e => throw (why ++ e.message)
  | .ok _ => pure ()
  match files.stat path with
  | .ok .dir => throw (why ++ "rename " ++ temp ++ " " ++ path ++ ": file exists")
  | _ =>
    match files.create path content with
    | .ok files => pure files
    | .error e => throw (why ++ "rename " ++ temp ++ " " ++ path ++ ": " ++ e.errno.text)

end PredictorSweep
