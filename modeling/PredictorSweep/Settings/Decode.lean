import PredictorSweep.Settings.Basic
import PredictorSweep.Yaml.Decode
/-!
# Reading settings from a document

The settings file's sections and fields are decoded over the current settings, so that what the
file leaves out keeps its value. Each field has its type's rules (see `Yaml.Decoder`); the type
names in errors are those the file's reference decoder reports.

The timeout is text such as `30m`, decoded apart from the rest: a node that is not text fails
with "duration must be a string like "30m"" and the decoding errors; an empty text or `0` is no
limit; otherwise the text must be a duration, and not a negative one, else the failure names the
node's line.

Main definitions:

- `Settings.decodeTimeout`;
- `Settings.decode`.
-/

namespace PredictorSweep

open Yaml

namespace Settings

/-- Sets a field from a decoded value, or leaves the record as it was. -/
def update {α σ : Type} (d : Decoder (Option α)) (s : σ) (f : α → σ) : Decoder σ := do
  match ← d with
  | some v => pure (f v)
  | none => pure s

/-- Decodes a field of the simulator section. -/
def setSimulator (name : String) (n : Node) (s : SimulatorSettings) :
    Decoder SimulatorSettings :=
  match name with
  | "driver" => update (Decoder.text n) s fun v => { s with driver := v }
  | "bench_db" => update (Decoder.text n) s fun v => { s with benchDb := v }
  | "binary" => update (Decoder.text n) s fun v => { s with binary := v }
  | "results_dir" => update (Decoder.text n) s fun v => { s with resultsDir := v }
  | "fast_forward" => update (Decoder.integer "int64" n) s fun v => { s with fastForward := v }
  | "max_inst" => update (Decoder.integer "int64" n) s fun v => { s with maxInst := v }
  | _ => pure s

/-- Decodes a field of the sweep section. -/
def setSweep (name : String) (n : Node) (s : SweepSettings) : Decoder SweepSettings :=
  match name with
  | "benchmarks" =>
    update (Decoder.list "[]string" Decoder.text n) s fun v => { s with benchmarks := v }
  | "sizes" =>
    update (Decoder.list "[]int" (Decoder.integer "int") n) s fun v => { s with sizes := v }
  | "families" =>
    update (Decoder.list "[]string" Decoder.text n) s fun v => { s with families := v }
  | _ => pure s

/-- Decodes a timeout over the current one. -/
def decodeTimeout (n : Node) (current : Duration) : Decoder Duration :=
  Decoder.followAlias n fun n =>
    if n.tag == "!!null" then
      match n with
      | .scalar .. => pure current
      | .mapping entries .. => do
        if (← Decoder.distinctKeys entries) then Decoder.typeError n "config.Duration"
        pure current
      | _ => do
        Decoder.typeError n "config.Duration"
        pure current
    else do
      match ← Decoder.isolated (Decoder.text n) with
      | .error m => throw ("duration must be a string like \"30m\": " ++ m)
      | .ok none => pure current
      | .ok (some text) =>
        if text == "" || text == "0" then pure ⟨0⟩
        else match Duration.parse text with
          | .error e => throw ("line " ++ toString n.line ++ ": " ++ e.message)
          | .ok d =>
            if d.nanos < 0 then
              throw ("line " ++ toString n.line ++ ": duration must not be negative")
            else pure d

/-- Decodes a field of the execution section. -/
def setExecution (name : String) (n : Node) (s : ExecutionSettings) :
    Decoder ExecutionSettings :=
  match name with
  | "concurrency" => update (Decoder.integer "int" n) s fun v => { s with concurrency := v }
  | "timeout" => do
    let t ← decodeTimeout n s.timeout
    pure { s with timeout := t }
  | "launch_rate" => update (Decoder.real n) s fun v => { s with launchRate := v }
  | "max_output_bytes" =>
    update (Decoder.integer "int" n) s fun v => { s with maxOutputBytes := v }
  | _ => pure s

/-- Decodes a field of the store section. -/
def setStore (name : String) (n : Node) (s : StoreSettings) : Decoder StoreSettings :=
  match name with
  | "path" => update (Decoder.text n) s fun v => { s with path := v }
  | "resume" => update (Decoder.flag n) s fun v => { s with resume := v }
  | _ => pure s

/-- Decodes a field of the telemetry section. -/
def setTelemetry (name : String) (n : Node) (s : TelemetrySettings) :
    Decoder TelemetrySettings :=
  match name with
  | "service_name" => update (Decoder.text n) s fun v => { s with serviceName := v }
  | "traces" => update (Decoder.text n) s fun v => { s with traces := v }
  | "metrics" => update (Decoder.text n) s fun v => { s with metrics := v }
  | "otlp_endpoint" => update (Decoder.text n) s fun v => { s with otlpEndpoint := v }
  | _ => pure s

/-- Decodes a field of the logging section. -/
def setLogging (name : String) (n : Node) (s : LoggingSettings) : Decoder LoggingSettings :=
  match name with
  | "level" => update (Decoder.text n) s fun v => { s with level := v }
  | "dir" => update (Decoder.text n) s fun v => { s with dir := v }
  | "json" => update (Decoder.flag n) s fun v => { s with json := v }
  | _ => pure s

/-- Decodes a section of the settings. -/
def setSection (fuel : Nat) (name : String) (n : Node) (s : Settings) : Decoder Settings :=
  match name with
  | "simulator" => do
    let v ← Decoder.record "config.SimulatorConfig"
      ["driver", "bench_db", "binary", "results_dir", "fast_forward", "max_inst"]
      setSimulator fuel n s.simulator
    pure { s with simulator := v }
  | "sweep" => do
    let v ← Decoder.record "config.SweepConfig" ["benchmarks", "sizes", "families"]
      setSweep fuel n s.sweep
    pure { s with sweep := v }
  | "execution" => do
    let v ← Decoder.record "config.ExecutionConfig"
      ["concurrency", "timeout", "launch_rate", "max_output_bytes"] setExecution fuel n s.execution
    pure { s with execution := v }
  | "store" => do
    let v ← Decoder.record "config.StoreConfig" ["path", "resume"] setStore fuel n s.store
    pure { s with store := v }
  | "telemetry" => do
    let v ← Decoder.record "config.TelemetryConfig"
      ["service_name", "traces", "metrics", "otlp_endpoint"] setTelemetry fuel n s.telemetry
    pure { s with telemetry := v }
  | "logging" => do
    let v ← Decoder.record "config.LoggingConfig" ["level", "dir", "json"] setLogging fuel n
      s.logging
    pure { s with logging := v }
  | _ => pure s

/-- The settings a document gives over `base`, or the decoding failure's message. -/
def decode (doc : Document) (base : Settings) : Except String Settings :=
  let fuel := Decoder.fuelFor doc
  Decoder.runOn doc (Decoder.record "config.Config"
    ["simulator", "sweep", "execution", "store", "telemetry", "logging"]
    (setSection fuel) fuel doc.root base)

end Settings

end PredictorSweep
