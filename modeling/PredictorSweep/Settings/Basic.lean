import PredictorSweep.Time.Duration
import PredictorSweep.Sweep.Plan
/-!
# Sweep settings

The settings file has six sections: the simulator's tools, paths and instruction budget; the
benchmarks, sizes and families to cross; how jobs are run; the result store; telemetry; and
logging. Lists of the sweep section may be absent, which is not the same as empty: an absent
list is missing, an empty one is too short.

Main definitions:

- `SimulatorSettings`, `SweepSettings`, `ExecutionSettings`, `StoreSettings`,
  `TelemetrySettings`, `LoggingSettings`, `Settings`;
- `Settings.defaults`, `Settings.setup`.
-/

namespace PredictorSweep

/-- Where the simulator is and how long it runs. -/
structure SimulatorSettings where
  /-- The launcher script. -/
  driver : String
  /-- The launcher's benchmark database. -/
  benchDb : String
  /-- The simulator executable. -/
  binary : String
  /-- Where job logs and scratch directories go. -/
  resultsDir : String
  /-- Instructions skipped before timing. -/
  fastForward : Int
  /-- Instructions simulated after that. -/
  maxInst : Int
  deriving Inhabited, Repr

/-- What the sweep crosses; an absent list is `none`. -/
structure SweepSettings where
  /-- The benchmarks. -/
  benchmarks : Option (List String)
  /-- The table sizes. -/
  sizes : Option (List Int)
  /-- The table-backed families; absent or empty means all. -/
  families : Option (List String)
  deriving Inhabited, Repr

/-- How jobs run. -/
structure ExecutionSettings where
  /-- How many jobs run at once; zero means one per processor. -/
  concurrency : Int
  /-- How long a job may run; zero means no limit. -/
  timeout : Duration
  /-- Launches per second; zero means no limit. -/
  launchRate : Float
  /-- The cap on each captured output stream; zero keeps the default. -/
  maxOutputBytes : Int
  deriving Inhabited, Repr

/-- The store of results. -/
structure StoreSettings where
  /-- The store's directory; empty means no store. -/
  path : String
  /-- Whether jobs whose results are stored are skipped. -/
  resume : Bool
  deriving Inhabited, Repr

/-- Trace and metric exporters. -/
structure TelemetrySettings where
  /-- The service name. -/
  serviceName : String
  /-- The trace exporter. -/
  traces : String
  /-- The metric exporter. -/
  metrics : String
  /-- The trace collector's endpoint. -/
  otlpEndpoint : String
  deriving Inhabited, Repr

/-- Logging. -/
structure LoggingSettings where
  /-- The level's name. -/
  level : String
  /-- A directory for log files. -/
  dir : String
  /-- Whether logs are written as JSON. -/
  json : Bool
  deriving Inhabited, Repr

/-- The sweep's settings. -/
structure Settings where
  /-- The simulator. -/
  simulator : SimulatorSettings
  /-- The sweep. -/
  sweep : SweepSettings
  /-- Job execution. -/
  execution : ExecutionSettings
  /-- The result store. -/
  store : StoreSettings
  /-- Telemetry. -/
  telemetry : TelemetrySettings
  /-- Logging. -/
  logging : LoggingSettings
  deriving Inhabited, Repr

namespace Settings

/-- The settings in force when the file says nothing: the simulator's usual layout, a million
instructions skipped and measured, eight benchmarks, sizes from 512 to 4096, all families, an
hour's timeout, no telemetry exporters, and logging at `info`. -/
def defaults : Settings where
  simulator :=
    { driver := "simulator/Run.pl", benchDb := "simulator/bench.db",
      binary := "simulator/ss3/sim-outorder", resultsDir := "simulator/results",
      fastForward := 1000000, maxInst := 1000000 }
  sweep :=
    { benchmarks := some ["compress", "gcc", "go", "ijpeg", "li", "m88ksim", "perl", "vortex"],
      sizes := some [512, 1024, 2048, 4096], families := none }
  execution :=
    { concurrency := 0, timeout := Duration.ofSeconds 3600, launchRate := 0,
      maxOutputBytes := 0 }
  store := { path := "", resume := false }
  telemetry := { serviceName := "bpsweep", traces := "none", metrics := "none", otlpEndpoint := "" }
  logging := { level := "info", dir := "", json := false }

/-- The sweep setup the settings describe. -/
def setup (s : Settings) : Setup where
  driver := s.simulator.driver
  benchDb := s.simulator.benchDb
  simulator := s.simulator.binary
  resultsDir := s.simulator.resultsDir
  fastForward := s.simulator.fastForward
  maxInst := s.simulator.maxInst
  benchmarks := s.sweep.benchmarks.getD []
  sizes := s.sweep.sizes.getD []
  families := s.sweep.families.getD []

end Settings

end PredictorSweep
