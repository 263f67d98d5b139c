import PredictorSweep.Settings.Basic
import PredictorSweep.Yaml.Library
/-!
# Writing settings

Settings are written by a YAML library with an indentation step of four, sections and fields in the
order of the file. The timeout is written as its duration text. The families are left out when
absent or empty; an absent list of benchmarks or sizes is written `[]`.

Main definitions:

- `Settings.toYaml`, `Settings.render`.
-/

namespace PredictorSweep

open Yaml

namespace Settings

/-- A list of texts. -/
def textList (xs : Option (List String)) : Yaml.Value :=
  .sequence ((xs.getD []).map Yaml.Value.ofString)

/-- The settings as a YAML value. -/
def toYaml (s : Settings) : Yaml.Value :=
  let sim := s.simulator
  let sw := s.sweep
  let ex := s.execution
  let families := match sw.families with
    | some (f :: fs) => [("families", textList (some (f :: fs)))]
    | _ => []
  .mapping
    [("simulator", .mapping
        [("driver", .ofString sim.driver), ("bench_db", .ofString sim.benchDb),
         ("binary", .ofString sim.binary), ("results_dir", .ofString sim.resultsDir),
         ("fast_forward", .ofInt sim.fastForward), ("max_inst", .ofInt sim.maxInst)]),
     ("sweep", .mapping
        ([("benchmarks", textList sw.benchmarks),
          ("sizes", .sequence ((sw.sizes.getD []).map Yaml.Value.ofInt))] ++ families)),
     ("execution", .mapping
        [("concurrency", .ofInt ex.concurrency), ("timeout", .ofString ex.timeout.render),
         ("launch_rate", .ofFloat ex.launchRate), ("max_output_bytes", .ofInt ex.maxOutputBytes)]),
     ("store", .mapping [("path", .ofString s.store.path), ("resume", .ofBool s.store.resume)]),
     ("telemetry", .mapping
        [("service_name", .ofString s.telemetry.serviceName),
         ("traces", .ofString s.telemetry.traces), ("metrics", .ofString s.telemetry.metrics),
         ("otlp_endpoint", .ofString s.telemetry.otlpEndpoint)]),
     ("logging", .mapping
        [("level", .ofString s.logging.level), ("dir", .ofString s.logging.dir),
         ("json", .ofBool s.logging.json)])]

/-- The settings file's text, as a YAML library writes it. -/
def render [Library] (s : Settings) : String := Library.write 4 (toYaml s)

end Settings

end PredictorSweep
