import PredictorSweep.Cli.Command
import PredictorSweep.Cli.Flags
import PredictorSweep.Cli.Program
import PredictorSweep.Cli.Report
import PredictorSweep.Cli.Session
import PredictorSweep.Console.Grid
import PredictorSweep.Console.Printer
import PredictorSweep.Context
import PredictorSweep.Diagnostic
import PredictorSweep.Execution.Batch
import PredictorSweep.Execution.Capture
import PredictorSweep.Execution.Launch
import PredictorSweep.Execution.Result
import PredictorSweep.Failure
import PredictorSweep.Files.Tree
import PredictorSweep.Json.Value
import PredictorSweep.Log.Level
import PredictorSweep.Log.Logger
import PredictorSweep.Main
import PredictorSweep.Number.Binary
import PredictorSweep.Number.Format
import PredictorSweep.Number.Reading
import PredictorSweep.Number.Shortest
import PredictorSweep.Path
import PredictorSweep.Predictor.Family
import PredictorSweep.Predictor.Spec
import PredictorSweep.Report.File
import PredictorSweep.Report.LogName
import PredictorSweep.Report.Metric
import PredictorSweep.Report.Parse
import PredictorSweep.Report.Scan
import PredictorSweep.Settings.Basic
import PredictorSweep.Settings.Decode
import PredictorSweep.Settings.Load
import PredictorSweep.Settings.Validate
import PredictorSweep.Settings.Write
import PredictorSweep.Shell.Arith
import PredictorSweep.Shell.Builtin
import PredictorSweep.Shell.Condition
import PredictorSweep.Shell.Format
import PredictorSweep.Shell.Parse
import PredictorSweep.Shell.Pattern
import PredictorSweep.Shell.Run
import PredictorSweep.Shell.State
import PredictorSweep.Shell.Syntax
import PredictorSweep.Store.Basic
import PredictorSweep.Store.Database
import PredictorSweep.Store.Open
import PredictorSweep.Sweep.Ingest
import PredictorSweep.Sweep.Job
import PredictorSweep.Sweep.Key
import PredictorSweep.Sweep.Outcome
import PredictorSweep.Sweep.Plan
import PredictorSweep.Sweep.Run
import PredictorSweep.Table.Aggregate
import PredictorSweep.Table.Basic
import PredictorSweep.Telemetry
import PredictorSweep.Text.Bytes
import PredictorSweep.Text.Printable
import PredictorSweep.Text.Quoted
import PredictorSweep.Text.Space
import PredictorSweep.Text.Width
import PredictorSweep.Time.Duration
import PredictorSweep.Time.Stamp
import PredictorSweep.Yaml.Compose
import PredictorSweep.Yaml.Decode
import PredictorSweep.Yaml.Lexer
import PredictorSweep.Yaml.Library
import PredictorSweep.Yaml.Lexer.Scalar
import PredictorSweep.Yaml.Lexer.Stream
import PredictorSweep.Yaml.Node
import PredictorSweep.Yaml.Resolve
import PredictorSweep.Yaml.Token
import PredictorSweep.Yaml.Write
import PredictorSweep.Proofs.KeyOrder
import PredictorSweep.Proofs.Table.Lookup
import PredictorSweep.Proofs.Table.Flat
import PredictorSweep.Proofs.Plan
import PredictorSweep.Proofs.Table.Summary
import PredictorSweep.Proofs.DiagnosticOrder
import PredictorSweep.Proofs.Sweep.Coverage
import PredictorSweep.Proofs.LogName
import PredictorSweep.Proofs.Locations
import PredictorSweep.Proofs.Database
import PredictorSweep.Proofs.Store
import PredictorSweep.Proofs.Sweep.Resume
import PredictorSweep.Proofs.JobLog
import PredictorSweep.Proofs.Execution
import PredictorSweep.Proofs.OutputCapture
import PredictorSweep.Proofs.FloatNat
import PredictorSweep.Proofs.DurationText
import PredictorSweep.Proofs.YamlScalars
import PredictorSweep.Proofs.YamlRead
import PredictorSweep.Proofs.YamlBlock
import PredictorSweep.Proofs.YamlCompose
import PredictorSweep.Proofs.SettingsFile
import PredictorSweep.Proofs.Files
import PredictorSweep.Proofs.Sweep.Ingest
import PredictorSweep.Proofs.Table.Reachable
import PredictorSweep.Proofs.Settings
import PredictorSweep.Proofs.StoreHistory
import PredictorSweep.Proofs.Sweep.LastWriter
import PredictorSweep.Proofs.TableSize
import PredictorSweep.Proofs.Utf8
import PredictorSweep.Proofs.CommandLine
import PredictorSweep.Proofs.ReportReading
import PredictorSweep.Proofs.SetupChecks
