import PredictorSweep.Cli.Session
import PredictorSweep.Time.Stamp
import Std.Time.Format
/-!
# The sweep tool's command line

The outer layer of the tool: it reads the working directory into a file tree, the environment
settings the tool looks at, the number of processors, the clock, and a random run identifier and
temporary suffix; it answers the invocation, writes standard output and standard error, makes the
directories and writes the files the invocation made or changed, and exits with the invocation's
code.

Every regular file read is taken as one that may be run, since its permissions are not read.
Files that are not UTF-8 text are left out of the tree.
-/

namespace PredictorSweep.Cli

/-- The environment settings the tool and its jobs look at. -/
def watchedSettings : List String :=
  ["BPSWEEP_OUTPUT", "OTEL_TRACES_EXPORTER", "OTEL_METRICS_EXPORTER",
   "OTEL_EXPORTER_OTLP_ENDPOINT", "HOME", "PATH", "TERM"]

/-- Reads a directory's entries into a tree under a relative path, down to a depth. -/
def loadEntries (rel : String) : Nat → Array IO.FS.DirEntry → FileTree → IO FileTree
  | 0, _, t => pure t
  | depth + 1, entries, t => do
    let mut t := t
    for e in entries do
      let p := if rel.isEmpty then e.fileName else rel ++ "/" ++ e.fileName
      if ← e.path.isDir then
        t := t.withDir p
        t ← loadEntries p depth (← e.path.readDir) t
      else
        try
          t := t.withFile p (← IO.FS.readFile e.path) true
        catch _ =>
          pure ()
    return t

/-- The processors of the machine, as the system lists them; one when the list cannot be read. -/
def processorCount : IO Nat := do
  try
    let info ← IO.FS.readFile "/proc/cpuinfo"
    return max 1 ((info.splitOn "\n").countP (·.startsWith "processor"))
  catch _ =>
    return 1

/-- A random lower-case hexadecimal digit. -/
def randomHex : IO Char := do
  let n ← IO.rand 0 15
  return (Nat.toDigits 16 n).headD '0'

/-- A random version-4 identifier in its usual text form. -/
def randomRunId : IO String := do
  let mut cs : List Char := []
  for i in List.range 32 do
    let c ← if i == 12 then pure '4'
      else if i == 16 then do pure ("89ab".toList.getD (← IO.rand 0 3) '8')
      else randomHex
    cs := cs ++ [c]
  let part (a n : Nat) := String.ofList ((cs.drop a).take n)
  return part 0 8 ++ "-" ++ part 8 4 ++ "-" ++ part 12 4 ++ "-" ++ part 16 4 ++ "-" ++ part 20 12

end PredictorSweep.Cli

/-- Runs the sweep tool on the working directory. -/
def main (args : List String) : IO UInt32 := do
  let here ← IO.currentDir
  let files ← PredictorSweep.Cli.loadEntries "" 32 (← here.readDir) {}
  let mut env : List (String × String) := []
  for k in PredictorSweep.Cli.watchedSettings do
    if let some v ← IO.getEnv k then env := env ++ [(k, v)]
  let now ← Std.Time.Timestamp.now
  let started := PredictorSweep.Stamp.render ⟨now.toNanosecondsSinceUnixEpoch.val⟩
  let inv : PredictorSweep.Cli.Invocation :=
    { args, files, env, processors := ← PredictorSweep.Cli.processorCount
      runId := ← PredictorSweep.Cli.randomRunId, started
      today := String.ofList (started.toList.take 10)
      tempSuffix := toString (← IO.rand 100000000 999999999) }
  let a := inv.answer
  IO.print a.stdout
  IO.eprint a.stderr
  for d in a.files.dirs do
    if !(files.dirs.contains d) then IO.FS.createDirAll d
  for (p, c) in PredictorSweep.FileTree.changedFiles files a.files do
    IO.FS.writeFile p c
  return a.exitCode.toUInt32
