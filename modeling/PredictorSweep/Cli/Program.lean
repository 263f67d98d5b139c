import PredictorSweep.Cli.Command
/-!
# The sweep tool's commands

The tool `bpsweep` groups its work under subcommands: `run` runs the sweep and reports it,
`generate` prints the command lines it would run, `ingest` reports on logs already written, and
`init-config` writes the default settings. Every command takes the settings file, the log level,
a log directory and the console style. The tree also holds `help`, which shows the help of any
command, and `completion`, whose subcommands write shell completion scripts.

The tree lists the commands in the order they were added, which is the order close names are
suggested in; listings sort them by name.

Main definitions:

- `globalFlags`, `formatFlag`;
- `sweepTool`: the command tree;
- `completionShells`.
-/

namespace PredictorSweep.Cli

/-- The tool's name. -/
def toolName : String := "bpsweep"

/-- The flags every command takes. -/
def globalFlags : List FlagSpec :=
  [{ name := "config", short := some 'c'
     usage := "Sweep configuration file (YAML). Defaults apply when omitted." },
   { name := "log-level", usage := "Override logging.level (debug, info, warn, error)" },
   { name := "log-dir", usage := "Also write JSON logs to this directory" },
   { name := "output"
     usage := "Console style: rich or plain (detected from the terminal when empty)" }]

/-- The report format flag of the commands that report. -/
def formatFlag : FlagSpec :=
  { name := "format", short := some 'f', usage := "Report format: table, json or yaml"
    default := "table" }

/-- The flags of `run`. -/
def runFlags : List FlagSpec :=
  [formatFlag,
   { name := "metrics-out", usage := "Write prometheus metrics to this file after the sweep" },
   { name := "concurrency", short := some 'j', kind := .integer, default := "0"
     usage := "Override execution.concurrency (0 = one job per CPU)" },
   { name := "timeout", kind := .duration, default := "0s"
     usage := "Override execution.timeout (0 disables it)" },
   { name := "store", usage := "Override store.path (result cache directory)" },
   { name := "resume", kind := .switch, default := "false"
     usage := "Reuse stored results instead of re-running their jobs" }]

/-- The shells a completion script is written for. -/
def completionShells : List String := ["bash", "zsh", "fish", "powershell"]

/-- How a completion script for a shell is installed. -/
def completionLong (shell : String) : String :=
  let n := toolName
  match shell with
  | "bash" =>
    "Generate the autocompletion script for the bash shell.\n\n" ++
    "This script depends on the 'bash-completion' package.\n" ++
    "If it is not installed already, you can install it via your OS's package manager.\n\n" ++
    "To load completions in your current shell session:\n\n" ++
    "\tsource <(" ++ n ++ " completion bash)\n\n" ++
    "To load completions for every new session, execute once:\n\n" ++
    "#### Linux:\n\n" ++
    "\t" ++ n ++ " completion bash > /etc/bash_completion.d/" ++ n ++ "\n\n" ++
    "#### macOS:\n\n" ++
    "\t" ++ n ++ " completion bash > $(brew --prefix)/etc/bash_completion.d/" ++ n ++ "\n\n" ++
    "You will need to start a new shell for this setup to take effect.\n"
  | "zsh" =>
    "Generate the autocompletion script for the zsh shell.\n\n" ++
    "If shell completion is not already enabled in your environment you will need\n" ++
    "to enable it.  You can execute the following once:\n\n" ++
    "\techo \"autoload -U compinit; compinit\" >> ~/.zshrc\n\n" ++
    "To load completions in your current shell session:\n\n" ++
    "\tsource <(" ++ n ++ " completion zsh)\n\n" ++
    "To load completions for every new session, execute once:\n\n" ++
    "#### Linux:\n\n" ++
    "\t" ++ n ++ " completion zsh > \"$\x7bfpath[1]\x7d/_" ++ n ++ "\"\n\n" ++
    "#### macOS:\n\n" ++
    "\t" ++ n ++ " completion zsh > $(brew --prefix)/share/zsh/site-functions/_" ++ n ++ "\n\n" ++
    "You will need to start a new shell for this setup to take effect.\n"
  | "fish" =>
    "Generate the autocompletion script for the fish shell.\n\n" ++
    "To load completions in your current shell session:\n\n" ++
    "\t" ++ n ++ " completion fish | source\n\n" ++
    "To load completions for every new session, execute once:\n\n" ++
    "\t" ++ n ++ " completion fish > ~/.config/fish/completions/" ++ n ++ ".fish\n\n" ++
    "You will need to start a new shell for this setup to take effect.\n"
  | _ =>
    "Generate the autocompletion script for powershell.\n\n" ++
    "To load completions in your current shell session:\n\n" ++
    "\t" ++ n ++ " completion powershell | Out-String | Invoke-Expression\n\n" ++
    "To load completions for every new session, add the output of the above command\n" ++
    "to your powershell profile.\n"

/-- The completion subcommand of a shell. -/
def completionCommand (shell : String) : CommandSpec :=
  { path := ["completion", shell], use := shell
    short := "Generate the autocompletion script for " ++ shell
    long := completionLong shell
    flags := [{ name := "no-descriptions", kind := .switch, default := "false"
                usage := "disable completion descriptions" }]
    args := .noArgs, flagsInUseLine := false }

/-- The sweep tool's command tree, in the order the commands were added. -/
def sweepTool : CommandTree where
  name := toolName
  commands :=
    [{ path := [], use := toolName
       short := "Sweep branch predictor configurations across benchmarks"
       long := "bpsweep runs the simulator once per benchmark, predictor family and\n" ++
         "table size, parses each run's statistics, and reports per-configuration\n" ++
         "aggregates computed as ratios of summed counts."
       persistent := globalFlags, runnable := false },
     { path := ["run"], use := "run"
       short := "Run the sweep and report aggregate prediction rates"
       long := "Runs every job of the configured sweep under a bounded worker pool,\n" ++
         "parses each job's statistics, and prints one aggregate row per predictor\n" ++
         "configuration. Failed jobs become missing cells and are listed with the\n" ++
         "other diagnostics; they never stop the sweep."
       flags := runFlags, args := .noArgs },
     { path := ["generate"], use := "generate", aliases := ["gen", "dry-run"]
       short := "Print the sweep's command lines without running them"
       flags := [{ name := "logs", kind := .switch, default := "false"
                   usage := "Prefix each command with its log path" }]
       args := .noArgs },
     { path := ["ingest"], use := "ingest [dir]"
       short := "Aggregate existing job logs without running the simulator"
       long := "Parses every <benchmark>_<family>[_<size>[_<width>]].out file in dir\n" ++
         "(simulator.results_dir by default), recovering each job's identity from\n" ++
         "its file name, and reports the same aggregates as run."
       flags := [formatFlag], args := .atMost 1 },
     { path := ["init-config"], use := "init-config [path]"
       short := "Write the default sweep configuration"
       flags := [{ name := "force", kind := .switch, default := "false"
                   usage := "Overwrite an existing file" }]
       args := .atMost 1 },
     { path := ["help"], use := "help [command]", short := "Help about any command"
       long := "Help provides help for any command in the application.\n" ++
         "Simply type " ++ toolName ++ " help [path to command] for full details." },
     { path := ["completion"], use := "completion"
       short := "Generate the autocompletion script for the specified shell"
       long := "Generate the autocompletion script for " ++ toolName ++
         " for the specified shell.\n" ++
         "See each sub-command's help for details on how to use the generated script.\n"
       args := .noArgs, runnable := false }] ++
    completionShells.map completionCommand

end PredictorSweep.Cli
