import PredictorSweep.Proofs.Files
import PredictorSweep.Proofs.JobLog
import PredictorSweep.Proofs.Sweep.Resume
import PredictorSweep.Proofs.Execution
/-!
# Reading a sweep's logs back

A sweep's logs can be read back into a table without running anything. The two paths share no
code: the sweep takes each cell's key from its job and parses the result's captured output,
while reading back takes the key from the log's file name, the job's state from the log's first
status line, and the metrics from the whole log.

They agree cell by cell when each piece of the round trip holds: every log name reads back as
its job's cell (so no job reads as a combined one), the directory holds exactly the sweep's logs,
each log holds the header, an output with no status line of its own and with the metrics of the
result's captured output, and the trailer with a one-line state. Then the failed jobs are the
logs that report a state other than `exit 0`, every other cell holds the same record, and the
summaries and the missing cells agree; the reasons given for missing cells differ, a result's
reason against its log's state.

The executor is one runner whose results answer the jobs it was given, one result per job and in
order (`Runner.processes_answers`), as the comparison asks of the sweep's runner.

Main statements:

* `Runner.processes_answers`: the executor answers each job once, in order;
* `ingestLog_step`: reading one log sets its cell and no other;
* `logCell_jobLog`: the cell a job's log fills, against the job's result;
* `ingest_table_cells`: the cells of a directory holding a plan's logs;
* `ingest_reproduces_run`: reading back a sweep's logs gives its cells, summaries and missing keys.
-/

namespace PredictorSweep

/-! ## The executor answers every job -/

/-- The executor gives back one result per job, in the jobs' order. -/
theorem Runner.processes_answers {host : Host} {s : ExecutorSettings} {ctx : RunContext}
    {files : FileTree} {jobs : List Job} {rs : List JobResult} {files' : FileTree}
    (h : Runner.processes host s ctx files jobs = .ok (rs, files')) : rs.map (·.job) = jobs := by
  unfold Runner.processes at h
  split at h
  · rename_i rs' files'' stop hbatch
    cases h
    exact runBatch_results hbatch
  · cases h

/-! ## Reading one log -/

/-- The state a log reports, when it reports one other than `exit 0`. -/
def failedStatus? (text : String) : Option String := (statusLine? text).filter (· != "exit 0")

/-- The cell a log fills: missing with its state when it reports a failure, else its metrics. -/
def logCell (key : Key) (text : String) : Option Record × Option String :=
  match failedStatus? text with
  | some status => (none, some status)
  | none => (some (parseReport key text).record, none)

/-- The cell a log name of a directory reads as, and what its log fills it with; nothing for a
log that cannot be read. -/
def logEntry (files : FileTree) (dir name : String) : Key × (Option Record × Option String) :=
  match readLog files (Path.join [dir, name]) with
  | .ok (key, text) => (key, logCell key text)
  | .error _ => (default, (none, none))

theorem ingestRecord_table (key : Key) (name text : String) (o : Outcome) :
    (ingestLog.ingestRecord key name text o).table =
      (o.table.record key (parseReport key text).record).1 := by
  simp only [ingestLog.ingestRecord, Outcome.note, Outcome.noteAll]
  split <;> rfl

section Step

variable {files : FileTree} {dir name text : String} {key : Key}

theorem ingestLog_table (hread : readLog files (Path.join [dir, name]) = .ok (key, text))
    (o : Outcome) :
    (ingestLog files dir name o).table = match failedStatus? text with
      | some status => (o.table.markMissing key status).1
      | none => (o.table.record key (parseReport key text).record).1 := by
  unfold ingestLog failedStatus?
  rw [hread]
  dsimp only
  cases hs : statusLine? text with
  | none => simp [ingestRecord_table]
  | some s =>
    by_cases hx : s = "exit 0"
    · simp [hx, ingestRecord_table, Option.filter_some]
    · simp [hx, Option.filter_some]
      split <;> rfl

/-- Reading a readable log whose cell is free, as one step of a keyed pass: the table stays well
formed and open, and only the log's cell changes, to the log's cell. -/
theorem ingestLog_step (hread : readLog files (Path.join [dir, name]) = .ok (key, text))
    {o : Outcome} (hwf : o.table.WellFormed) (hfz : o.table.frozen = false)
    (hk : checkKey key = .ok ()) (hfree : o.table.find? key = none) :
    (ingestLog files dir name o).table.WellFormed ∧
      (ingestLog files dir name o).table.frozen = false ∧
      ∀ k, (ingestLog files dir name o).table.cell k =
        if k = key then logCell key text else o.table.cell k := by
  rw [ingestLog_table hread]
  unfold logCell
  cases failedStatus? text with
  | some status => exact Table.markMissing_step hwf hfz hk hfree
  | none => exact Table.record_step hwf hfz hk

theorem logEntry_eq (hread : readLog files (Path.join [dir, name]) = .ok (key, text)) :
    logEntry files dir name = (key, logCell key text) := by
  unfold logEntry
  rw [hread]

end Step

/-- Under a live context, reading a directory is a pass over its logs in name order. -/
theorem ingest_eq_ok {ctx : RunContext} {files : FileTree} {dir : String}
    {entries : List (String × Entry)} (hlive : ctx.Live) (hdir : files.readDir dir = .ok entries) :
    ingest ctx files dir =
      .ok ((logNames entries).foldl (fun o name => ingestLog files dir name o) {}).finish := by
  have hne : (ctx == RunContext.absent) = false := by simpa using hlive.1
  simp [ingest, hne, hdir, hlive.2, List.foldlM_pure]
  rfl

/-! ## A job's log read back -/

/-- The cell a job's log fills. When the output states no status of its own and the trailer's
state is one line, it is missing with the trailer's state exactly when the job failed, and
otherwise holds the output's metrics. -/
theorem logCell_jobLog (k : Key) (j : Job) {o : String} (r : JobResult) (limit : Duration)
    (hnone : statusLine? o = none) (hnl : '\n' ∉ (r.statusLine limit).toList) :
    logCell k (logHeader j ++ o ++ "\n# status: " ++ r.statusLine limit ++ "\n") =
      if r.failed then (none, some (Text.trim (firstLine (r.statusLine limit))))
      else (some (parseReport k o).record, none) := by
  have hstatus : statusLine? (logHeader j ++ o ++ "\n# status: " ++ r.statusLine limit ++ "\n") =
      some (Text.trim (firstLine (r.statusLine limit))) := by
    rw [statusLine?_jobLog j o (r.firstLine_statusLine_ne_empty limit), hnone, Option.none_or]
  have hparse := parseReport_eq_of_valueText (fun m => valueText?_jobLog m j o hnl) k
  unfold logCell failedStatus?
  rw [hstatus, hparse, Option.filter_some]
  cases hf : r.failed
  · have h := (r.trim_firstLine_statusLine limit).mpr hf
    simp [h]
  · -- a failed job's trailer reads as something other than `exit 0`
    simp [r.trim_firstLine_statusLine_of_failed limit hf]

/-! ## The logs of a plan -/

namespace Setup

variable {c : Setup} {jobs : List Job}

/-- A job of a plan whose benchmarks hold no separator and no line feed and whose sizes are 64-bit
integers has its log name read back as its cell, when it does not read as a combined one. -/
theorem keyOfLogName_base_logPath (hplan : c.plan = .ok jobs)
    (hbench : ∀ b ∈ c.benchmarks, '/' ∉ b.toList ∧ '\n' ∉ b.toList)
    (hsizes : ∀ size ∈ c.sizes, size < Int.pow 2 63) {j : Job} (hj : j ∈ jobs)
    (hnot : ¬j.key.ReadsAsCombined) : keyOfLogName (Path.base j.logPath) = .ok j.key := by
  obtain ⟨hbmem, hblank, hmake, hsize, -⟩ := mem_plan hplan hj
  obtain ⟨hslash, hnl⟩ := hbench _ hbmem
  have hsize' : j.predictor.size < Int.pow 2 63 := by
    rcases hsize with h | h
    · rw [h]
      decide
    · exact hsizes _ h
  have hb : j.benchmark ≠ "" := fun he => by simp [he, Text.isBlank] at hblank
  rw [(base_locations hplan hj hslash).1]
  exact keyOfLogName_jobLogName hmake hsize' hb hnl hnot

/-- The results directory joined with a job's log name is the job's log path. -/
theorem join_base_logPath (hplan : c.plan = .ok jobs) {j : Job} (hj : j ∈ jobs)
    (hslash : '/' ∉ j.benchmark.toList) :
    Path.join [c.resultsDir, Path.base j.logPath] = j.logPath := by
  rw [(base_locations hplan hj hslash).1]
  exact (congrArg Job.logPath (mem_plan hplan hj).2.2.2.2).symm

section Read

variable (hplan : c.plan = .ok jobs)
  (hbench : ∀ b ∈ c.benchmarks, '/' ∉ b.toList ∧ '\n' ∉ b.toList)
  (hsizes : ∀ size ∈ c.sizes, size < Int.pow 2 63)
  (hcombined : ∀ j ∈ jobs, ¬j.key.ReadsAsCombined)
include hplan hbench hsizes hcombined

/-- Reading a job's log under its name in the results directory gives the job's cell and the
log's text. -/
theorem readLog_logPath {j : Job} (hj : j ∈ jobs) {files : FileTree} {text : String}
    (hread : files.readFile j.logPath = .ok text) :
    readLog files (Path.join [c.resultsDir, Path.base j.logPath]) = .ok (j.key, text) := by
  rw [join_base_logPath hplan hj (hbench _ (mem_plan hplan hj).1).1]
  simp only [readLog, keyOfLogName_base_logPath hplan hbench hsizes hj (hcombined j hj), hread]

/-- The table read from a results directory whose logs are exactly a plan's, each readable: each
job's cell is what its log fills, and no other cell is filled. -/
theorem ingest_table_cells {files : FileTree} {entries : List (String × Entry)}
    (hnames : (logNames entries).Perm (jobs.map fun j => Path.base j.logPath))
    (hreadable : ∀ j ∈ jobs, ∃ text, files.readFile j.logPath = .ok text) :
    let T := ((logNames entries).foldl (fun o name => ingestLog files c.resultsDir name o) {}).table
    T.WellFormed ∧
      (∀ j ∈ jobs, ∀ text, files.readFile j.logPath = .ok text →
        T.cell j.key = logCell j.key text) ∧
      ∀ k, k ∉ jobs.map Job.key → T.cell k = (none, none) := by
  intro T
  have hentry : ∀ j ∈ jobs, ∀ text, files.readFile j.logPath = .ok text →
      logEntry files c.resultsDir (Path.base j.logPath) = (j.key, logCell j.key text) :=
    fun j hj text hread => logEntry_eq (readLog_logPath hplan hbench hsizes hcombined hj hread)
  -- the names read as the plan's keys, which are distinct
  have hkey : ∀ j ∈ jobs, (logEntry files c.resultsDir (Path.base j.logPath)).1 = j.key := by
    intro j hj
    obtain ⟨text, hread⟩ := hreadable j hj
    rw [hentry j hj text hread]
  have hkeys : ((logNames entries).map fun n => (logEntry files c.resultsDir n).1).Perm
      (jobs.map Job.key) := by
    have hmap : jobs.map ((fun n => (logEntry files c.resultsDir n).1) ∘
        fun j => Path.base j.logPath) = jobs.map Job.key :=
      List.map_congr_left fun j hj => hkey j hj
    have hperm := hnames.map fun n => (logEntry files c.resultsDir n).1
    rwa [List.map_map, hmap] at hperm
  have hnodup := hkeys.nodup_iff.mpr (plan_keys_nodup hplan)
  obtain ⟨hwf, -, hset, hkeep⟩ := @Table.cell_foldl Outcome String Outcome.table
    (fun n => (logEntry files c.resultsDir n).1) (fun n => (logEntry files c.resultsDir n).2)
    (fun o name => ingestLog files c.resultsDir name o) {} (logNames entries) hnodup
    (fun o n hn hwf hfz hfresh => by
      obtain ⟨j, hj, rfl⟩ := List.mem_map.mp (hnames.mem_iff.mp hn)
      obtain ⟨text, hread⟩ := hreadable j hj
      rw [hentry j hj text hread] at hfresh ⊢
      exact ingestLog_step (readLog_logPath hplan hbench hsizes hcombined hj hread) hwf hfz
        (checkKey_of_mem_plan hplan hj) (congrArg Prod.fst (hfresh.trans (Table.cell_empty _))))
    {} Table.wellFormed_empty rfl fun _ _ => rfl
  refine ⟨hwf, fun j hj text hread => ?_, fun k hk => ?_⟩
  · have h := hset _ (hnames.mem_iff.mpr (List.mem_map_of_mem hj))
    rwa [hentry j hj text hread] at h
  · exact (hkeep k fun h => hk (hkeys.mem_iff.mp h)).trans (Table.cell_empty k)

end Read

end Setup

/-! ## Reading back a sweep -/

/-- What a job's log holds after a sweep: the header, the output `o`, and the trailer with the
result's state. The output states no status of its own and the metrics of the result's captured
output, and the state is one line. -/
structure LoggedAs (files : FileTree) (limit : Duration) (r : JobResult) (o : String) : Prop where
  text : files.readFile r.job.logPath =
    .ok (logHeader r.job ++ o ++ "\n# status: " ++ r.statusLine limit ++ "\n")
  no_status : statusLine? o = none
  one_line_state : '\n' ∉ (r.statusLine limit).toList
  same_metrics : (parseReport r.job.key o).record = (parseReport r.job.key r.output).record

/-- Two finished outcomes whose well-formed tables hold the same records and mark the same cells
missing list the same cells, the same summaries and the same missing keys. -/
theorem Outcome.finish_eq_of_marked {o o' : Outcome} (hwf : o.table.WellFormed)
    (hwf' : o'.table.WellFormed) (hfind : ∀ k, o.table.find? k = o'.table.find? k)
    (hmarked : ∀ k, (o.table.reason? k).isSome = (o'.table.reason? k).isSome) :
    o.finish.table.cellList = o'.finish.table.cellList ∧
      o.finish.aggregates = o'.finish.aggregates ∧
      o.finish.missing.map (·.key) = o'.finish.missing.map (·.key) := by
  -- freezing keeps the records and the marks
  have hfz := Table.wellFormed_freeze hwf
  have hfz' := Table.wellFormed_freeze hwf'
  refine ⟨?_, ?_, ?_⟩
  · rw [Outcome.finish_table, Outcome.finish_table]
    exact Table.cellList_eq_of_find? hfind
  · rw [Outcome.finish_aggregates, Outcome.finish_aggregates]
    exact Table.aggregate_fst_eq_of_marked hfind hmarked
  · rw [Outcome.finish_missing, Outcome.finish_missing]
    exact Table.missing_keys_eq_of_marked hfz hfz' hmarked

section Reproduce

variable {setup : Setup} {runner : Runner} {ctx : RunContext} {files files' : FileTree}
  {jobs : List Job} {rs : List JobResult} {entries : List (String × Entry)}

/-- A sweep that does not resume hands every job of the plan to its runner. -/
theorem reusePass_asks_all (store : Option ResultStore) (ctx : RunContext) (jobs : List Job) :
    (reusePass store false ctx jobs).2 = jobs := by
  cases store <;> rfl

/-- A sweep that takes nothing from its store, whose runner answers each job once: each job's cell
is its result's cell, and no other cell is filled. -/
theorem sweep_cells_of_answers (hnodup : (jobs.map Job.key).Nodup)
    (hvalid : ∀ j ∈ jobs, checkKey j.key = .ok ()) (hanswers : rs.map (·.job) = jobs)
    (ctx : RunContext) (runId : String) (store : Option ResultStore) :
    let T := markPass jobs (collectPass ctx runId (reusePass store false ctx jobs) store rs).1
    T.table.WellFormed ∧ (∀ r ∈ rs, T.table.cell r.job.key = r.cell) ∧
      ∀ k, k ∉ jobs.map Job.key → T.table.cell k = (none, none) := by
  intro T
  have hR := @reusePhase_reusePass store false ctx jobs hnodup hvalid
  have hjobs : (rs.map (·.job)).Nodup := hanswers ▸ hnodup.of_map _
  have hsub : ∀ r ∈ rs, r.job ∈ (reusePass store false ctx jobs).2 := by
    intro r hr
    rw [reusePass_asks_all, ← hanswers]
    exact List.mem_map_of_mem hr
  obtain ⟨hwf, -, hcell, -, hother⟩ := sweep_cells hR hnodup hvalid ctx runId store hjobs hsub
  exact ⟨hwf, hcell, hother⟩

/-- Reading back the logs of a sweep that took nothing from a store gives the sweep's cells, its
summaries and its missing keys. This holds for a plan whose benchmarks hold no separator and no
line feed, whose sizes are 64-bit integers and none of whose jobs reads as a combined one; run by
a runner that answers each job once, in order, as the executor does; when the results directory
holds exactly the jobs' logs, each with an output that states no status of its own and the
metrics of the result's captured output, and a one-line state. -/
theorem ingest_reproduces_run (hlive : ctx.Live) (hplan : setup.plan = .ok jobs)
    (hbench : ∀ b ∈ setup.benchmarks, '/' ∉ b.toList ∧ '\n' ∉ b.toList)
    (hsizes : ∀ size ∈ setup.sizes, size < Int.pow 2 63)
    (hcombined : ∀ j ∈ jobs, ¬j.key.ReadsAsCombined)
    (hrun : runner ctx files jobs = .ok (rs, files')) (hanswers : rs.map (·.job) = jobs)
    (hdir : files'.readDir setup.resultsDir = .ok entries)
    (hnames : (logNames entries).Perm (jobs.map fun j => Path.base j.logPath))
    (limit : Duration) (logged : JobResult → String)
    (hlogs : ∀ r ∈ rs, LoggedAs files' limit r (logged r))
    (store : Option ResultStore) (runId : String) :
    ∃ run out, runSweep setup runner store false ctx files runId = .ok run ∧
      ingest ctx run.files setup.resultsDir = .ok out ∧
      out.table.cellList = run.outcome.table.cellList ∧
      out.aggregates = run.outcome.aggregates ∧
      out.missing.map (·.key) = run.outcome.missing.map (·.key) := by
  have hnodup := Setup.plan_keys_nodup hplan
  have hresult : ∀ j ∈ jobs, ∃ r ∈ rs, r.job = j := by
    intro j hj
    rw [← hanswers] at hj
    exact List.mem_map.mp hj
  -- the sweep hands every job to the runner
  have hsweep :=
    runSweep_eq_ok hlive.1 hplan runId ((reusePass_asks_all store ctx jobs).symm ▸ hrun)
  obtain ⟨hwfRun, hcellRun, hotherRun⟩ := sweep_cells_of_answers hnodup
    (fun j hj => Setup.checkKey_of_mem_plan hplan hj) hanswers ctx runId store
  -- the reading finds every job's log
  have hreadable : ∀ j ∈ jobs, ∃ text, files'.readFile j.logPath = .ok text := by
    intro j hj
    obtain ⟨r, hr, rfl⟩ := hresult j hj
    exact ⟨_, (hlogs r hr).text⟩
  obtain ⟨hwfRead, hcellRead, hotherRead⟩ :=
    Setup.ingest_table_cells hplan hbench hsizes hcombined hnames hreadable
  set oRun := markPass jobs (collectPass ctx runId (reusePass store false ctx jobs) store rs).1
  set oRead := (logNames entries).foldl (fun o name => ingestLog files' setup.resultsDir name o) {}
  -- cell by cell, the same records and the same keys marked, for different reasons
  have hcells : ∀ k, (oRead.table.cell k).1 = (oRun.table.cell k).1 ∧
      (oRead.table.cell k).2.isSome = (oRun.table.cell k).2.isSome := by
    intro k
    by_cases hk : k ∈ jobs.map Job.key
    · obtain ⟨j, hj, rfl⟩ := List.mem_map.mp hk
      obtain ⟨r, hr, rfl⟩ := hresult j hj
      have hlog := hlogs r hr
      rw [hcellRead r.job hj _ hlog.text,
        logCell_jobLog r.job.key r.job r limit hlog.no_status hlog.one_line_state,
        hcellRun r hr]
      unfold JobResult.cell
      cases r.failed <;> simp [hlog.same_metrics]
    · rw [hotherRead k hk, hotherRun k hk]
      exact ⟨rfl, rfl⟩
  obtain ⟨hcellList, haggregates, hmissing⟩ :=
    Outcome.finish_eq_of_marked hwfRead hwfRun (fun k => (hcells k).1) fun k => (hcells k).2
  exact ⟨_, _, hsweep, ingest_eq_ok hlive hdir, hcellList, haggregates, hmissing⟩

end Reproduce

/-- A sweep of one benchmark whose runner answers both jobs with one complete report, and a working
directory holding the two logs the executor writes for them. -/
theorem ingest_reproduces_sample :
    let setup : Setup :=
      { driver := "d", simulator := "s", benchmarks := ["gcc"], sizes := [], families := [] }
    let jobs := [setup.describe "gcc" { family := "nottaken" },
      setup.describe "gcc" { family := "taken" }]
    let report : JobResult :=
      { stdout := "sim_IPC 1.5\nbpred_x.updates 8\nbpred_x.addr_hits 6\nbpred_x.dir_hits 7\n" ++
          "bpred_x.misses 1\n" }
    let rs := jobs.map fun j => Runner.attach j report
    let files : FileTree :=
      { entries := rs.map fun r => (r.job.logPath,
          .file (logHeader r.job ++ r.output ++ "\n# status: " ++ r.statusLine ⟨0⟩ ++ "\n") false) }
    ∃ run out, runSweep setup (Runner.prepared [] report [] [] none) none false .background files
        "run" = .ok run ∧
      ingest .background run.files setup.resultsDir = .ok out ∧
      out.table.cellList = run.outcome.table.cellList ∧ out.aggregates = run.outcome.aggregates ∧
      out.missing.map (·.key) = run.outcome.missing.map (·.key) := by
  intro setup jobs report rs files
  have hlive : RunContext.background.Live := ⟨by decide, rfl⟩
  have hplan : setup.plan = .ok jobs := by rfl
  have hbench : ∀ b ∈ setup.benchmarks, '/' ∉ b.toList ∧ '\n' ∉ b.toList := by decide
  have hsizes : ∀ size ∈ setup.sizes, size < Int.pow 2 63 := by decide
  have hcombined : ∀ j ∈ jobs, ¬j.key.ReadsAsCombined := by
    rintro j hj ⟨hfam, -⟩
    simp only [jobs, List.mem_cons, List.not_mem_nil, or_false] at hj
    rcases hj with rfl | rfl <;> revert hfam <;> decide
  have hrun : Runner.prepared [] report [] [] none .background files jobs = .ok (rs, files) := by
    simp [Runner.prepared, rs]
  -- the logs sit at the top of the working directory, under their plain names
  have hdir : files.readDir setup.resultsDir =
      .ok (files.entries.mergeSort fun a b => decide (a.1 ≤ b.1)) := by
    rw [show setup.resultsDir = "" from rfl, FileTree.readDir_top, FileTree.children_top]
    decide +kernel
  have hnames : (logNames (files.entries.mergeSort fun a b => decide (a.1 ≤ b.1))).Perm
      (jobs.map fun j => Path.base j.logPath) := by
    unfold logNames
    refine (List.mergeSort_perm _ _).trans (((List.mergeSort_perm _ _).filterMap _).trans ?_)
    exact List.Perm.of_eq (by decide +kernel)
  -- both jobs are answered with the same report, which states no status of its own
  have hquiet : statusLine? report.output = none := by decide +kernel
  have hstate : '\n' ∉ (report.statusLine ⟨0⟩).toList := by decide +kernel
  have hlogs : ∀ r ∈ rs, LoggedAs files ⟨0⟩ r r.output := by
    intro r hr
    simp only [rs, jobs, List.map_cons, List.map_nil, List.mem_cons, List.not_mem_nil,
      or_false] at hr
    rcases hr with rfl | rfl <;>
      exact ⟨FileTree.readFile_top (x := false) (by decide +kernel) (by decide +kernel)
        (by decide +kernel) (by decide +kernel) (by decide +kernel), hquiet, hstate, rfl⟩
  exact ingest_reproduces_run hlive hplan hbench hsizes hcombined hrun rfl hdir hnames ⟨0⟩
    (·.output) hlogs none "run"

end PredictorSweep
