import PredictorSweep.Execution.Batch
/-!
# The results of a batch

A batch gives back one result per job, for that job and in the jobs' order, whatever happens to
each job: a log that cannot be made, an empty command, a program that cannot be started, a launch
the launch rate refuses, a clean exit, a positive exit status, a signal, its own time limit, or the
end of the context. Every result takes one of four shapes:

* it succeeded: no error, status zero;
* it failed: a positive status `c` and a job error for its cell saying that it exited with `c`;
* it timed out: status `-1` and a job error for its cell saying that it timed out;
* it broke: status `-1` and a job error for its cell with an empty command or another cause,
  whose classes can only say that a file does not exist.

From the shape alone the views of a result agree: it failed exactly when it carries an error; its
state is `ok` exactly when it has no error and status zero, and `failed` exactly when its status is
positive, which is exactly when its error is of the failed-exit class; a timed-out result carries a
timeout error and status `-1`, and so does every other failure.

Main statements:

* `JobResult.Shape.classified`: the views of a result of any shape agree;
* `runJob_shape`, `notLaunched_shape`: every way a job can end gives a shape;
* `Launcher.launch_cases`: launching a job adds one result, of a job run or not launched;
* `runBatch_results`: a batch answers its jobs in order;
* `runBatch_classified`: a batch under a context gives one classified result per job, in order,
  and its successes and failures add up to its jobs.
-/

namespace PredictorSweep

/-! ## Shapes of results -/

namespace JobFault

/-- A fault that is neither a failed exit nor a timeout, and whose classes can only say that a
file does not exist. -/
def Plain : JobFault → Prop
  | emptyCommand => True
  | other _ classes => ∀ c ∈ classes, c = .notExist
  | _ => False

theorem plain_other_nil (text : String) : (other text []).Plain := by
  simp [Plain]

end JobFault

theorem FileError.classes_notExist (e : FileError) : ∀ c ∈ e.classes, c = .notExist := by
  unfold FileError.classes
  split <;> simp

namespace JobResult

/-- Whether a result's error belongs to a class. -/
def Wraps (r : JobResult) (c : ErrorClass) : Prop :=
  ∃ e, r.error = some e ∧ c ∈ e.toFailure.classes

/-- The four shapes of a job's result. -/
inductive Shape (r : JobResult) : Prop
  /-- The job succeeded. -/
  | ok (herror : r.error = none) (hcode : r.exitCode = 0) (htimed : r.timedOut = false)
  /-- The job exited with a positive status. -/
  | exited (c : Nat) (hc : 0 < c) (herror : r.error = some (.job r.job.key c .exited))
      (hcode : r.exitCode = c) (htimed : r.timedOut = false)
  /-- The job's own time limit killed it. -/
  | timedOut (d : Duration) (herror : r.error = some (.job r.job.key (-1) (.timedOut d)))
      (hcode : r.exitCode = -1) (htimed : r.timedOut = true)
  /-- The job ended in an error of another cause. -/
  | broken (f : JobFault) (hf : f.Plain) (herror : r.error = some (.job r.job.key (-1) f))
      (hcode : r.exitCode = -1) (htimed : r.timedOut = false)

/-- What the views of a result say, consistently. -/
structure Classified (r : JobResult) : Prop where
  /-- The result failed exactly when it carries an error. -/
  failed_iff : r.failed = true ↔ r.error.isSome = true
  /-- Its error is a job error for its job's cell. -/
  error_key : ∀ e, r.error = some e → ∃ code fault, e = .job r.job.key code fault
  /-- Its state is `ok` exactly when it has no error and status zero. -/
  ok_iff : r.status = "ok" ↔ r.error = none ∧ r.exitCode = 0
  /-- Its state is `failed` exactly when its status is positive. -/
  failed_status_iff : r.status = "failed" ↔ 0 < r.exitCode
  /-- Its status is positive exactly when its error is of the failed-exit class. -/
  positive_iff_wraps : 0 < r.exitCode ↔ r.Wraps .jobFailed
  /-- A timed-out result carries a timeout error and status `-1`. -/
  timedOut_wraps : r.timedOut = true → r.Wraps .jobTimeout ∧ r.exitCode = -1
  /-- Every other failure has status `-1`. -/
  other_code : r.failed = true → ¬0 < r.exitCode → r.exitCode = -1

theorem Shape.classified {r : JobResult} (h : r.Shape) : r.Classified := by
  cases h with
  | ok herror hcode htimed =>
    refine ⟨?_, ?_, ?_, ?_, ?_, ?_, ?_⟩ <;> simp [failed, status, Wraps, herror, hcode, htimed]
  | exited c hc herror hcode htimed =>
    refine ⟨?_, ?_, ?_, ?_, ?_, ?_, ?_⟩ <;>
      simp [failed, status, Wraps, ResultError.toFailure, herror, hcode, htimed, hc]
  | timedOut d herror hcode htimed =>
    refine ⟨?_, ?_, ?_, ?_, ?_, ?_, ?_⟩ <;>
      simp [failed, status, Wraps, ResultError.toFailure, herror, hcode, htimed]
  | broken f hf herror hcode htimed =>
    -- the fault's classes are at most "does not exist"
    have hclasses : ErrorClass.jobFailed ∉ (ResultError.job r.job.key (-1) f).toFailure.classes := by
      cases f with
      | other t cs =>
        intro hmem
        cases hf _ hmem
      | _ => simp_all [JobFault.Plain, ResultError.toFailure]
    refine ⟨?_, ?_, ?_, ?_, ?_, ?_, ?_⟩ <;> simp [failed, status, Wraps, herror, hcode, htimed]
    exact hclasses

theorem broken_shape (j : Job) {f : JobFault} (hf : f.Plain) : (JobResult.broken j f).Shape :=
  .broken f hf rfl rfl rfl

end JobResult

/-! ## Making a job's log -/

/-- Every error a computation may end in carries a plain fault. -/
def FaultsPlain {α : Type} (x : Except (FileTree × JobFault) α) : Prop :=
  ∀ t f, x = .error (t, f) → f.Plain

theorem faultsPlain_ok {α : Type} (a : α) :
    FaultsPlain (.ok a : Except (FileTree × JobFault) α) := by
  intro t f h
  cases h

theorem faultsPlain_bind {α β : Type} {x : Except (FileTree × JobFault) α}
    {g : α → Except (FileTree × JobFault) β} (hx : FaultsPlain x) (hg : ∀ a, FaultsPlain (g a)) :
    FaultsPlain (x >>= g) := by
  intro t f h
  cases x with
  | error e =>
    obtain rfl : e = (t, f) := Except.error.inj h
    exact hx t f rfl
  | ok a => exact hg a t f h

theorem logStep_plain (files : FileTree) (what : String) (r : Except FileError FileTree) :
    FaultsPlain (logStep files what r) := by
  intro t f h
  unfold logStep at h
  split at h
  · cases h
  · cases h
    exact FileError.classes_notExist _

theorem makeLog_plain (files : FileTree) (j : Job) : FaultsPlain (makeLog files j) := by
  unfold makeLog
  dsimp only
  -- the scratch directory, then the log's directory and the log, each by one step
  split <;> refine faultsPlain_bind ?_ fun files => ?_
  · exact faultsPlain_ok files
  · split
    · -- a job without a log path
      refine faultsPlain_bind ?_ fun _ => faultsPlain_bind (logStep_plain _ _ _) fun _ => logStep_plain _ _ _
      intro t f h
      cases h
      exact JobFault.plain_other_nil _
    · exact faultsPlain_bind (logStep_plain _ _ _) fun _ => logStep_plain _ _ _
  · exact logStep_plain _ _ _
  · split
    · refine faultsPlain_bind ?_ fun _ => faultsPlain_bind (logStep_plain _ _ _) fun _ => logStep_plain _ _ _
      intro t f h
      cases h
      exact JobFault.plain_other_nil _
    · exact faultsPlain_bind (logStep_plain _ _ _) fun _ => logStep_plain _ _ _

theorem openLog_plain {files t : FileTree} {j : Job} {f : JobFault}
    (h : openLog files j = (t, some f)) : f.Plain := by
  unfold openLog at h
  split at h
  · cases h
  · rename_i t' f' hmade
    simp only [Prod.mk.injEq, Option.some.injEq] at h
    obtain ⟨rfl, rfl⟩ := h
    exact makeLog_plain files j _ _ hmade

/-! ## Running a job -/

/-- A program that cannot be started says at most that a file does not exist. -/
theorem launchError_classes {host : Host} {ctx : RunContext} {files : FileTree} {prog : Bytes}
    {start : Nat} {text : String} {classes : List ErrorClass}
    (h : launchError host ctx files prog start = some (text, classes)) :
    ∀ c ∈ classes, c = .notExist := by
  unfold launchError at h
  split at h
  · split at h
    · obtain ⟨e, -, he⟩ := Option.map_eq_some_iff.mp h
      cases he
      simp
    · cases h
      simp
  · split at h
    · cases h
      simp
    · split at h
      · cases h
        exact FileError.classes_notExist _
      · cases h
        simp
      · cases h

theorem runCommand_shape (host : Host) (s : ExecutorSettings) (ctx : RunContext) (files : FileTree)
    (j : Job) (prog : Bytes) (args : List Bytes) (start : Nat) :
    (runCommand host s ctx files j prog args start).1.Shape := by
  unfold runCommand
  dsimp only
  split
  · exact .ok rfl rfl rfl
  · rename_i text classes herr
    -- the error's classes come from a failed launch, or there are none
    have hclasses : ∀ c ∈ classes, c = .notExist := by
      split at herr
      · cases herr
        exact launchError_classes (by assumption)
      · obtain ⟨t, -, ht⟩ := Option.map_eq_some_iff.mp herr
        cases ht
        simp
    repeat' split
    all_goals first
      | exact .timedOut _ rfl rfl rfl
      | exact .exited _ (by omega) rfl rfl rfl
      | exact .ok rfl rfl rfl
      | exact .broken (.other _ classes) hclasses rfl rfl rfl
      | exact .broken _ (JobFault.plain_other_nil _) rfl rfl rfl

theorem runJob_shape (host : Host) (s : ExecutorSettings) (ctx : RunContext) (files : FileTree)
    (j : Job) (start : Nat) : (runJob host s ctx files j start).1.Shape := by
  unfold runJob
  split
  · exact JobResult.broken_shape j (openLog_plain (by assumption))
  · split
    · exact JobResult.broken_shape j trivial
    · exact runCommand_shape host s ctx _ j _ _ start

theorem notLaunched_shape (s : ExecutorSettings) (files : FileTree) (j : Job) (cause : String) :
    (notLaunched s files j cause).1.Shape := by
  unfold notLaunched
  split <;> exact JobResult.broken_shape j (JobFault.plain_other_nil _)

theorem runCommand_job (host : Host) (s : ExecutorSettings) (ctx : RunContext) (files : FileTree)
    (j : Job) (prog : Bytes) (args : List Bytes) (start : Nat) :
    (runCommand host s ctx files j prog args start).1.job = j := by
  unfold runCommand
  simp only []
  repeat' split
  all_goals rfl

theorem runJob_job (host : Host) (s : ExecutorSettings) (ctx : RunContext) (files : FileTree)
    (j : Job) (start : Nat) : (runJob host s ctx files j start).1.job = j := by
  unfold runJob
  split
  · rfl
  · split
    · rfl
    · exact runCommand_job host s ctx _ j _ _ start

theorem notLaunched_job (s : ExecutorSettings) (files : FileTree) (j : Job) (cause : String) :
    (notLaunched s files j cause).1.job = j := by
  unfold notLaunched
  split <;> rfl

/-! ## Running a batch -/

/-- Launching a job adds one result: that of the job not launched, or of the job run from some
tree at some time. -/
theorem Launcher.launch_cases (host : Host) (s : ExecutorSettings) (ctx : RunContext) (l : Launcher)
    (j : Job) :
    ∃ r, (l.launch host s ctx j).results = l.results.push r ∧
      ((∃ files cause, r = (notLaunched s files j cause).1) ∨
        ∃ files start, r = (runJob host s ctx files j start).1) := by
  unfold Launcher.launch
  dsimp only
  split
  · exact ⟨_, rfl, .inl ⟨_, _, rfl⟩⟩
  · -- admission moves the clock and the next launch time only
    rename_i l' hadm
    have hres : l'.results = l.results := by
      revert hadm
      repeat' split
      all_goals
        intro h
        cases h
        try rfl
    exact ⟨_, by rw [hres], .inr ⟨_, _, rfl⟩⟩

/-- Launching a job adds one result, for that job, whether or not the job was admitted. -/
theorem Launcher.launch_results (host : Host) (s : ExecutorSettings) (ctx : RunContext)
    (l : Launcher) (j : Job) :
    (l.launch host s ctx j).results.toList.map (·.job) = l.results.toList.map (·.job) ++ [j] := by
  obtain ⟨r, hpush, hr⟩ := Launcher.launch_cases host s ctx l j
  have hjob : r.job = j := by
    rcases hr with ⟨files, cause, rfl⟩ | ⟨files, start, rfl⟩
    · exact notLaunched_job s files j cause
    · exact runJob_job host s ctx files j start
  simp [hpush, hjob]

theorem Launcher.launch_shapes (host : Host) (s : ExecutorSettings) (ctx : RunContext) {l : Launcher}
    (j : Job) (h : ∀ r ∈ l.results.toList, r.Shape) :
    ∀ r ∈ (l.launch host s ctx j).results.toList, r.Shape := by
  obtain ⟨r, hpush, hr⟩ := Launcher.launch_cases host s ctx l j
  intro r' hr'
  rw [hpush, Array.toList_push, List.mem_append, List.mem_singleton] at hr'
  rcases hr' with hr' | rfl
  · exact h r' hr'
  · rcases hr with ⟨files, cause, rfl⟩ | ⟨files, start, rfl⟩
    · exact notLaunched_shape s files j cause
    · exact runJob_shape host s ctx files j start

theorem foldl_launch_results (host : Host) (s : ExecutorSettings) (ctx : RunContext)
    (jobs : List Job) (l : Launcher) :
    (jobs.foldl (Launcher.launch host s ctx) l).results.toList.map (·.job) =
      l.results.toList.map (·.job) ++ jobs := by
  induction jobs generalizing l with
  | nil => simp
  | cons j jobs ih =>
    rw [List.foldl_cons, ih, Launcher.launch_results, List.append_assoc]
    rfl

theorem foldl_launch_shapes (host : Host) (s : ExecutorSettings) (ctx : RunContext)
    (jobs : List Job) {l : Launcher} (h : ∀ r ∈ l.results.toList, r.Shape) :
    ∀ r ∈ (jobs.foldl (Launcher.launch host s ctx) l).results.toList, r.Shape := by
  induction jobs generalizing l with
  | nil => exact h
  | cons j jobs ih => exact ih (Launcher.launch_shapes host s ctx j h)

theorem runBatch_results {host : Host} {s : ExecutorSettings} {ctx : RunContext} {files : FileTree}
    {jobs : List Job} {rs : List JobResult} {files' : FileTree} {stop : Nat}
    (h : runBatch host s ctx files jobs = .ok (rs, files', stop)) : rs.map (·.job) = jobs := by
  unfold runBatch at h
  split at h
  · cases h
  · cases h
    exact (foldl_launch_results host s ctx jobs _).trans (List.nil_append jobs)

theorem runBatch_shapes {host : Host} {s : ExecutorSettings} {ctx : RunContext} {files : FileTree}
    {jobs : List Job} {rs : List JobResult} {files' : FileTree} {stop : Nat}
    (h : runBatch host s ctx files jobs = .ok (rs, files', stop)) : ∀ r ∈ rs, r.Shape := by
  unfold runBatch at h
  split at h
  · cases h
  · cases h
    exact foldl_launch_shapes host s ctx jobs (by simp)

theorem runBatch_eq_ok (host : Host) (s : ExecutorSettings) {ctx : RunContext} (files : FileTree)
    (jobs : List Job) (hctx : ctx ≠ .absent) :
    ∃ rs files' stop, runBatch host s ctx files jobs = .ok (rs, files', stop) := by
  unfold runBatch
  rw [if_neg (by simpa using hctx)]
  exact ⟨_, _, _, rfl⟩

/-- The failures of a batch are its results that failed. -/
@[simp] theorem Batch.length_failures (rs : List (Option JobResult)) :
    (Batch.failures rs).length = rs.countP fun r => r.any (·.failed) := by
  unfold Batch.failures
  rw [List.length_filterMap_eq_countP]
  -- count over the positioned results, by the result alone
  have hfst := List.countP_map (p := fun r : Option JobResult => r.any (·.failed))
    (f := Prod.fst) (l := rs.zipIdx)
  rw [List.zipIdx_map_fst] at hfst
  rw [hfst]
  congr 1
  funext p
  rcases p with ⟨_ | r, i⟩
  · rfl
  · by_cases hr : r.failed = true <;> simp [hr]

/-- The results that did not fail and those that did add up to all results. -/
theorem Batch.succeeded_add_failures (rs : List JobResult) :
    Batch.succeeded (rs.map some) + (Batch.failures (rs.map some)).length = rs.length := by
  have hsucceeded : Batch.succeeded (rs.map some) = rs.countP fun r => !r.failed := by
    simp [Batch.succeeded, List.countP_eq_length_filter, List.filter_map, Function.comp_def]
  rw [hsucceeded, Batch.length_failures, List.countP_map, Nat.add_comm]
  simpa [Function.comp_def] using (List.length_eq_countP_add_countP fun r : JobResult => r.failed).symm

/-- On any host, whatever each program does, and under any context but none at all, a batch
gives one result per job, for that job and in the jobs' order, each classified consistently; the
results that did not fail and those that did add up to the jobs. -/
theorem runBatch_classified (host : Host) (s : ExecutorSettings) (ctx : RunContext)
    (files : FileTree) (jobs : List Job) (hctx : ctx ≠ .absent) :
    ∃ rs files' stop, runBatch host s ctx files jobs = .ok (rs, files', stop) ∧
      rs.map (·.job) = jobs ∧ (∀ r ∈ rs, r.Classified) ∧
      Batch.succeeded (rs.map some) + (Batch.failures (rs.map some)).length = jobs.length := by
  obtain ⟨rs, files', stop, hrun⟩ := runBatch_eq_ok host s files jobs hctx
  have hjobs := runBatch_results hrun
  refine ⟨rs, files', stop, hrun, hjobs, fun r hr => (runBatch_shapes hrun r hr).classified, ?_⟩
  rw [Batch.succeeded_add_failures, ← hjobs, List.length_map]

/-- A batch of two jobs, one without a command, in the background on the shell host. -/
theorem runBatch_classified_sample :
    let jobs : List Job :=
      [{ benchmark := "gcc", predictor := { family := "taken" }, command := ["true"],
         logPath := "logs/gcc_taken.out" },
       { benchmark := "li", predictor := { family := "taken" }, command := [],
         logPath := "logs/li_taken.out" }]
    RunContext.background ≠ .absent ∧
    ∃ rs files' stop, runBatch Host.shell {} .background {} jobs = .ok (rs, files', stop) ∧
      rs.map (·.job) = jobs ∧ (∀ r ∈ rs, r.Classified) ∧
      Batch.succeeded (rs.map some) + (Batch.failures (rs.map some)).length = jobs.length := by
  intro jobs
  have hctx : RunContext.background ≠ .absent := by decide
  exact ⟨hctx, runBatch_classified Host.shell {} .background {} jobs hctx⟩

end PredictorSweep
