import PredictorSweep.Sweep.Run
import PredictorSweep.Proofs.Plan
import PredictorSweep.Proofs.Table.Summary
import PredictorSweep.Proofs.DiagnosticOrder
/-!
# What a sweep fills

A sweep takes what it can from its store, hands the other jobs to a runner, collects the results
in order, and marks every job still without a cell as having produced nothing. The jobs of a plan
have distinct accepted keys, so none of these updates is ever refused, and each touches only its
own job's cell.

This module follows the sweep phase by phase. Each phase is described once by what one of its
steps does (`reuseStored_step`, `collectResult_fst`), and read cell by cell through
`Table.cell_foldl`.

Main statements:

* `sweep_cells`, `sweep_job_cell`: after a sweep, each job's cell holds the stored record, or its
  result's cell, or is missing as having produced nothing, and no other cell is filled;
* `sweep_counts`: what the sweep counts as executed, reused and failed;
* `runSweep_covers`: a sweep of a valid plan, with any store and a runner that answers each batch
  of distinct jobs with results for distinct jobs of the batch, succeeds and covers every job
  exactly once (`SweepRun.Covers`).
-/

namespace PredictorSweep

/-! ## Notes -/

section Notes

variable (o : Outcome)

/-! A note changes only the notes. -/

@[simp] theorem Outcome.note_eq (d : Diagnostic) :
    o.note d = { o with diagnostics := o.diagnostics ++ [d] } := rfl
@[simp] theorem Outcome.noteAll_eq (ds : List Diagnostic) :
    o.noteAll ds = { o with diagnostics := o.diagnostics ++ ds } := rfl

end Notes

theorem stage_of_mem_parseReport {key : Key} {text : String} {d : Diagnostic}
    (h : d ∈ (parseReport key text).diagnostics) : d.stage = .parse := by
  simp only [parseReport] at h
  -- every step keeps all notes at the parse stage
  refine List.foldlRecOn (motive := fun p : Parsed => ∀ d ∈ p.diagnostics, d.stage = .parse)
    Metric.all _ (by simp) (fun p hp m _ => ?_) d h
  intro d hd
  split at hd
  · exact hp d hd
  · rcases List.mem_append.mp hd with hd | hd
    · exact hp d hd
    · rw [List.mem_singleton.mp hd]


/-! ## The store phase -/

/-- The record the store holds for a job under the job's own command line; nothing when it holds
none or cannot be asked. -/
def ResultStore.storedRecord (s : ResultStore) (ctx : RunContext) (j : Job) : Option Record :=
  match s.lookup ctx j with
  | .ok r => r
  | .error _ => none


/-- The record a sweep takes from its store in place of running a job, which it does only when it
resumes from a store. -/
def storedFor (store : Option ResultStore) (resume : Bool) (ctx : RunContext) (j : Job) :
    Option Record :=
  match store with
  | some s => if resume then s.storedRecord ctx j else none
  | none => none

/-- What taking one job from the store does: a job the store holds is recorded and counted as
reused, any other is left to run; a store that cannot be asked is noted at the store stage. -/
theorem reuseStored_step (ctx : RunContext) (s : ResultStore) (jobs : List Job) (o : Outcome) :
    ∃ step : Outcome × List Job → Job → Outcome × List Job,
      reuseStored ctx s jobs o = jobs.foldl step (o, []) ∧
      ∀ o p j, ∃ notes : List Diagnostic, (∀ d ∈ notes, d.stage = .store) ∧
        step (o, p) j = match s.storedRecord ctx j with
          | some r => ({ o with table := (o.table.record j.key r).1, reused := o.reused + 1,
                                diagnostics := o.diagnostics ++ notes }, p)
          | none => ({ o with diagnostics := o.diagnostics ++ notes }, p ++ [j]) := by
  refine ⟨_, rfl, fun o p j => ?_⟩
  cases hl : s.lookup ctx j with
  | error e =>
    refine ⟨[{ stage := .store, key := j.key, reason := "lookup failed, re-running: " ++ e.message }],
      by simp, ?_⟩
    simp [ResultStore.storedRecord, hl]
  | ok r =>
    refine ⟨[], by simp, ?_⟩
    cases r with
    | none => simp [ResultStore.storedRecord, hl]
    | some r => simp [ResultStore.storedRecord, hl]


/-- A pass over jobs that records those the store holds and leaves the others pending. -/
theorem foldl_reuse {S : Job → Option Record} {step : Outcome × List Job → Job → Outcome × List Job}
    (hstep : ∀ o p j, ∃ notes : List Diagnostic, (∀ d ∈ notes, d.stage = .store) ∧
      step (o, p) j = match S j with
        | some r => ({ o with table := (o.table.record j.key r).1, reused := o.reused + 1,
                              diagnostics := o.diagnostics ++ notes }, p)
        | none => ({ o with diagnostics := o.diagnostics ++ notes }, p ++ [j]))
    (js : List Job) (o : Outcome) (p : List Job) :
    (js.foldl step (o, p)).2 = p ++ js.filter (fun j => (S j).isNone) ∧
    (js.foldl step (o, p)).1.reused = o.reused + (js.filter fun j => (S j).isSome).length ∧
    (js.foldl step (o, p)).1.failed = o.failed ∧
    Diagnostic.ofStage (js.foldl step (o, p)).1.diagnostics .execute =
      Diagnostic.ofStage o.diagnostics .execute := by
  induction js generalizing o p with
  | nil => simp
  | cons j js ih =>
    obtain ⟨notes, hnotes, heq⟩ := hstep o p j
    have hquiet : Diagnostic.ofStage notes .execute = [] :=
      Diagnostic.ofStage_eq_nil fun d hd => by rw [hnotes d hd]; decide
    rw [List.foldl_cons, heq]
    cases hS : S j with
    | none =>
      obtain ⟨hp, hr, hf, hd⟩ := ih { o with diagnostics := o.diagnostics ++ notes } (p ++ [j])
      refine ⟨?_, ?_, hf, ?_⟩
      · simp [hp, hS]
      · simp [hr, hS]
      · rw [hd, Diagnostic.ofStage_append, hquiet, List.append_nil]
    | some r =>
      obtain ⟨hp, hr, hf, hd⟩ :=
        ih { o with table := (o.table.record j.key r).1, reused := o.reused + 1,
                    diagnostics := o.diagnostics ++ notes } p
      refine ⟨?_, ?_, hf, ?_⟩
      · simp [hp, hS]
      · simp [hr, hS]
        omega
      · rw [hd, Diagnostic.ofStage_append, hquiet, List.append_nil]

/-- What a sweep knows once it has taken from the store what `stored` gives for each job: the jobs
left to run are those it took nothing for; each job taken is counted and its cell holds the
record taken; no other cell is filled; nothing has failed yet. -/
structure ReusePhase (stored : Job → Option Record) (jobs : List Job) (R : Outcome × List Job) :
    Prop where
  pending : R.2 = jobs.filter fun j => (stored j).isNone
  reused : R.1.reused = (jobs.filter fun j => (stored j).isSome).length
  failed : R.1.failed = 0
  execute : Diagnostic.ofStage R.1.diagnostics .execute = []
  wellFormed : R.1.table.WellFormed
  frozen : R.1.table.frozen = false
  cell_job : ∀ j ∈ jobs, R.1.table.cell j.key = (stored j, none)
  cell_other : ∀ k, k ∉ jobs.map Job.key → R.1.table.cell k = (none, none)

section Reuse

variable {jobs : List Job}

/-- Without a store to resume from, every job is left to run. -/
theorem reusePhase_none : ReusePhase (fun _ => none) jobs ({ jobs := jobs }, jobs) where
  pending := by simp
  reused := by simp
  failed := rfl
  execute := rfl
  wellFormed := Table.wellFormed_empty
  frozen := rfl
  cell_job _ _ := Table.cell_empty _
  cell_other _ _ := Table.cell_empty _

/-- Resuming from a store takes, for jobs with distinct accepted keys, each record the store
holds. -/
theorem reusePhase_reuseStored (ctx : RunContext) (s : ResultStore)
    (hnodup : (jobs.map Job.key).Nodup) (hvalid : ∀ j ∈ jobs, checkKey j.key = .ok ()) :
    ReusePhase (s.storedRecord ctx) jobs (reuseStored ctx s jobs { jobs := jobs }) := by
  obtain ⟨step, heq, hstep⟩ := reuseStored_step ctx s jobs { jobs := jobs }
  obtain ⟨hp, hr, hf, hd⟩ := foldl_reuse hstep jobs { jobs := jobs } []
  -- each step records its own job's cell, if the store holds it, and touches no other
  have hcells := @Table.cell_foldl (Outcome × List Job) Job (fun acc => acc.1.table) Job.key
    (fun j => (s.storedRecord ctx j, none)) step {} jobs hnodup
    (fun ⟨o, p⟩ j hj hwf hfz hfresh => by
      obtain ⟨notes, -, hstepj⟩ := hstep o p j
      rw [hstepj]
      cases hS : s.storedRecord ctx j with
      | none =>
        -- nothing stored: the table stays, and the job's cell is still empty
        dsimp only
        refine ⟨hwf, hfz, fun k => ?_⟩
        split
        · rename_i hk
          rw [hk]
          exact hfresh.trans (Table.cell_empty _)
        · rfl
      | some r =>
        dsimp only
        exact ⟨Table.wellFormed_record hwf, (Table.frozen_record).trans hfz,
          Table.cell_record hfz (hvalid j hj)⟩)
    ({ jobs := jobs }, []) Table.wellFormed_empty rfl (fun _ _ => rfl)
  obtain ⟨hwf, hfz, hjob, hother⟩ := hcells
  rw [heq]
  exact ⟨by simpa using hp, by simpa using hr, hf, by rw [hd]; rfl, hwf, hfz, hjob,
    fun k hk => (hother k hk).trans (Table.cell_empty k)⟩

end Reuse

/-! ## Collecting results -/

/-- The cell a result leaves: a failed result marks it missing with its reason, any other records
its parsed metrics. -/
def JobResult.cell (r : JobResult) : Option Record × Option String :=
  if r.failed then (none, some r.reason) else (some (parseReport r.job.key r.output).record, none)


theorem JobResult.cell_cases (r : JobResult) :
    (∃ rec, r.cell = (some rec, none)) ∨ ∃ why, r.cell = (none, some why) := by
  unfold JobResult.cell
  split
  · exact .inr ⟨r.reason, rfl⟩
  · exact .inl ⟨_, rfl⟩

section Collect

variable (ctx : RunContext) (runId : String) (acc : Outcome × Option ResultStore) (r : JobResult)

/-- The notes a successful result leaves carry no execute-stage note: its parse notes, and at most
one store note. -/
theorem ofStage_parse_notes {key : Key} {text : String} {notes : List Diagnostic}
    (h : ∀ d ∈ notes, d.stage = .store) :
    Diagnostic.ofStage ((parseReport key text).diagnostics ++ notes) .execute = [] := by
  apply Diagnostic.ofStage_eq_nil
  intro d hd
  rcases List.mem_append.mp hd with hd | hd
  · rw [stage_of_mem_parseReport hd]
    decide
  · rw [h d hd]
    decide

/-- What collecting one result does to the outcome: a failed result is counted, noted once at the
execute stage and marks its cell missing with its reason; any other result records its parsed
metrics, with its parse notes and possibly a store note. -/
theorem collectResult_fst : ∃ notes : List Diagnostic,
    (collectResult ctx runId acc r).1 =
      { acc.1 with
        failed := acc.1.failed + (if r.failed then 1 else 0),
        table := if r.failed then (acc.1.table.markMissing r.job.key r.reason).1
          else (acc.1.table.record r.job.key (parseReport r.job.key r.output).record).1,
        diagnostics := acc.1.diagnostics ++ notes } ∧
    (Diagnostic.ofStage notes .execute).length = if r.failed then 1 else 0 := by
  obtain ⟨o, store⟩ := acc
  by_cases hf : r.failed
  · refine ⟨[{ stage := .execute, key := r.job.key, reason := r.reason }], ?_, ?_⟩
    · simp [collectResult, hf]
    · simp [hf, Diagnostic.ofStage]
  · simp only [Bool.not_eq_true] at hf
    simp only [hf, Bool.false_eq_true, if_false, Nat.add_zero]
    -- the parse notes, and any store note, are not of the execute stage
    have hparse : (Diagnostic.ofStage (parseReport r.job.key r.output).diagnostics .execute).length
        = 0 := by
      rw [← List.append_nil (parseReport r.job.key r.output).diagnostics,
        ofStage_parse_notes (by simp)]
      rfl
    cases store with
    | none =>
      exact ⟨(parseReport r.job.key r.output).diagnostics,
        by simp [collectResult, hf], hparse⟩
    | some s =>
      simp only [collectResult, hf, Bool.false_eq_true, if_false]
      split
      · exact ⟨(parseReport r.job.key r.output).diagnostics, by simp, hparse⟩
      · split
        · exact ⟨(parseReport r.job.key r.output).diagnostics, by simp, hparse⟩
        · rename_i e _
          refine ⟨(parseReport r.job.key r.output).diagnostics ++
            [{ stage := .store, key := r.job.key, reason := e.message }], ?_, ?_⟩
          · simp
          · rw [ofStage_parse_notes (by simp)]
            rfl

/-- Collecting a result whose job's cell is free, as one step of a keyed pass: the table stays
well formed and open, and only the job's cell changes, to the result's cell. -/
theorem collectResult_step (hwf : acc.1.table.WellFormed) (hfz : acc.1.table.frozen = false)
    (hk : checkKey r.job.key = .ok ()) (hfree : acc.1.table.find? r.job.key = none) :
    (collectResult ctx runId acc r).1.table.WellFormed ∧
      (collectResult ctx runId acc r).1.table.frozen = false ∧
      ∀ k, (collectResult ctx runId acc r).1.table.cell k =
        if k = r.job.key then r.cell else acc.1.table.cell k := by
  obtain ⟨notes, heq, -⟩ := collectResult_fst ctx runId acc r
  rw [heq]
  by_cases hf : r.failed
  · simp only [hf, if_true, JobResult.cell]
    exact Table.markMissing_step hwf hfz hk hfree
  · simp only [hf, Bool.false_eq_true, if_false, JobResult.cell]
    exact Table.record_step hwf hfz hk

end Collect

/-- A pass over results collecting each: the failed ones are counted and noted at the execute
stage; nothing else counted changes. -/
theorem foldl_collectResult (ctx : RunContext) (runId : String) (rs : List JobResult)
    (acc : Outcome × Option ResultStore) :
    (rs.foldl (collectResult ctx runId) acc).1.failed = acc.1.failed + (rs.filter (·.failed)).length ∧
    (rs.foldl (collectResult ctx runId) acc).1.executed = acc.1.executed ∧
    (rs.foldl (collectResult ctx runId) acc).1.reused = acc.1.reused ∧
    (Diagnostic.ofStage (rs.foldl (collectResult ctx runId) acc).1.diagnostics .execute).length =
      (Diagnostic.ofStage acc.1.diagnostics .execute).length + (rs.filter (·.failed)).length := by
  induction rs generalizing acc with
  | nil => simp
  | cons r rs ih =>
    obtain ⟨notes, heq, hnotes⟩ := collectResult_fst ctx runId acc r
    obtain ⟨hf, he, hr, hd⟩ := ih (collectResult ctx runId acc r)
    rw [List.foldl_cons]
    refine ⟨?_, ?_, ?_, ?_⟩
    · rw [hf, heq]
      by_cases hfail : r.failed
      · simp [hfail]
        omega
      · simp [hfail]
    · rw [he, heq]
    · rw [hr, heq]
    · rw [hd, heq]
      simp only [Diagnostic.ofStage_append, List.length_append, hnotes]
      by_cases hfail : r.failed
      · simp [hfail]
        omega
      · simp [hfail]

/-! ## Marking and finishing -/

/-- Marking cells missing one by one changes the table and nothing else. -/
theorem foldl_markMissing_outcome (ks : List Key) (why : String) (o : Outcome) :
    ∃ t : Table, ks.foldl (fun (o : Outcome) k => { o with table := (o.table.markMissing k why).1 }) o =
      { o with table := t } := by
  induction ks generalizing o with
  | nil => exact ⟨o.table, rfl⟩
  | cons k ks ih =>
    obtain ⟨t, ht⟩ := ih { o with table := (o.table.markMissing k why).1 }
    exact ⟨t, by rw [List.foldl_cons, ht]⟩

section Finish

variable (o : Outcome)

@[simp] theorem Outcome.finish_executed : o.finish.executed = o.executed := rfl
@[simp] theorem Outcome.finish_reused : o.finish.reused = o.reused := rfl
@[simp] theorem Outcome.finish_failed : o.finish.failed = o.failed := rfl
@[simp] theorem Outcome.finish_table : o.finish.table = o.table.freeze := rfl
@[simp] theorem Outcome.finish_aggregates : o.finish.aggregates = o.table.freeze.aggregate.1 := rfl
@[simp] theorem Outcome.finish_missing : o.finish.missing = o.table.freeze.missing := rfl
@[simp] theorem Outcome.finish_diagnostics :
    o.finish.diagnostics = Diagnostic.sort (o.diagnostics ++ o.table.freeze.aggregate.2) := rfl

end Finish

/-! ## Coverage -/

/-- A cell holding a record or a reason but not both. -/
theorem Table.xor_of_cell {t : Table} {k : Key} {c : Option Record × Option String}
    (h : t.cell k = c) (hc : (∃ r, c = (some r, none)) ∨ ∃ why, c = (none, some why)) :
    Xor (t.find? k).isSome (t.reason? k).isSome := by
  have hfind : t.find? k = c.1 := congrArg Prod.fst h
  have hreason : t.reason? k = c.2 := congrArg Prod.snd h
  rcases hc with ⟨r, rfl⟩ | ⟨why, rfl⟩
  · exact .inl ⟨by simp [hfind], by simp [hreason]⟩
  · exact .inr ⟨by simp [hreason], by simp [hfind]⟩

/-- What a sweep run promises about its jobs, the results its runner gave, and what `stored` gave
for each job from the store. -/
structure SweepRun.Covers (sr : SweepRun) (jobs : List Job) (stored : Job → Option Record)
    (rs : List JobResult) : Prop where
  /-- The jobs handed to the runner are those the store gave nothing for. -/
  asked : sr.asked = jobs.filter fun j => (stored j).isNone
  /-- The table is frozen. -/
  frozen : sr.outcome.table.frozen = true
  /-- Every job's cell holds a record or is marked missing, never both. -/
  exactly_one : ∀ j ∈ jobs, Xor (sr.outcome.table.find? j.key).isSome
    (sr.outcome.table.reason? j.key).isSome
  /-- No other cell holds either. -/
  only_jobs : ∀ k, (sr.outcome.table.find? k).isSome ∨ (sr.outcome.table.reason? k).isSome →
    k ∈ jobs.map Job.key
  /-- So the records and the missing cells add up to the jobs. -/
  size_add_missing : sr.outcome.table.size + sr.outcome.missing.length = jobs.length
  /-- Every result counts as executed. -/
  executed : sr.outcome.executed = rs.length
  /-- The jobs the store filled count as reused ... -/
  reused : sr.outcome.reused = (jobs.filter fun j => (stored j).isSome).length
  /-- ... and their cells hold the stored records. -/
  find?_stored : ∀ j ∈ jobs, ∀ r, stored j = some r → sr.outcome.table.find? j.key = some r
  /-- When every job handed to the runner has a result, reused and executed jobs are all jobs. -/
  reused_add_executed : (∀ j ∈ sr.asked, ∃ r ∈ rs, r.job = j) →
    sr.outcome.reused + sr.outcome.executed = jobs.length
  /-- The failures are the failed results ... -/
  failed : sr.outcome.failed = (rs.filter (·.failed)).length
  /-- ... each noted once at the execute stage. -/
  failed_notes : sr.outcome.failed = (Diagnostic.ofStage sr.outcome.diagnostics .execute).length
  /-- Any other result's cell holds its parsed metrics. -/
  find?_result : ∀ r ∈ rs, r.failed = false →
    sr.outcome.table.find? r.job.key = some (parseReport r.job.key r.output).record
  /-- A missing cell is a failed result's, with the result's reason, or a job handed to the runner
  that got no result. -/
  missing_reason : ∀ m ∈ sr.outcome.missing,
    (∃ r ∈ rs, r.failed = true ∧ r.job.key = m.key ∧ m.reason = r.reason) ∨
    (∃ j ∈ sr.asked, j.key = m.key ∧ (∀ r ∈ rs, r.job ≠ j) ∧ m.reason = "no result produced")
  /-- The summaries are the final table's. -/
  aggregates : sr.outcome.aggregates = sr.outcome.table.aggregate.1
  /-- The missing cells are the final table's. -/
  missing : sr.outcome.missing = sr.outcome.table.missing

section Cells

variable {stored : Job → Option Record} {jobs : List Job} {R : Outcome × List Job}
  (hR : ReusePhase stored jobs R) (hnodup : (jobs.map Job.key).Nodup)
  (hvalid : ∀ j ∈ jobs, checkKey j.key = .ok ())
  (ctx : RunContext) (runId : String) (store : Option ResultStore) {rs : List JobResult}
  (hjobs : (rs.map (·.job)).Nodup) (hsub : ∀ r ∈ rs, r.job ∈ R.2)
include hR hnodup hvalid hjobs hsub

/-- The table once every result is collected and every job without a cell is marked as having
produced nothing, cell by cell: a job taken from the store holds the stored record, a job with a
result holds the result's cell, a job left to run without a result is missing as having produced
nothing, and no other cell is filled. -/
theorem sweep_cells :
    let C := rs.foldl (collectResult ctx runId) ({ R.1 with executed := rs.length }, store)
    let T := (C.1.table.incomplete (jobs.map (·.key))).foldl
      (fun (o : Outcome) k => { o with table := (o.table.markMissing k "no result produced").1 }) C.1
    T.table.WellFormed ∧
    (∀ j ∈ jobs, ∀ rec, stored j = some rec → T.table.cell j.key = (some rec, none)) ∧
    (∀ r ∈ rs, T.table.cell r.job.key = r.cell) ∧
    (∀ j ∈ R.2, (∀ r ∈ rs, r.job ≠ j) → T.table.cell j.key = (none, some "no result produced")) ∧
    (∀ k, k ∉ jobs.map Job.key → T.table.cell k = (none, none)) := by
  intro C T
  -- the jobs left to run are jobs the store gave nothing for, and results are for such jobs
  have hkey : ∀ a ∈ jobs, ∀ b ∈ jobs, a.key = b.key → a = b := List.inj_on_of_nodup_map hnodup
  have hpending : ∀ j ∈ R.2, j ∈ jobs ∧ stored j = none := by
    intro j hj
    rw [hR.pending, List.mem_filter, Option.isNone_iff_eq_none] at hj
    exact hj
  have hresult : ∀ r ∈ rs, r.job ∈ jobs ∧ stored r.job = none := fun r hr => hpending _ (hsub r hr)
  have hrs_keys : (rs.map (·.job.key)).Nodup := by
    have hmap : rs.map (·.job.key) = (rs.map (·.job)).map Job.key := by simp [Function.comp_def]
    rw [hmap]
    refine hjobs.map_on fun a ha b hb hab => hkey a ?_ b ?_ hab
    · obtain ⟨r, hr, rfl⟩ := List.mem_map.mp ha
      exact (hresult r hr).1
    · obtain ⟨r, hr, rfl⟩ := List.mem_map.mp hb
      exact (hresult r hr).1
  -- a job's key is a result's key only for that result's job
  have hno_result : ∀ j ∈ jobs, (∀ r ∈ rs, r.job ≠ j) → j.key ∉ rs.map (·.job.key) := by
    intro j hj hnone hmem
    obtain ⟨r, hr, hrk⟩ := List.mem_map.mp hmem
    exact hnone r hr (hkey _ (hresult r hr).1 j hj hrk)
  -- collecting the results sets each result's cell
  obtain ⟨hwf₂, hfz₂, hres₂, hother₂⟩ :=
    @Table.cell_foldl (Outcome × Option ResultStore) JobResult (fun acc => acc.1.table)
      (fun r => r.job.key) JobResult.cell (collectResult ctx runId) R.1.table rs hrs_keys
      (fun acc r hr hwf hfz hfresh => by
        -- the result's job was left to run, so its cell is still empty
        have hempty : acc.1.table.cell r.job.key = (none, none) := by
          rw [hfresh, hR.cell_job _ (hresult r hr).1, (hresult r hr).2]
        exact collectResult_step ctx runId acc r hwf hfz (hvalid _ (hresult r hr).1)
          (congrArg Prod.fst hempty))
      ({ R.1 with executed := rs.length }, store) hR.wellFormed hR.frozen (fun _ _ => rfl)
  -- the jobs still without a cell are then marked as having produced nothing
  have hK : ∀ k, k ∈ C.1.table.incomplete (jobs.map (·.key)) ↔
      k ∈ jobs.map Job.key ∧ C.1.table.cell k = (none, none) := by
    intro k
    simp [Table.incomplete, Table.cell, List.mem_filter, Option.isNone_iff_eq_none]
  have hKnodup : ((C.1.table.incomplete (jobs.map (·.key))).map id).Nodup := by
    rw [List.map_id]
    exact hnodup.filter _
  obtain ⟨hwf₃, -, hK₃, hother₃⟩ :=
    @Table.cell_foldl Outcome Key Outcome.table id (fun _ => (none, some "no result produced"))
      (fun (o : Outcome) k => { o with table := (o.table.markMissing k "no result produced").1 })
      C.1.table (C.1.table.incomplete (jobs.map (·.key))) hKnodup
      (fun o k hk hwf hfz hfresh => by
        obtain ⟨hkjob, hkempty⟩ := (hK k).mp hk
        obtain ⟨j, hj, rfl⟩ := List.mem_map.mp hkjob
        exact Table.markMissing_step hwf hfz (hvalid j hj) (congrArg Prod.fst (hfresh.trans hkempty)))
      C.1 hwf₂ hfz₂ (fun _ _ => rfl)
  -- a filled cell is not marked again
  have hkept : ∀ k, C.1.table.cell k ≠ (none, none) → T.table.cell k = C.1.table.cell k := by
    intro k hk
    refine hother₃ k fun hmem => hk ?_
    rw [List.map_id] at hmem
    exact ((hK k).mp hmem).2
  refine ⟨hwf₃, fun j hj rec hrec => ?_, fun r hr => ?_, fun j hj hnone => ?_, fun k hk => ?_⟩
  · -- a job taken from the store has no result
    have hC : C.1.table.cell j.key = (some rec, none) := by
      rw [hother₂ _ (hno_result j hj fun r hr hrj => ?_), hR.cell_job j hj, hrec]
      rw [← hrj, (hresult r hr).2] at hrec
      simp at hrec
    rw [hkept _ (by simp [hC]), hC]
  · have hC : C.1.table.cell r.job.key = r.cell := hres₂ r hr
    rw [hkept _ (by rw [hC]; unfold JobResult.cell; split <;> simp), hC]
  · obtain ⟨hjob, hstored⟩ := hpending j hj
    have hC : C.1.table.cell j.key = (none, none) := by
      rw [hother₂ _ (hno_result j hjob hnone), hR.cell_job j hjob, hstored]
    exact hK₃ j.key ((hK j.key).mpr ⟨List.mem_map_of_mem hjob, hC⟩)
  · have hrk : k ∉ rs.map (·.job.key) := by
      intro hmem
      obtain ⟨r, hr, rfl⟩ := List.mem_map.mp hmem
      exact hk (List.mem_map_of_mem (hresult r hr).1)
    have hC : C.1.table.cell k = (none, none) := by
      rw [hother₂ k hrk, hR.cell_other k hk]
    rw [hother₃ k (fun hmem => hk ((hK k).mp (by simpa using hmem)).1), hC]

omit hnodup hvalid hjobs hsub in
/-- What a sweep counts: every result as executed, the jobs taken from the store as reused, and
the failed results as failed, each noted once at the execute stage. -/
theorem sweep_counts :
    let C := rs.foldl (collectResult ctx runId) ({ R.1 with executed := rs.length }, store)
    let T := (C.1.table.incomplete (jobs.map (·.key))).foldl
      (fun (o : Outcome) k => { o with table := (o.table.markMissing k "no result produced").1 }) C.1
    T.finish.executed = rs.length ∧ T.finish.reused = R.1.reused ∧
    T.finish.failed = (rs.filter (·.failed)).length ∧
    (Diagnostic.ofStage T.finish.diagnostics .execute).length = T.finish.failed := by
  intro C T
  obtain ⟨hf, he, hr, hd⟩ :=
    foldl_collectResult ctx runId rs ({ R.1 with executed := rs.length }, store)
  have hfailed : C.1.failed = (rs.filter (·.failed)).length := by
    have h : C.1.failed = R.1.failed + (rs.filter (·.failed)).length := hf
    rw [h, hR.failed, Nat.zero_add]
  have hnotes : (Diagnostic.ofStage C.1.diagnostics .execute).length =
      (rs.filter (·.failed)).length := by
    have h : (Diagnostic.ofStage C.1.diagnostics .execute).length =
        (Diagnostic.ofStage R.1.diagnostics .execute).length + (rs.filter (·.failed)).length := hd
    rw [h, hR.execute, List.length_nil, Nat.zero_add]
  obtain ⟨t, ht⟩ := foldl_markMissing_outcome (C.1.table.incomplete (jobs.map (·.key)))
    "no result produced" C.1
  have hT : T = { C.1 with table := t } := ht
  -- the summary's own notes are of the summary stage
  have hquiet : Diagnostic.ofStage T.table.freeze.aggregate.2 .execute = [] :=
    Diagnostic.ofStage_eq_nil fun d hd => by
      rw [Table.stage_of_mem_aggregate hd]
      decide
  refine ⟨?_, ?_, ?_, ?_⟩
  · rw [Outcome.finish_executed, hT]
    exact he
  · rw [Outcome.finish_reused, hT]
    exact hr
  · rw [Outcome.finish_failed, hT]
    exact hfailed
  · rw [Outcome.finish_diagnostics, Diagnostic.length_ofStage_sort, Diagnostic.ofStage_append,
      hquiet, List.append_nil, Outcome.finish_failed, hT]
    exact hnotes.trans hfailed.symm

/-- Each job's cell after a sweep is in one of three states: taken from the store, left by the
job's result, or missing for a job that ran without a result. -/
theorem sweep_job_cell {j : Job} (hj : j ∈ jobs) :
    let C := rs.foldl (collectResult ctx runId) ({ R.1 with executed := rs.length }, store)
    let T := (C.1.table.incomplete (jobs.map (·.key))).foldl
      (fun (o : Outcome) k => { o with table := (o.table.markMissing k "no result produced").1 }) C.1
    (∃ rec, stored j = some rec ∧ T.table.cell j.key = (some rec, none)) ∨
    (∃ r ∈ rs, r.job = j ∧ T.table.cell j.key = r.cell) ∨
    (j ∈ R.2 ∧ (∀ r ∈ rs, r.job ≠ j) ∧
      T.table.cell j.key = (none, some "no result produced")) := by
  intro C T
  obtain ⟨-, hstored, hres, hnores, -⟩ := sweep_cells hR hnodup hvalid ctx runId store hjobs hsub
  cases hs : stored j with
  | some rec => exact .inl ⟨rec, rfl, hstored j hj rec hs⟩
  | none =>
    have hpend : j ∈ R.2 := by
      rw [hR.pending, List.mem_filter]
      exact ⟨hj, by simp [hs]⟩
    by_cases hsome : ∃ r ∈ rs, r.job = j
    · obtain ⟨r, hr, rfl⟩ := hsome
      exact .inr (.inl ⟨r, hr, rfl, hres r hr⟩)
    · have hnone : ∀ r ∈ rs, r.job ≠ j := fun r hr hrj => hsome ⟨r, hr, hrj⟩
      exact .inr (.inr ⟨hpend, hnone, hnores j hpend hnone⟩)

/-- A sweep that took from the store what `stored` gives and then collected `rs` covers its jobs. -/
theorem sweep_covers (files' : FileTree) :
    let C := rs.foldl (collectResult ctx runId) ({ R.1 with executed := rs.length }, store)
    let T := (C.1.table.incomplete (jobs.map (·.key))).foldl
      (fun (o : Outcome) k => { o with table := (o.table.markMissing k "no result produced").1 }) C.1
    SweepRun.Covers { outcome := T.finish, asked := R.2, store := C.2, files := files' } jobs stored
      rs := by
  intro C T
  obtain ⟨hwf, hstored, hres, -, hother⟩ := sweep_cells hR hnodup hvalid ctx runId store hjobs hsub
  obtain ⟨hexec, hreused, hfailed, hnotes⟩ := @sweep_counts _ _ _ hR ctx runId store rs
  have hcell : ∀ j ∈ jobs, _ := fun j hj =>
    sweep_job_cell hR hnodup hvalid ctx runId store hjobs hsub hj
  -- freezing keeps every cell
  have hfind : ∀ k, T.finish.table.find? k = (T.table.cell k).1 := fun _ => rfl
  have hreason : ∀ k, T.finish.table.reason? k = (T.table.cell k).2 := fun _ => rfl
  have hexactly : ∀ j ∈ jobs, Xor (T.finish.table.find? j.key).isSome
      (T.finish.table.reason? j.key).isSome := by
    intro j hj
    rcases hcell j hj with ⟨rec, -, h⟩ | ⟨r, -, -, h⟩ | ⟨-, -, h⟩
    · exact @Table.xor_of_cell T.finish.table _ _ h (.inl ⟨rec, rfl⟩)
    · exact @Table.xor_of_cell T.finish.table _ _ h r.cell_cases
    · exact @Table.xor_of_cell T.finish.table _ _ h (.inr ⟨_, rfl⟩)
  have honly : ∀ k, (T.finish.table.find? k).isSome ∨ (T.finish.table.reason? k).isSome →
      k ∈ jobs.map Job.key := by
    intro k hk
    by_contra hnot
    rw [hfind, hreason, hother k hnot] at hk
    simp at hk
  -- the job keys are exactly the filled cells, so they count the records and the marks
  have hcover : ∀ k, (T.finish.table.find? k).isSome ∨ (T.finish.table.reason? k).isSome ↔
      k ∈ jobs.map Job.key := by
    intro k
    refine ⟨honly k, fun hk => ?_⟩
    obtain ⟨j, hj, rfl⟩ := List.mem_map.mp hk
    rcases hexactly j hj with ⟨h, -⟩ | ⟨h, -⟩
    · exact .inl h
    · exact .inr h
  have hsize : T.finish.table.size + T.finish.missing.length = jobs.length := by
    have h := Table.size_add_length_marks (Table.wellFormed_freeze hwf) hnodup hcover
    rw [List.length_map] at h
    rw [Outcome.finish_missing, Table.missing, (sortByKey_perm _ _).length_eq]
    exact h
  have hpending_nodup : R.2.Nodup := by
    rw [hR.pending]
    exact (hnodup.of_map _).filter _
  refine
    { asked := hR.pending
      frozen := rfl
      exactly_one := hexactly
      only_jobs := honly
      size_add_missing := hsize
      executed := hexec
      reused := hreused.trans hR.reused
      find?_stored := fun j hj rec hrec => congrArg Prod.fst (hstored j hj rec hrec)
      reused_add_executed := fun hall => ?_
      failed := hfailed
      failed_notes := hnotes.symm
      find?_result := fun r hr hf => ?_
      missing_reason := fun m hm => ?_
      aggregates := rfl
      missing := rfl }
  · -- the results are then one for each job handed to the runner
    have hperm : (rs.map (·.job)).Perm R.2 := by
      refine (List.perm_ext_iff_of_nodup hjobs hpending_nodup).mpr fun j => ⟨fun h => ?_, fun h => ?_⟩
      · obtain ⟨r, hr, rfl⟩ := List.mem_map.mp h
        exact hsub r hr
      · obtain ⟨r, hr, hrj⟩ := hall j h
        exact List.mem_map.mpr ⟨r, hr, hrj⟩
    have hlen : rs.length = R.2.length := by simpa using hperm.length_eq
    -- and the jobs split into those the store filled and those it did not
    have hsplit : jobs.length = (jobs.filter fun j => (stored j).isSome).length +
        (jobs.filter fun j => (stored j).isNone).length := by
      simpa using @List.length_eq_length_filter_add _ jobs (fun j => (stored j).isSome)
    show T.finish.reused + T.finish.executed = jobs.length
    rw [hreused, hexec, hlen, hR.reused, hR.pending]
    exact hsplit.symm
  · have h : (T.table.cell r.job.key).1 = some (parseReport r.job.key r.output).record := by
      rw [hres r hr]
      simp [JobResult.cell, hf]
    exact h
  · -- a missing cell is a job's cell marked missing
    have hmark : m ∈ T.table.marks := by
      rw [Outcome.finish_missing, Table.missing, mem_sortByKey] at hm
      exact hm
    have hreason_m : (T.table.cell m.key).2 = some m.reason := Table.mem_marks_iff.mp hmark
    have hkey : m.key ∈ jobs.map Job.key :=
      honly m.key (.inr (by rw [hreason, hreason_m]; rfl))
    obtain ⟨j, hj, hjk⟩ := List.mem_map.mp hkey
    rw [← hjk] at hreason_m ⊢
    rcases hcell j hj with ⟨rec, -, h⟩ | ⟨r, hr, rfl, h⟩ | ⟨hpend, hnone, h⟩
    · rw [h] at hreason_m
      simp at hreason_m
    · -- a result's cell is missing only when it failed
      rw [h] at hreason_m
      unfold JobResult.cell at hreason_m
      split at hreason_m
      · rename_i hf
        exact .inl ⟨r, hr, hf, rfl, (Option.some.inj hreason_m).symm⟩
      · simp at hreason_m
    · rw [h] at hreason_m
      exact .inr ⟨j, hpend, rfl, hnone, (Option.some.inj hreason_m).symm⟩

end Cells

section Run

variable {setup : Setup} {runner : Runner} {store : Option ResultStore} {resume : Bool}
  {ctx : RunContext} {files : FileTree} {runId : String} {jobs : List Job}

/-- A sweep whose store phase leaves `R`, run by a runner that answers a batch of distinct jobs
with results for distinct jobs of the batch, covers its jobs. -/
theorem covers_of_reusePhase {R : Outcome × List Job}
    (hR : ReusePhase (storedFor store resume ctx) jobs R) (hnodup : (jobs.map Job.key).Nodup)
    (hvalid : ∀ j ∈ jobs, checkKey j.key = .ok ())
    (hrunner : ∀ js : List Job, js.Nodup → ∃ rs files', runner ctx files js = .ok (rs, files') ∧
      (rs.map (·.job)).Nodup ∧ ∀ r ∈ rs, r.job ∈ js)
    (hrun : ∀ rs files', runner ctx files R.2 = .ok (rs, files') →
      runSweep setup runner store resume ctx files runId =
        let C := rs.foldl (collectResult ctx runId) ({ R.1 with executed := rs.length }, store)
        let T := (C.1.table.incomplete (jobs.map (·.key))).foldl
          (fun (o : Outcome) k => { o with table := (o.table.markMissing k "no result produced").1 })
          C.1
        .ok { outcome := T.finish, asked := R.2, store := C.2, files := files' }) :
    ∃ sr rs files', runSweep setup runner store resume ctx files runId = .ok sr ∧
      runner ctx files sr.asked = .ok (rs, files') ∧ sr.Covers jobs (storedFor store resume ctx) rs := by
  have hpending : R.2.Nodup := by
    rw [hR.pending]
    exact (hnodup.of_map _).filter _
  obtain ⟨rs, files', hbatch, hdistinct, hsub⟩ := hrunner R.2 hpending
  exact ⟨_, rs, files', hrun rs files' hbatch, hbatch,
    sweep_covers hR hnodup hvalid ctx runId store hdistinct hsub files'⟩

/-- A sweep of a plan, with or without a store to resume from, run by a runner that answers each
batch of distinct jobs with results for distinct jobs of the batch, succeeds and covers every job
of the plan exactly once. -/
theorem runSweep_covers (hctx : ctx ≠ .absent) (hplan : setup.plan = .ok jobs)
    (hrunner : ∀ js : List Job, js.Nodup → ∃ rs files', runner ctx files js = .ok (rs, files') ∧
      (rs.map (·.job)).Nodup ∧ ∀ r ∈ rs, r.job ∈ js) :
    ∃ sr rs files', runSweep setup runner store resume ctx files runId = .ok sr ∧
      runner ctx files sr.asked = .ok (rs, files') ∧ sr.Covers jobs (storedFor store resume ctx) rs := by
  have hnodup := Setup.plan_keys_nodup hplan
  have hvalid : ∀ j ∈ jobs, checkKey j.key = .ok () := fun j hj => Setup.checkKey_of_mem_plan hplan hj
  have hne : (ctx == RunContext.absent) = false := by simpa using hctx
  -- the sweep takes from the store only when it has one and resumes
  cases store with
  | none =>
    refine covers_of_reusePhase reusePhase_none hnodup hvalid hrunner fun rs files' hbatch => ?_
    have hbatch' : runner ctx files jobs = .ok (rs, files') := hbatch
    simp [runSweep, hne, hplan, hbatch']
    rfl
  | some s =>
    cases resume with
    | false =>
      refine covers_of_reusePhase reusePhase_none hnodup hvalid hrunner fun rs files' hbatch => ?_
      have hbatch' : runner ctx files jobs = .ok (rs, files') := hbatch
      simp [runSweep, hne, hplan, hbatch']
      rfl
    | true =>
      refine covers_of_reusePhase (reusePhase_reuseStored ctx s hnodup hvalid) hnodup hvalid hrunner
        fun rs files' hbatch => ?_
      simp [runSweep, hne, hplan, hbatch]
      rfl

end Run

/-- A sweep of one benchmark, without a store, by a runner that gives no result for the job
`gcc_taken`. -/
theorem runSweep_covers_sample :
    let setup : Setup :=
      { driver := "d", simulator := "s", benchmarks := ["gcc"], sizes := [64],
        families := ["gshare"] }
    let jobs := [setup.describe "gcc" { family := "nottaken" },
      setup.describe "gcc" { family := "taken" },
      setup.describe "gcc" { family := "gshare", size := 64, width := 3 }]
    let runner := Runner.prepared [] {} ["gcc_taken"] [] none
    RunContext.background ≠ .absent ∧ setup.plan = .ok jobs ∧
    (∀ js : List Job, js.Nodup → ∃ rs files', runner .background {} js = .ok (rs, files') ∧
      (rs.map (·.job)).Nodup ∧ ∀ r ∈ rs, r.job ∈ js) ∧
    ∃ sr rs files', runSweep setup runner none false .background {} "run" = .ok sr ∧
      runner .background {} sr.asked = .ok (rs, files') ∧
      sr.Covers jobs (storedFor none false .background) rs := by
  intro setup jobs runner
  have hctx : RunContext.background ≠ .absent := by decide
  have hplan : setup.plan = .ok jobs := by rfl
  -- the runner answers every job it is not told to skip, each with its own job
  have hrunner : ∀ js : List Job, js.Nodup → ∃ rs files', runner .background {} js = .ok (rs, files') ∧
      (rs.map (·.job)).Nodup ∧ ∀ r ∈ rs, r.job ∈ js := by
    intro js hjs
    refine ⟨_, {}, rfl, ?_, fun r hr => ?_⟩
    · simp only [List.append_nil, List.filterMap_nil, List.map_map, Function.comp_def,
        Runner.attach, List.map_id']
      exact hjs.filter _
    · simp only [List.filterMap_nil, List.append_nil, List.mem_map, List.mem_filter,
        Runner.attach] at hr
      obtain ⟨j, ⟨hj, -⟩, rfl⟩ := hr
      exact hj
  exact ⟨hctx, hplan, hrunner, runSweep_covers hctx hplan hrunner⟩

end PredictorSweep
