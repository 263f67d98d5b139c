import PredictorSweep.Table.Aggregate
import PredictorSweep.Proofs.Table.Flat
/-!
# Group summaries by their definition

The table summarises its groups in one pass per group that keeps running sums and collects
diagnostics as it goes, and it finds the groups by inserting sizes into an ascending list. This
module says what those passes compute without the passes:

* a group is a family without a table that has a record or a missing mark, at size zero, or a
  table-backed family with a size that one of its records or marks has (`Table.HasGroup`); groups
  are listed by family position, then by size (`Table.GroupBefore`);
* a group's summary (`Table.summary`) takes the group's cells in key order, keeps those whose
  record carries every required metric, and sums each metric by a left fold from zero; the means
  divide by the number of such cells, the rates by the sum of updates;
* a group's diagnostics (`Table.skipReport`) are its missing cells, then its cells lacking a
  required metric, then a note when nothing contributed or the updates sum to zero.

Main statements:

* `Table.mem_groups`, `Table.groups_pairwise`: which groups there are, and their order;
* `Table.aggregateGroup_eq`, `Table.aggregate_eq`: the one-pass summary is the summary by
  definition;
* `Table.aggregate_eq_of_cells`, `Table.aggregate_eq_of_represents`: the summary, like the cell
  and missing listings, depends only on the table's records and reasons, not on the order of the
  updates that built it;
* `aggregate_eq_reference`: all of it, for every table that updates can build.
-/

namespace PredictorSweep

/-- Whether a record carries every required metric. -/
def Record.complete (r : Record) : Bool :=
  (r.missing (Metric.required.map Metric.name)).isEmpty

/-- The left fold of `+` from zero over one metric of a list of cells, absent values as zero. -/
def metricSum (cs : List Cell) (name : String) : Float :=
  (cs.map (·.record.getD name)).foldl (· + ·) 0

/-- The diagnostic for a cell left out of its group for lacking required metrics, which it
names. -/
def Cell.incompleteDiagnostic (c : Cell) : Diagnostic :=
  { stage := .aggregate, key := c.key,
    metric := String.intercalate "," (c.record.missing (Metric.required.map Metric.name)),
    reason := "cell skipped: required metrics missing" }

/-- The diagnostic for a missing cell of a group, with its reason. -/
def MissingCell.skipDiagnostic (m : MissingCell) : Diagnostic :=
  { stage := .aggregate, key := m.key, reason := "cell skipped: " ++ m.reason }

namespace Table

/-- Whether `(f, size)` is a group of the table. -/
def HasGroup (t : Table) (f : Family) (size : Int) : Prop :=
  if f.sized then
    ∃ k, ((t.find? k).isSome ∨ (t.reason? k).isSome) ∧ k.family = f.name ∧ k.size = size
  else size = 0 ∧ ∃ k, ((t.find? k).isSome ∨ (t.reason? k).isSome) ∧ k.family = f.name

/-- The listing order of groups: by family position, then by size. -/
def GroupBefore (g g' : Family × Int) : Prop :=
  g.1.index < g'.1.index ∨ g.1 = g'.1 ∧ g.2 < g'.2

/-- The cells of a group, in key order. -/
def groupCells (t : Table) (f : Family) (size : Int) : List Cell :=
  t.cellList.filter fun c => c.key.family == f.name && c.key.size == size

/-- The cells of a group that count towards its summary: those carrying every required
metric. -/
def contributing (t : Table) (f : Family) (size : Int) : List Cell :=
  (t.groupCells f size).filter (·.record.complete)

/-- The summary of a group by definition: the contributing benchmarks in key order, their
number, the left-fold sums of their metrics, the means when some cell contributed, and the rates
when moreover the updates do not sum to zero. -/
def summary (t : Table) (f : Family) (size : Int) : Aggregate :=
  let cs := t.contributing f size
  let n := cs.length
  let sum := metricSum cs
  let mean (name : String) : Option Float := if n = 0 then none else some (sum name / n.toFloat)
  let rate (name : String) : Option Float :=
    if n = 0 ∨ sum "updates" == 0 then none else some (sum name / sum "updates")
  { family := f.name, size, benchmarks := cs.map (·.key.benchmark), samples := n,
    meanIpc := mean "ipc", meanUpdates := mean "updates", meanAddrHits := mean "addr_hits",
    meanDirHits := mean "dir_hits", meanMisses := mean "misses",
    sumUpdates := sum "updates", sumAddrHits := sum "addr_hits", sumDirHits := sum "dir_hits",
    sumMisses := sum "misses", addrRate := rate "addr_hits", dirRate := rate "dir_hits" }

/-- The diagnostics of a group by definition: its missing cells in key order, its cells lacking a
required metric in key order, then why it has no means, or else why it has no rates. -/
def skipReport (t : Table) (f : Family) (size : Int) : List Diagnostic :=
  let groupKey : Key := { family := f.name, benchmark := "", size }
  let cs := t.contributing f size
  (t.missing.filter fun m => m.key.family == f.name && m.key.size == size).map
      MissingCell.skipDiagnostic ++
    ((t.groupCells f size).filter (!·.record.complete)).map Cell.incompleteDiagnostic ++
    if cs.length = 0 then
      [{ stage := .aggregate, key := groupKey,
         reason := "no contributing benchmarks; aggregate undefined" }]
    else if metricSum cs "updates" == 0 then
      [{ stage := .aggregate, key := groupKey, metric := "updates",
         reason := "sum of updates is zero; rates undefined" }]
    else []

/-- The sizes of a family's groups, as the table collects them. -/
def groupSizes (t : Table) (f : Family) : List Int :=
  let ofFamily := (t.cells.map (·.key) ++ t.marks.map (·.key)).filter (·.family == f.name)
  if f.sized then ofFamily.foldr (fun k acc => insertSize k.size acc) []
  else if ofFamily.isEmpty then [] else [0]

end Table

/-! ## Ascending size lists -/

theorem mem_insertSize {n x : Int} {l : List Int} : x ∈ insertSize n l ↔ x = n ∨ x ∈ l := by
  induction l with
  | nil => simp [insertSize]
  | cons m rest ih =>
    unfold insertSize
    split_ifs with hlt heq
    · exact List.mem_cons
    · subst heq
      simp
    · rw [List.mem_cons, List.mem_cons, ih]
      tauto

theorem pairwise_insertSize {n : Int} {l : List Int} (h : l.Pairwise (· < ·)) :
    (insertSize n l).Pairwise (· < ·) := by
  induction l with
  | nil => simp [insertSize]
  | cons m rest ih =>
    rw [List.pairwise_cons] at h
    unfold insertSize
    split_ifs with hlt heq
    · -- `n` goes in front, below `m` and so below the rest
      refine List.pairwise_cons.mpr ⟨fun x hx => ?_, List.pairwise_cons.mpr h⟩
      rcases List.mem_cons.mp hx with rfl | hx
      · exact hlt
      · exact lt_trans hlt (h.1 x hx)
    · exact List.pairwise_cons.mpr h
    · -- `n` goes past `m`, which stays below everything after it
      refine List.pairwise_cons.mpr ⟨fun x hx => ?_, ih h.2⟩
      rcases mem_insertSize.mp hx with rfl | hx
      · omega
      · exact h.1 x hx

theorem mem_foldr_insertSize {ks : List Key} {x : Int} :
    x ∈ ks.foldr (fun k acc => insertSize k.size acc) [] ↔ ∃ k ∈ ks, k.size = x := by
  induction ks with
  | nil => simp
  | cons k ks ih => simp [mem_insertSize, ih, eq_comm]

theorem pairwise_foldr_insertSize (ks : List Key) :
    (ks.foldr (fun k acc => insertSize k.size acc) []).Pairwise (· < ·) := by
  induction ks with
  | nil => exact List.Pairwise.nil
  | cons k ks ih => exact pairwise_insertSize ih

/-! ## Running sums -/

/-- Adding cells one by one appends their benchmarks and folds each metric into its sum. -/
theorem foldl_add_eq (cs : List Cell) (s : Sums) :
    cs.foldl (fun s c => s.add c.key.benchmark c.record) s =
      { benchmarks := s.benchmarks ++ cs.map (·.key.benchmark),
        ipc := (cs.map (·.record.getD "ipc")).foldl (· + ·) s.ipc,
        updates := (cs.map (·.record.getD "updates")).foldl (· + ·) s.updates,
        addrHits := (cs.map (·.record.getD "addr_hits")).foldl (· + ·) s.addrHits,
        dirHits := (cs.map (·.record.getD "dir_hits")).foldl (· + ·) s.dirHits,
        misses := (cs.map (·.record.getD "misses")).foldl (· + ·) s.misses } := by
  induction cs generalizing s with
  | nil => simp
  | cons c cs ih =>
    rw [List.foldl_cons, ih]
    simp [Sums.add]

theorem foldl_add_empty (cs : List Cell) :
    cs.foldl (fun (s : Sums) c => s.add c.key.benchmark c.record) {} =
      { benchmarks := cs.map (·.key.benchmark), ipc := metricSum cs "ipc",
        updates := metricSum cs "updates", addrHits := metricSum cs "addr_hits",
        dirHits := metricSum cs "dir_hits", misses := metricSum cs "misses" } := by
  rw [foldl_add_eq]
  rfl

/-- A pass that adds each complete cell to the sums and reports each other cell adds the complete
cells and reports the others, each in order. -/
theorem foldl_step_eq {step : Sums × List Diagnostic → Cell → Sums × List Diagnostic}
    {lack : Cell → Diagnostic}
    (hstep : ∀ acc c, step acc c =
      if c.record.complete then (acc.1.add c.key.benchmark c.record, acc.2)
      else (acc.1, acc.2 ++ [lack c]))
    (cs : List Cell) (acc : Sums × List Diagnostic) :
    cs.foldl step acc =
      ((cs.filter (·.record.complete)).foldl (fun s c => s.add c.key.benchmark c.record) acc.1,
        acc.2 ++ (cs.filter (!·.record.complete)).map lack) := by
  induction cs generalizing acc with
  | nil => simp
  | cons c cs ih =>
    rw [List.foldl_cons, ih, hstep]
    by_cases hc : c.record.complete <;> simp [hc]

/-- A pass over groups that appends each group's summary and diagnostics. -/
theorem foldl_collect_eq {γ : Type}
    {step : List Aggregate × List Diagnostic → γ → List Aggregate × List Diagnostic}
    {summarise : γ → Aggregate} {report : γ → List Diagnostic}
    (hstep : ∀ acc g, step acc g = (acc.1 ++ [summarise g], acc.2 ++ report g))
    (gs : List γ) (acc : List Aggregate × List Diagnostic) :
    gs.foldl step acc = (acc.1 ++ gs.map summarise, acc.2 ++ gs.flatMap report) := by
  induction gs generalizing acc with
  | nil => simp
  | cons g gs ih =>
    rw [List.foldl_cons, ih, hstep]
    simp

namespace Table

variable {t : Table}

/-! ## Groups -/

theorem GroupBefore.asymm {g g' : Family × Int} : GroupBefore g g' → ¬GroupBefore g' g := by
  rintro (h | ⟨h1, h2⟩) (h' | ⟨h1', h2'⟩)
  · omega
  · rw [h1'] at h
    omega
  · rw [h1] at h'
    omega
  · omega

theorem groups_eq (t : Table) :
    t.groups = Family.all.flatMap fun f => (t.groupSizes f).map (f, ·) := by
  simp only [groups, groupSizes]
  congr 1
  funext f
  split_ifs <;> simp

theorem mem_keys_iff {k : Key} :
    k ∈ t.cells.map (·.key) ++ t.marks.map (·.key) ↔ (t.find? k).isSome ∨ (t.reason? k).isSome := by
  rw [List.mem_append, find?_isSome_iff, reason?_isSome_iff]

theorem mem_groupSizes {f : Family} {size : Int} : size ∈ t.groupSizes f ↔ t.HasGroup f size := by
  have hfam : ∀ k, k ∈ (t.cells.map (·.key) ++ t.marks.map (·.key)).filter (·.family == f.name) ↔
      ((t.find? k).isSome ∨ (t.reason? k).isSome) ∧ k.family = f.name := by
    intro k
    rw [List.mem_filter, mem_keys_iff, beq_iff_eq]
  simp only [groupSizes, HasGroup]
  split
  · -- a table-backed family: every size of its keys
    rw [mem_foldr_insertSize]
    simp only [hfam, and_assoc]
  · -- a family without a table: size zero once it has a key
    split
    · rename_i hempty
      simp only [List.not_mem_nil, false_iff, not_and, not_exists]
      intro _ k hk hkf
      rw [List.isEmpty_iff] at hempty
      simpa [hempty] using (hfam k).mpr ⟨hk, hkf⟩
    · rename_i hne
      obtain ⟨k, hk⟩ := List.exists_mem_of_ne_nil _ (fun h => hne (List.isEmpty_iff.mpr h))
      rw [List.mem_singleton]
      exact ⟨fun h => ⟨h, k, (hfam k).mp hk⟩, fun h => h.1⟩

theorem groupSizes_pairwise (t : Table) (f : Family) : (t.groupSizes f).Pairwise (· < ·) := by
  simp only [groupSizes]
  split
  · exact pairwise_foldr_insertSize _
  · split <;> simp

/-- The groups are the pairs of `HasGroup`. -/
theorem mem_groups {f : Family} {size : Int} : (f, size) ∈ t.groups ↔ t.HasGroup f size := by
  rw [groups_eq, List.mem_flatMap]
  constructor
  · rintro ⟨f', -, hmem⟩
    obtain ⟨s, hs, hpair⟩ := List.mem_map.mp hmem
    obtain ⟨rfl, rfl⟩ := Prod.mk.inj hpair
    exact mem_groupSizes.mp hs
  · intro h
    exact ⟨f, Family.mem_all f, List.mem_map.mpr ⟨size, mem_groupSizes.mpr h, rfl⟩⟩

/-- The groups come by family position, then by ascending size. -/
theorem groups_pairwise (t : Table) : t.groups.Pairwise GroupBefore := by
  rw [groups_eq, List.pairwise_flatMap]
  refine ⟨fun f _ => ?_, Family.all_pairwise_index.imp fun {f g} hlt => ?_⟩
  · -- within a family, by size
    rw [List.pairwise_map]
    exact (groupSizes_pairwise t f).imp fun h => Or.inr ⟨rfl, h⟩
  · -- across families, by position
    intro x hx y hy
    obtain ⟨s, -, rfl⟩ := List.mem_map.mp hx
    obtain ⟨s', -, rfl⟩ := List.mem_map.mp hy
    exact Or.inl hlt

/-! ## One group -/

/-- One group's pass computes its summary and diagnostics by definition. -/
theorem aggregateGroup_eq (t : Table) (f : Family) (size : Int) :
    t.aggregateGroup f size = (t.summary f size, t.skipReport f size) := by
  simp only [aggregateGroup]
  -- the pass adds the complete cells and reports the others
  rw [@foldl_step_eq _ Cell.incompleteDiagnostic (fun acc c => by
    simp only [Record.complete, Cell.incompleteDiagnostic]
    split <;> simp_all)]
  rw [show t.cellList.filter (fun c => c.key.family == f.name && c.key.size == size) =
      t.groupCells f size from rfl,
    show (t.groupCells f size).filter (·.record.complete) = t.contributing f size from rfl,
    foldl_add_empty]
  simp only [summary, skipReport, List.length_map]
  -- the three endings: nothing contributed, the updates sum to zero, or rates are defined
  by_cases h0 : (t.contributing f size).length = 0
  · simp only [h0, if_true, true_or]
    rfl
  · by_cases hu : (metricSum (t.contributing f size) "updates" == 0) = true
    · simp only [h0, hu, if_true, if_false, or_true]
      rfl
    · simp only [h0, hu, Bool.false_eq_true, or_self, if_false, List.append_nil]
      rfl

/-- The table's summary lists each group's summary, and each group's diagnostics in turn. -/
theorem aggregate_eq (t : Table) :
    t.aggregate = (t.groups.map fun g => t.summary g.1 g.2,
      t.groups.flatMap fun g => t.skipReport g.1 g.2) := by
  unfold aggregate
  rw [@foldl_collect_eq _ _ (fun g => t.summary g.1 g.2) (fun g => t.skipReport g.1 g.2)
    (fun ⟨as, ds⟩ ⟨f, size⟩ => by simp only [aggregateGroup_eq])]
  simp

/-- Every diagnostic of a group is of the summary stage. -/
theorem stage_of_mem_skipReport {f : Family} {size : Int} {d : Diagnostic}
    (h : d ∈ t.skipReport f size) : d.stage = .aggregate := by
  simp only [skipReport, List.mem_append, List.mem_map] at h
  rcases h with (⟨m, -, rfl⟩ | ⟨c, -, rfl⟩) | h
  · rfl
  · rfl
  · split_ifs at h <;> simp_all

theorem stage_of_mem_aggregate {d : Diagnostic} (h : d ∈ t.aggregate.2) : d.stage = .aggregate := by
  rw [aggregate_eq] at h
  obtain ⟨g, -, hd⟩ := List.mem_flatMap.mp h
  exact stage_of_mem_skipReport hd

/-! ## Benchmarks -/

theorem mem_contributing {f : Family} {size : Int} {c : Cell} :
    c ∈ t.contributing f size ↔ t.find? c.key = some c.record ∧ c.key.family = f.name ∧
      c.key.size = size ∧ c.record.complete = true := by
  simp only [contributing, groupCells, cellList_eq, List.mem_filter, mem_sortByKey,
    mem_cells_iff, Bool.and_eq_true, beq_iff_eq, and_assoc]

/-- A group's benchmarks are those whose cell in the group holds a complete record. -/
theorem mem_summary_benchmarks {f : Family} {size : Int} {b : String} :
    b ∈ (t.summary f size).benchmarks ↔
      ∃ r, t.find? { family := f.name, benchmark := b, size } = some r ∧ r.complete = true := by
  simp only [summary, List.mem_map]
  constructor
  · rintro ⟨c, hc, rfl⟩
    obtain ⟨hfind, hfamily, hsize, hcomplete⟩ := mem_contributing.mp hc
    refine ⟨c.record, ?_, hcomplete⟩
    rw [← hfamily, ← hsize]
    exact hfind
  · rintro ⟨r, hfind, hcomplete⟩
    exact ⟨⟨{ family := f.name, benchmark := b, size }, r⟩,
      mem_contributing.mpr ⟨hfind, rfl, rfl, hcomplete⟩, rfl⟩

/-- A group's benchmarks are in strictly ascending order. -/
theorem summary_benchmarks_pairwise (f : Family) (size : Int) :
    (t.summary f size).benchmarks.Pairwise (· < ·) := by
  have hsorted := t.cellList_pairwise
  have hsub : (t.contributing f size).Sublist t.cellList :=
    List.filter_sublist.trans List.filter_sublist
  simp only [summary, List.pairwise_map]
  refine (hsorted.sublist hsub).imp_of_mem fun {c c'} hc hc' hlt => ?_
  -- both cells are in the group, so only their benchmarks tell them apart
  obtain ⟨-, hf, hs, -⟩ := mem_contributing.mp hc
  obtain ⟨-, hf', hs', -⟩ := mem_contributing.mp hc'
  exact Key.benchmark_lt_of_lt (hf.trans hf'.symm) (hs.trans hs'.symm) hlt

/-! ## Independence of the update order -/

variable {t' : Table} {a a' : FlatTable}

/-- Two tables holding the same records list the same cells. -/
theorem cellList_eq_of_find? (hfind : ∀ k, t.find? k = t'.find? k) : t.cellList = t'.cellList := by
  -- each listing is sorted and determined by its members
  refine eq_of_pairwise_of_mem_iff (fun c c' hlt => by simp [Key.lt_asymm hlt])
    t.cellList_pairwise t'.cellList_pairwise fun c => ?_
  rw [cellList_eq, cellList_eq, mem_sortByKey, mem_sortByKey, mem_cells_iff, mem_cells_iff, hfind]

/-- Two well-formed tables holding the same reasons list the same missing cells. -/
theorem missing_eq_of_reason? (hwf : t.WellFormed) (hwf' : t'.WellFormed)
    (hreason : ∀ k, t.reason? k = t'.reason? k) : t.missing = t'.missing := by
  refine eq_of_pairwise_of_mem_iff (fun m m' hlt => by simp [Key.lt_asymm hlt])
    (missing_pairwise hwf) (missing_pairwise hwf') fun m => ?_
  rw [missing, missing, mem_sortByKey, mem_sortByKey, mem_marks_iff, mem_marks_iff,
    hreason]

/-- Two tables holding records under the same keys and marking the same keys have the same
groups. -/
theorem groups_eq_of_marked (hfind : ∀ k, (t.find? k).isSome = (t'.find? k).isSome)
    (hmarked : ∀ k, (t.reason? k).isSome = (t'.reason? k).isSome) : t.groups = t'.groups := by
  refine eq_of_pairwise_of_mem_iff (fun _ _ => GroupBefore.asymm) (groups_pairwise t)
    (groups_pairwise t') fun ⟨f, size⟩ => ?_
  rw [mem_groups, mem_groups]
  simp only [HasGroup, hfind, hmarked]

/-- Two tables holding the same records summarise every group alike. -/
theorem summary_eq_of_find? (hfind : ∀ k, t.find? k = t'.find? k) : t.summary = t'.summary := by
  have hcellList := cellList_eq_of_find? hfind
  funext f size
  rw [summary, summary, contributing, contributing, groupCells, groupCells, hcellList]

/-- Two well-formed tables holding the same records and reasons have the same summary, whatever
updates built them. -/
theorem aggregate_eq_of_cells (hwf : t.WellFormed) (hwf' : t'.WellFormed)
    (hfind : ∀ k, t.find? k = t'.find? k) (hreason : ∀ k, t.reason? k = t'.reason? k) :
    t.aggregate = t'.aggregate := by
  have hgroups : t.groups = t'.groups :=
    groups_eq_of_marked (fun k => by rw [hfind]) fun k => by rw [hreason]
  have hcellList := cellList_eq_of_find? hfind
  have hmissing := missing_eq_of_reason? hwf hwf' hreason
  -- the diagnostics read the table through its group cells and missing cells only
  have hgroupCells : t.groupCells = t'.groupCells := by
    funext f size
    rw [groupCells, groupCells, hcellList]
  have hcontributing : t.contributing = t'.contributing := by
    funext f size
    rw [contributing, contributing, hgroupCells]
  have hreport : t.skipReport = t'.skipReport := by
    funext f size
    rw [skipReport, skipReport, hcontributing, hgroupCells, hmissing]
  rw [aggregate_eq, aggregate_eq, hgroups, summary_eq_of_find? hfind, hreport]

/-- Two tables holding the same records and marking the same cells missing, for whatever
reasons, have the same summaries. -/
theorem aggregate_fst_eq_of_marked (hfind : ∀ k, t.find? k = t'.find? k)
    (hmarked : ∀ k, (t.reason? k).isSome = (t'.reason? k).isSome) :
    t.aggregate.1 = t'.aggregate.1 := by
  rw [aggregate_eq, aggregate_eq, groups_eq_of_marked (fun k => by rw [hfind]) hmarked,
    summary_eq_of_find? hfind]

/-- Two well-formed tables marking the same cells missing list the same missing keys. -/
theorem missing_keys_eq_of_marked (hwf : t.WellFormed) (hwf' : t'.WellFormed)
    (hmarked : ∀ k, (t.reason? k).isSome = (t'.reason? k).isSome) :
    t.missing.map (·.key) = t'.missing.map (·.key) := by
  have hmem : ∀ (u : Table) (k : Key), k ∈ u.missing.map (·.key) ↔ (u.reason? k).isSome := by
    intro u k
    rw [reason?_isSome_iff, missing]
    exact ((sortByKey_perm _ _).map _).mem_iff
  refine eq_of_pairwise_of_mem_iff (r := fun k k' => k.lt k' = true)
    (fun k k' hlt => by simp [Key.lt_asymm hlt]) (List.pairwise_map.mpr (missing_pairwise hwf))
    (List.pairwise_map.mpr (missing_pairwise hwf')) fun k => ?_
  rw [hmem, hmem, hmarked]

/-- Two tables standing for flat tables with the same records and reasons have the same
summary, whatever updates built them. -/
theorem aggregate_eq_of_represents (h : Represents t a) (h' : Represents t' a')
    (hcells : a.cells = a'.cells) (hmarks : a.marks = a'.marks) :
    t.aggregate = t'.aggregate :=
  aggregate_eq_of_cells h.wellFormed h'.wellFormed
    (fun k => by rw [h.find?, h'.find?, hcells]) (fun k => by rw [h.reason?, h'.reason?, hmarks])

end Table

open Table in
/-- The summary of any table built by updates from the empty table: its groups are the
`HasGroup` pairs, listed by family position and then size; it summarises each group by
definition, with diagnostics group by group; each group's benchmarks are, in ascending order,
those whose cell holds a complete record; and any other updates that leave the same records and
reasons give the same summary. -/
theorem aggregate_eq_reference (ops : List TableOp) :
    let t := (Table.replay {} ops).1
    (∀ f size, (f, size) ∈ t.groups ↔ t.HasGroup f size) ∧
    t.groups.Pairwise GroupBefore ∧
    t.aggregate = (t.groups.map fun g => t.summary g.1 g.2,
      t.groups.flatMap fun g => t.skipReport g.1 g.2) ∧
    (∀ f size, (t.summary f size).benchmarks.Pairwise (· < ·) ∧
      ∀ b, b ∈ (t.summary f size).benchmarks ↔
        ∃ r, t.find? { family := f.name, benchmark := b, size } = some r ∧ r.complete = true) ∧
    ∀ ops', (FlatTable.replay .empty ops').1.cells = (FlatTable.replay .empty ops).1.cells →
      (FlatTable.replay .empty ops').1.marks = (FlatTable.replay .empty ops).1.marks →
      (Table.replay {} ops').1.aggregate = t.aggregate := by
  intro t
  have h := (represents_replay ops).1
  refine ⟨fun f size => mem_groups, groups_pairwise t, aggregate_eq t,
    fun f size => ⟨summary_benchmarks_pairwise f size,
      fun b => mem_summary_benchmarks⟩, fun ops' hcells hmarks => ?_⟩
  exact aggregate_eq_of_represents (represents_replay ops').1 h hcells hmarks

end PredictorSweep
