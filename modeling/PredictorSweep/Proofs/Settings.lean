import PredictorSweep.Proofs.Plan
import PredictorSweep.Settings.Validate
/-!
# Checked settings and the plan

The settings file is checked rule by rule before a sweep is planned, and the plan checks its
setup again. The two checks agree on every rule but one: a benchmark made only of white space is
present for the settings, which only ask for a name that is not empty, while the plan refuses it
as blank. So settings that pass every rule give a plan exactly when no benchmark is blank, and
the plan then fails only for the blank benchmark.

Main statements:

* `Settings.setup_checked`: settings without problems give a setup whose tools are named, whose
  benchmarks, families and sizes are distinct, whose families are table-backed and whose sizes are
  valid;
* `Setup.plan_eq_of_checked`: such a setup is planned benchmark by benchmark;
* `Settings.plan_of_no_problems`: the plan of settings without problems fails exactly for a blank
  benchmark, and then with the blank-benchmark refusal.
-/

namespace PredictorSweep

-- what a value and a tag are, constructor by constructor
attribute [simp] FieldValue.isZero.eq_1 FieldValue.isZero.eq_2 FieldValue.isZero.eq_3
  FieldValue.isZero.eq_4 FieldValue.isZero.eq_5 FieldValue.atLeast.eq_1 FieldValue.atLeast.eq_2
  FieldValue.atLeast.eq_3 FieldValue.atLeast.eq_4 FieldValue.atLeast.eq_5 FieldValue.above.eq_1
  FieldValue.above.eq_2 FieldValue.above.eq_3 FieldValue.above.eq_4 FieldValue.above.eq_5
  FieldValue.repeats.eq_1 FieldValue.repeats.eq_2 FieldValue.excludes.eq_1 Tag.holds.eq_1
  Tag.holds.eq_2 Tag.holds.eq_3 Tag.holds.eq_4 Tag.holds.eq_5 Tag.holds.eq_6 Tag.holds.eq_7
  Tag.holds.eq_8 Tag.holds.eq_9 Tag.holds.eq_10 Tag.holds.eq_11

theorem hasRepeat_eq_false_iff {α : Type} [BEq α] [LawfulBEq α] {xs : List α} :
    hasRepeat xs = false ↔ xs.Nodup := by
  induction xs with
  | nil => simp [hasRepeat]
  | cons x rest ih => simp [hasRepeat, ih]

theorem exists_mem_zipIdx {α : Type} {xs : List α} {x : α} (hx : x ∈ xs) :
    ∃ i, (x, i) ∈ xs.zipIdx := by
  rw [← List.zipIdx_map_fst 0 xs] at hx
  obtain ⟨⟨y, i⟩, hmem, rfl⟩ := List.mem_map.mp hx
  exact ⟨i, hmem⟩

/-! ## The program's checker keeps the documented rules -/

section Checker

variable {rules : String → FieldValue → Bool} {others : String → Option FieldValue}

/-- Past `omitempty` and `dive`, a field's tags ask each rule in turn. -/
theorem passes_cons {t : Tag} (ho : t ≠ .omitEmpty) (hd : t ≠ .dive) (ts : List Tag)
    (v : FieldValue) :
    passes rules others (t :: ts) v = (t.holds rules others v && passes rules others ts v) := by
  cases t <;> first | exact absurd rfl ho | exact absurd rfl hd | rfl

/-- The program's checker reports nothing for a field exactly when the field's tags hold. -/
theorem report_eq_nil_iff (path : String) (ts : List Tag) (v : FieldValue) :
    report rules others path ts v = [] ↔ passes rules others ts v = true := by
  fun_induction report rules others path ts v with
  | case1 => simp [passes]
  | case2 path ts v hz => simp [passes, hz]
  | case3 path ts v hz ih => simp [passes, hz, ih]
  | case4 path ts v ih =>
    -- each item is checked under its position
    simp only [passes, List.flatMap_eq_nil_iff, List.all_eq_true, Prod.forall]
    constructor
    · intro h x hx
      obtain ⟨i, hi⟩ := exists_mem_zipIdx hx
      exact (ih x i).mp (h x i hi)
    · intro h x i hxi
      exact (ih x i).mpr (h x (List.fst_mem_of_mem_zipIdx hxi))
  | case5 path t ts v ho hd hholds ih => rw [passes_cons ho hd, hholds, Bool.true_and, ih]
  | case6 path t ts v ho hd hholds => simp [passes_cons ho hd, hholds]

end Checker

/-- The program's checker keeps the rules the checker documents. -/
theorem Validator.standard_lawful : Validator.standard.Lawful := by
  intro rules fields
  simp only [Validator.standard, List.flatMap_eq_nil_iff]
  exact forall₂_congr fun f _ => report_eq_nil_iff _ _ _

/-! ## What the settings check -/

/-- The rules of a setup that its plan checks before listing jobs, all kept: the tools are named,
the benchmarks are present and distinct, the families are distinct and table-backed, and the
sizes are distinct and valid. Blank benchmarks are not ruled out. -/
structure Setup.Checked (c : Setup) : Prop where
  driver : c.driver.isEmpty = false
  simulator : c.simulator.isEmpty = false
  benchmarks : c.benchmarks.isEmpty = false
  benchmarks_nodup : c.benchmarks.Nodup
  families_nodup : c.families.Nodup
  families_sized : ∀ f ∈ c.families, Family.nameSized f = true
  sizes_nodup : c.sizes.Nodup
  sizes_valid : ∀ x ∈ c.sizes, validateSize x = .ok ()

namespace Settings

/-- Settings for which a checker that keeps its rules reports nothing keep every field's tags. -/
theorem passes_of_problemsBy {v : Validator} (hv : v.Lawful) {s : Settings}
    (h : s.problemsBy v = []) :
    ∀ f ∈ s.fields, passes customRules (f.others s.fields) f.tags f.value = true :=
  (hv customRules s.fields).mp (List.map_eq_nil_iff.mp h)

/-- A required text whose tags hold is not empty. -/
theorem isEmpty_of_passes_required {others : String → Option FieldValue} {t : String}
    (h : passes customRules others [.required] (.text t) = true) : t.isEmpty = false := by
  simpa [passes] using h

/-- The benchmarks' tags hold of benchmarks that are given, at least one, without repeats. -/
theorem benchmarks_of_passes {others : String → Option FieldValue} {bs : Option (List String)}
    (h : passes customRules others
      [.required, .min 1, .unique, .dive, .required, .excludesAll "/"] (.texts bs) = true) :
    ∃ ys, bs = some ys ∧ ys ≠ [] ∧ ys.Nodup := by
  cases bs with
  | none => simp [passes] at h
  | some ys =>
    simp only [passes, Tag.holds, FieldValue.isZero, FieldValue.atLeast, FieldValue.repeats,
      Option.isNone_some, Option.getD_some, Bool.not_false, Bool.true_and, Bool.and_eq_true,
      decide_eq_true_eq, Bool.not_eq_true'] at h
    obtain ⟨hlen, hrep, -⟩ := h
    exact ⟨ys, rfl, List.ne_nil_of_length_pos hlen, hasRepeat_eq_false_iff.mp hrep⟩

/-- The sizes' tags hold of sizes that are given, without repeats, each a valid table size. -/
theorem sizes_of_passes {others : String → Option FieldValue} {zs : Option (List Int)}
    (h : passes customRules others
      [.required, .min 1, .unique, .dive, .custom "tablesize"] (.ints zs) = true) :
    ∃ ys, zs = some ys ∧ ys.Nodup ∧ ∀ x ∈ ys, validateSize x = .ok () := by
  cases zs with
  | none => simp [passes] at h
  | some ys =>
    simp only [passes, Tag.holds, FieldValue.isZero, FieldValue.atLeast, FieldValue.repeats,
      FieldValue.items, Option.isNone_some, Option.getD_some, Bool.not_false, Bool.true_and,
      Bool.and_true, Bool.and_eq_true, decide_eq_true_eq, Bool.not_eq_true', List.all_map,
      List.all_eq_true, Function.comp_apply, customRules] at h
    obtain ⟨-, hrep, hvalid⟩ := h
    refine ⟨ys, rfl, hasRepeat_eq_false_iff.mp hrep, fun x hx => ?_⟩
    have hok := hvalid x hx
    -- a size the rule accepts is one `validateSize` passes
    cases hv : validateSize x with
    | ok u => rfl
    | error e => simp [hv, Except.isOk, Except.toBool] at hok

/-- The families' tags hold of families without repeats, each table-backed. -/
theorem families_of_passes {others : String → Option FieldValue} {fs : Option (List String)}
    (h : passes customRules others [.unique, .dive, .custom "sizedfamily"] (.texts fs) = true) :
    (fs.getD []).Nodup ∧ ∀ f ∈ fs.getD [], Family.nameSized f = true := by
  cases fs with
  | none => simp
  | some ys =>
    simp only [passes, Tag.holds, FieldValue.repeats, FieldValue.items, Option.getD_some,
      Bool.and_true, Bool.and_eq_true, Bool.not_eq_true', List.all_map, List.all_eq_true,
      Function.comp_apply, customRules] at h
    exact ⟨hasRepeat_eq_false_iff.mp h.1, h.2⟩

/-- Settings for which a checker that keeps its rules reports nothing give a setup that keeps
every rule its plan checks first. -/
theorem setup_checked_of {v : Validator} (hv : v.Lawful) {s : Settings}
    (h : s.problemsBy v = []) : s.setup.Checked := by
  have hall := passes_of_problemsBy hv h
  -- the fields the plan checks again
  have hdriver := hall ⟨"Simulator", "Driver", [.required], .text s.simulator.driver⟩
    (by simp [fields])
  have hbinary := hall ⟨"Simulator", "Binary", [.required], .text s.simulator.binary⟩
    (by simp [fields])
  have hbench := hall ⟨"Sweep", "Benchmarks",
    [.required, .min 1, .unique, .dive, .required, .excludesAll "/"], .texts s.sweep.benchmarks⟩
    (by simp [fields])
  have hsizes := hall ⟨"Sweep", "Sizes", [.required, .min 1, .unique, .dive, .custom "tablesize"],
    .ints s.sweep.sizes⟩ (by simp [fields])
  have hfams := hall ⟨"Sweep", "Families", [.unique, .dive, .custom "sizedfamily"],
    .texts s.sweep.families⟩ (by simp [fields])
  obtain ⟨bs, hbs, hbne, hbnodup⟩ := benchmarks_of_passes hbench
  obtain ⟨zs, hzs, hznodup, hzvalid⟩ := sizes_of_passes hsizes
  obtain ⟨hfnodup, hfsized⟩ := families_of_passes hfams
  refine ⟨isEmpty_of_passes_required hdriver, isEmpty_of_passes_required hbinary, ?_, ?_,
    hfnodup, hfsized, ?_, ?_⟩
  · simpa [setup, hbs] using hbne
  · simpa [setup, hbs] using hbnodup
  · simpa [setup, hzs] using hznodup
  · simpa [setup, hzs] using hzvalid

/-- Settings without problems give a setup that keeps every rule its plan checks first. -/
theorem setup_checked {s : Settings} (h : s.problems = []) : s.setup.Checked :=
  setup_checked_of Validator.standard_lawful h

end Settings

/-! ## Planning a checked setup -/

namespace Setup

variable {c : Setup}

theorem checkDistinct_of_nodup {α : Type} [DecidableEq α] {field : String} {display : α → String}
    {xs : List α} (h : xs.Nodup) : checkDistinct field display xs = .ok () := by
  have hnone : firstRepeat [] xs = none := (firstRepeat_eq_none_iff [] xs).mpr ⟨h, by simp⟩
  simp [checkDistinct, hnone]

theorem widths_of_valid {sizes : List Int} (h : ∀ x ∈ sizes, validateSize x = .ok ()) :
    ∃ sized, widths sizes = .ok sized := by
  induction sizes with
  | nil => exact ⟨[], rfl⟩
  | cons x rest ih =>
    obtain ⟨sized, hrest⟩ := ih fun y hy => h y (List.mem_cons_of_mem x hy)
    have hx : indexWidth x = .ok ((Nat.log2 x.toNat : Int) - 3) := by
      rw [indexWidth_eq, h x List.mem_cons_self]
      rfl
    exact ⟨(x, (Nat.log2 x.toNat : Int) - 3) :: sized, by simp [widths, hx, hrest, Except.map]⟩

/-- The families a checked setup runs are distinct and table-backed. -/
theorem runFamilies_checked (hc : c.Checked) :
    c.runFamilies.Nodup ∧ ∀ f ∈ c.runFamilies, Family.nameSized f = true := by
  unfold runFamilies
  split
  · exact ⟨by decide, by decide⟩
  · exact ⟨hc.families_nodup, hc.families_sized⟩

/-- A checked setup is planned benchmark by benchmark. -/
theorem plan_eq_of_checked (hc : c.Checked) :
    ∃ sized, c.plan = Except.map List.flatten (c.benchmarks.mapM (c.benchJobs c.runFamilies sized)) := by
  obtain ⟨hnodup, hsized⟩ := runFamilies_checked hc
  have hfind : c.runFamilies.find? (fun f => !Family.nameSized f) = none := by
    rw [List.find?_eq_none]
    intro f hf
    simp [hsized f hf]
  obtain ⟨sized, hwidths⟩ := widths_of_valid hc.sizes_valid
  refine ⟨sized, ?_⟩
  simp [plan, hc.driver, hc.simulator, hc.benchmarks, checkDistinct_of_nodup hc.benchmarks_nodup,
    hfind, checkDistinct_of_nodup hnodup, checkDistinct_of_nodup hc.sizes_nodup, hwidths, bind,
    Except.bind, pure, Except.pure]
  cases c.benchmarks.mapM (c.benchJobs c.runFamilies sized) <;> rfl

variable {families : List String} {sized : List (Int × Int)}

theorem benchJobs_eq_error {b : String} {e : SetupError}
    (h : c.benchJobs families sized b = .error e) : e = ⟨"benchmarks", "\"\"", .emptySweep⟩ := by
  unfold benchJobs at h
  split at h
  · cases h
    rfl
  · cases h

/-- Listing the jobs of benchmarks fails only at a blank one, with the blank-benchmark refusal. -/
theorem mapM_benchJobs_eq_error {bs : List String} {e : SetupError}
    (h : bs.mapM (c.benchJobs families sized) = .error e) :
    e = ⟨"benchmarks", "\"\"", .emptySweep⟩ := by
  induction bs with
  | nil => cases h
  | cons b rest ih =>
    -- the first benchmark refused, or the rest
    cases hb : c.benchJobs families sized b with
    | error e' =>
      simp only [List.mapM_cons, hb, bind, Except.bind] at h
      cases h
      exact benchJobs_eq_error hb
    | ok js =>
      cases hrest : rest.mapM (c.benchJobs families sized) with
      | error e' =>
        simp only [List.mapM_cons, hb, hrest, bind, Except.bind] at h
        cases h
        exact ih hrest
      | ok jss => simp [List.mapM_cons, hb, hrest, bind, Except.bind, pure, Except.pure] at h

/-- Listing the jobs of benchmarks none of which is blank succeeds. -/
theorem mapM_benchJobs_eq_ok {bs : List String} (h : ∀ b ∈ bs, Text.isBlank b = false) :
    ∃ perBench, bs.mapM (c.benchJobs families sized) = .ok perBench := by
  induction bs with
  | nil => exact ⟨[], rfl⟩
  | cons b rest ih =>
    obtain ⟨perBench, hrest⟩ := ih fun b' hb' => h b' (List.mem_cons_of_mem b hb')
    have hb : Text.isBlank b = false := h b List.mem_cons_self
    cases hblk : c.benchJobs families sized b with
    | error e => simp [benchJobs, hb] at hblk
    | ok blk =>
      exact ⟨blk :: perBench, by simp [List.mapM_cons, hblk, hrest, bind, Except.bind, pure,
        Except.pure]⟩

end Setup

/-- Settings that pass every rule of the settings file give a plan exactly when none of their
benchmarks is blank; otherwise the plan refuses the blank benchmark, and for no other reason. -/
theorem Settings.plan_of_no_problems {s : Settings} (h : s.problems = []) :
    ((∃ jobs, s.setup.plan = .ok jobs) ↔ ∀ b ∈ s.setup.benchmarks, Text.isBlank b = false) ∧
      ∀ e, s.setup.plan = .error e → e = ⟨"benchmarks", "\"\"", .emptySweep⟩ := by
  obtain ⟨sized, hplan⟩ := Setup.plan_eq_of_checked (setup_checked h)
  refine ⟨⟨fun ⟨jobs, hjobs⟩ => ?_, fun hblank => ?_⟩, fun e he => ?_⟩
  · -- a plan that succeeds has found no blank benchmark
    obtain ⟨-, -, -, hblank, -⟩ := Setup.plan_jobs hjobs
    exact hblank
  · obtain ⟨perBench, hok⟩ :=
      @Setup.mapM_benchJobs_eq_ok s.setup s.setup.runFamilies sized _ hblank
    exact ⟨perBench.flatten, by rw [hplan, hok]; rfl⟩
  · rw [hplan] at he
    cases hmap : s.setup.benchmarks.mapM (s.setup.benchJobs s.setup.runFamilies sized) with
    | error e' =>
      rw [hmap] at he
      cases he
      exact Setup.mapM_benchJobs_eq_error hmap
    | ok perBench =>
      rw [hmap] at he
      cases he

/-- The default settings pass every rule, and plan as the theorem says. -/
theorem Settings.defaults_plan :
    Settings.defaults.problems = [] ∧
      ((∃ jobs, Settings.defaults.setup.plan = .ok jobs) ↔
        ∀ b ∈ Settings.defaults.setup.benchmarks, Text.isBlank b = false) ∧
      ∀ e, Settings.defaults.setup.plan = .error e → e = ⟨"benchmarks", "\"\"", .emptySweep⟩ :=
  have h : Settings.defaults.problems = [] := by decide
  ⟨h, Settings.plan_of_no_problems h⟩

/-- A benchmark of two spaces passes every rule of the settings file, and the plan refuses it. -/
theorem Settings.blank_benchmark_refused :
    let s : Settings :=
      { Settings.defaults with sweep := { Settings.defaults.sweep with benchmarks := some ["  "] } }
    s.problems = [] ∧ s.setup.plan = .error ⟨"benchmarks", "\"\"", .emptySweep⟩ := by
  intro s
  exact ⟨by decide, by decide⟩

end PredictorSweep
