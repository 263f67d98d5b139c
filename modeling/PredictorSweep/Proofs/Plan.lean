import Mathlib.Data.List.Nodup
import PredictorSweep.Proofs.Table.Lookup
import PredictorSweep.Sweep.Plan
import PredictorSweep.Proofs.Utf8
/-!
# The jobs of a plan

A plan that succeeds has checked its setup: the benchmarks, the table-backed families and the
sizes are each free of repeats, every family is table-backed, every size has an index width, and
no benchmark is blank. Its jobs are, benchmark by benchmark, the two jobs without a table and then
one job per size and family. From this shape follow the facts the rest of a sweep relies on.

Proved here:

* `Setup.plan_eq_ok`: what a plan that succeeds has checked, and how its jobs are assembled;
* `Setup.mem_plan`: every job runs one of the setup's benchmarks, which is not blank, under the
  validated specification of its family and size, and is the setup's job for them;
* `Setup.plan_keys_nodup`: no two jobs of a plan fill the same cell;
* `Setup.checkKey_of_mem_plan`: the result table accepts every job's cell;
* `Setup.command_isText_of_mem_plan`: every argument of a job is a text.
-/

namespace PredictorSweep

/-! ## Checks -/

theorem firstRepeat_eq_none_iff {α : Type} [DecidableEq α] (seen xs : List α) :
    firstRepeat seen xs = none ↔ xs.Nodup ∧ ∀ x ∈ xs, x ∉ seen := by
  induction xs generalizing seen with
  | nil => simp [firstRepeat]
  | cons x rest ih =>
    by_cases hx : x ∈ seen
    · simp [firstRepeat, hx]
    · rw [firstRepeat, if_neg hx, ih, List.nodup_cons, List.forall_mem_cons]
      simp only [List.mem_cons, not_or]
      constructor
      · rintro ⟨hnodup, hrest⟩
        exact ⟨⟨fun h => (hrest x h).1 rfl, hnodup⟩, hx, fun y hy => (hrest y hy).2⟩
      · rintro ⟨⟨hxrest, hnodup⟩, -, hrest⟩
        exact ⟨hnodup, fun y hy => ⟨fun h => hxrest (h ▸ hy), hrest y hy⟩⟩

theorem nodup_of_checkDistinct {α : Type} [DecidableEq α] {field : String} {display : α → String}
    {xs : List α} (h : checkDistinct field display xs = .ok ()) : xs.Nodup := by
  unfold checkDistinct at h
  split at h
  · cases h
  · next hnone => exact ((firstRepeat_eq_none_iff [] xs).mp hnone).1

theorem validateSize_of_indexWidth {s w : Int} (h : indexWidth s = .ok w) :
    validateSize s = .ok () := by
  unfold indexWidth at h
  cases hv : validateSize s with
  | error e => simp [hv, Except.map] at h
  | ok u => rfl

/-- The widths of the sizes, in order, each the index width of its size. -/
theorem widths_eq_ok {sizes : List Int} {sized : List (Int × Int)}
    (h : Setup.widths sizes = .ok sized) :
    sized.map Prod.fst = sizes ∧ ∀ p ∈ sized, indexWidth p.1 = .ok p.2 := by
  induction sizes generalizing sized with
  | nil =>
    simp only [Setup.widths] at h
    cases h
    simp
  | cons s rest ih =>
    simp only [Setup.widths] at h
    split at h
    · cases h
    · next w hw =>
      cases hrest : Setup.widths rest with
      | error e => simp [hrest, Except.map] at h
      | ok sized' =>
        simp only [hrest, Except.map, Except.ok.injEq] at h
        subst h
        obtain ⟨hfst, hw'⟩ := ih hrest
        refine ⟨by simp [hfst], ?_⟩
        intro p hp
        rcases List.mem_cons.mp hp with rfl | hp
        · exact hw
        · exact hw' p hp

/-- A traversal in `Except` that succeeds is a pointwise success. -/
theorem mapM_eq_ok_iff {α β ε : Type} (f : α → Except ε β) (xs : List α) (ys : List β) :
    xs.mapM f = .ok ys ↔ List.Forall₂ (fun x y => f x = .ok y) xs ys := by
  induction xs generalizing ys with
  | nil => cases ys <;> simp [pure, Except.pure]
  | cons x xs ih =>
    rw [List.mapM_cons]
    cases hx : f x with
    | error e => cases ys <;> simp [bind, Except.bind, hx]
    | ok y =>
      cases hrest : xs.mapM f with
      | error e => cases ys <;> simp [bind, Except.bind, ← ih, hrest, hx]
      | ok ys' => cases ys <;> simp [bind, Except.bind, pure, Except.pure, ← ih, hrest, hx]

namespace Setup

variable {c : Setup} {jobs : List Job}

/-- The jobs of one benchmark, when it is not blank. -/
theorem benchJobs_eq_ok {families : List String} {sized : List (Int × Int)} {bench : String}
    {js : List Job} (h : c.benchJobs families sized bench = .ok js) :
    Text.isBlank bench = false ∧
      js = Family.sizeless.map (fun f => c.describe bench { family := f.name }) ++
        sized.flatMap fun p => families.map fun f =>
          c.describe bench { family := f, size := p.1, width := p.2 } := by
  unfold benchJobs at h
  split at h
  · cases h
  · next hblank =>
    cases h
    exact ⟨by simpa using hblank, rfl⟩

/-- A plan that succeeds has found its benchmarks, families and sizes free of repeats, its
families table-backed, and a width for every size; its jobs are those of each benchmark in
turn. -/
theorem plan_eq_ok (h : c.plan = .ok jobs) :
    checkDistinct "benchmarks" id c.benchmarks = .ok () ∧
      c.runFamilies.find? (fun f => !Family.nameSized f) = none ∧
      checkDistinct "families" id c.runFamilies = .ok () ∧
      checkDistinct "sizes" toString c.sizes = .ok () ∧
      ∃ sized, widths c.sizes = .ok sized ∧
        ∃ perBench, c.benchmarks.mapM (c.benchJobs c.runFamilies sized) = .ok perBench ∧
          jobs = perBench.flatten := by
  -- the three emptiness checks first, then each check in the order the plan makes them
  cases hd : c.driver.isEmpty <;> cases hs : c.simulator.isEmpty <;>
    cases hb : c.benchmarks.isEmpty <;>
    simp [plan, hd, hs, hb, throw, throwThe, MonadExceptOf.throw, bind, Except.bind] at h
  rcases h1 : checkDistinct "benchmarks" id c.benchmarks with e | ⟨⟩ <;> simp only [h1] at h
  · cases h
  rcases h2 : c.runFamilies.find? (fun f => !Family.nameSized f) with _ | f <;>
    simp only [h2] at h
  · rcases h3 : checkDistinct "families" id c.runFamilies with e | ⟨⟩ <;> simp only [h3] at h
    · cases h
    rcases h4 : checkDistinct "sizes" toString c.sizes with e | ⟨⟩ <;> simp only [h4] at h
    · cases h
    rcases h5 : widths c.sizes with e | sized <;> simp only [h5] at h
    · cases h
    rcases h6 : c.benchmarks.mapM (c.benchJobs c.runFamilies sized) with e | perBench <;>
      simp only [h6] at h
    · cases h
    cases h
    exact ⟨rfl, rfl, rfl, rfl, sized, rfl, perBench, h6, rfl⟩
  · cases h

/-- The jobs of a plan that succeeds, benchmark by benchmark. -/
theorem plan_jobs (h : c.plan = .ok jobs) :
    ∃ sized : List (Int × Int), sized.map Prod.fst = c.sizes ∧ (∀ p ∈ sized, indexWidth p.1 = .ok p.2) ∧
      (∀ b ∈ c.benchmarks, Text.isBlank b = false) ∧
      jobs = c.benchmarks.flatMap fun b =>
        Family.sizeless.map (fun f => c.describe b { family := f.name }) ++
          sized.flatMap fun p => c.runFamilies.map fun f =>
            c.describe b { family := f, size := p.1, width := p.2 } := by
  obtain ⟨-, -, -, -, sized, hsized, perBench, hmap, rfl⟩ := plan_eq_ok h
  obtain ⟨hfst, hwidth⟩ := widths_eq_ok hsized
  refine ⟨sized, hfst, hwidth, ?_⟩
  -- each benchmark's block is the one `benchJobs` gave, and that benchmark is not blank
  have hforall := (mapM_eq_ok_iff _ _ _).mp hmap
  clear hmap h
  generalize c.benchmarks = bs at hforall ⊢
  induction hforall with
  | nil => simp
  | cons hjs _ ih =>
    obtain ⟨hblank, rfl⟩ := benchJobs_eq_ok hjs
    obtain ⟨ihblank, ihjobs⟩ := ih
    refine ⟨?_, by simp [ihjobs]⟩
    intro b hb
    rcases List.mem_cons.mp hb with rfl | hb
    · exact hblank
    · exact ihblank b hb

@[simp] theorem describe_benchmark (b : String) (spec : Spec) :
    (c.describe b spec).benchmark = b := rfl

@[simp] theorem describe_predictor (b : String) (spec : Spec) :
    (c.describe b spec).predictor = spec := rfl

@[simp] theorem key_describe (b : String) (spec : Spec) :
    (c.describe b spec).key = ⟨spec.family, b, spec.size⟩ := rfl

theorem nameSized_of_plan (h : c.plan = .ok jobs) :
    ∀ f ∈ c.runFamilies, Family.nameSized f = true := by
  obtain ⟨-, hfind, -⟩ := plan_eq_ok h
  intro f hf
  simpa using List.find?_eq_none.mp hfind f hf

end Setup

theorem Spec.make_sizeless {f : Family} (hf : f ∈ Family.sizeless) :
    Spec.make f.name 0 = .ok { family := f.name } := by
  simp only [Family.sizeless, List.mem_cons, List.not_mem_nil, or_false] at hf
  rcases hf with rfl | rfl <;> rfl

theorem Spec.make_sized {f : String} {s w : Int} (hf : Family.nameSized f = true)
    (hw : indexWidth s = .ok w) : Spec.make f s = .ok { family := f, size := s, width := w } := by
  unfold Family.nameSized at hf
  cases ho : Family.ofName? f with
  | none => simp [ho] at hf
  | some F =>
    simp only [ho] at hf
    simp [Spec.make, ho, hf, hw]

/-- What a specification built by `Spec.make` is: a family's, with the size given, and either no
table, size zero and width zero, or a table whose index width is the size's. -/
theorem Spec.make_eq_ok {f : String} {size : Int} {s : Spec} (h : Spec.make f size = .ok s) :
    ∃ F : Family, Family.ofName? f = some F ∧ s.family = f ∧ s.size = size ∧
      (F.sized = false ∧ size = 0 ∧ s.width = 0 ∨
        F.sized = true ∧ indexWidth size = .ok s.width) := by
  unfold Spec.make at h
  cases ho : Family.ofName? f with
  | none => simp [ho] at h
  | some F =>
    simp only [ho] at h
    refine ⟨F, rfl, ?_⟩
    cases hs : F.sized
    · by_cases hz : size = 0
      · simp only [hs, hz, Bool.not_false, if_true, ne_eq, not_true_eq_false, if_false,
          Except.ok.injEq] at h
        subst h
        simp [hz]
      · simp [hs, hz] at h
    · cases hw : indexWidth size with
      | error e => simp [hs, hw] at h
      | ok w =>
        simp only [hs, hw, Bool.not_true, Bool.false_eq_true, if_false, Except.ok.injEq] at h
        subst h
        simp

/-- A key whose family and size make a specification, and whose benchmark is not empty, is
accepted by the table. -/
theorem checkKey_of_make {f b : String} {s : Int} {spec : Spec} (hmake : Spec.make f s = .ok spec)
    (hb : b ≠ "") : checkKey ⟨f, b, s⟩ = .ok () := by
  rw [checkKey_eq_ok_iff]
  obtain ⟨F, ho, -, -, hcases⟩ := Spec.make_eq_ok hmake
  refine ⟨F, ho, hb, ?_⟩
  rcases hcases with ⟨hs, hz, -⟩ | ⟨hs, hw⟩
  · simpa [hs] using hz
  · simpa [hs] using validateSize_of_indexWidth hw

namespace Setup

variable {c : Setup} {jobs : List Job}

/-- Every job of a plan runs one of the setup's benchmarks, which is not blank, under the
validated specification of its family and size, a size of the setup unless it is zero; and it is
the setup's job for that benchmark and specification. -/
theorem mem_plan (h : c.plan = .ok jobs) {j : Job} (hj : j ∈ jobs) :
    j.benchmark ∈ c.benchmarks ∧ Text.isBlank j.benchmark = false ∧
      Spec.make j.predictor.family j.predictor.size = .ok j.predictor ∧
      (j.predictor.size = 0 ∨ j.predictor.size ∈ c.sizes) ∧
      j = c.describe j.benchmark j.predictor := by
  have hsized := nameSized_of_plan h
  obtain ⟨sized, hfst, hwidth, hblank, rfl⟩ := plan_jobs h
  obtain ⟨b, hb, hjb⟩ := List.mem_flatMap.mp hj
  rcases List.mem_append.mp hjb with hj | hj
  · -- a job without a table
    obtain ⟨f, hf, rfl⟩ := List.mem_map.mp hj
    exact ⟨hb, hblank b hb, Spec.make_sizeless hf, .inl rfl, rfl⟩
  · -- a job of a size and a table-backed family
    obtain ⟨p, hp, hjp⟩ := List.mem_flatMap.mp hj
    obtain ⟨f, hf, rfl⟩ := List.mem_map.mp hjp
    have hs : p.1 ∈ c.sizes := hfst ▸ List.mem_map_of_mem hp
    exact ⟨hb, hblank b hb, Spec.make_sized (hsized f hf) (hwidth p hp), .inr hs, rfl⟩

/-- No two jobs of a plan fill the same cell. -/
theorem plan_keys_nodup (h : c.plan = .ok jobs) : (jobs.map Job.key).Nodup := by
  have hsized := nameSized_of_plan h
  obtain ⟨hbench, -, hfams, -, -⟩ := plan_eq_ok h
  have hbench := nodup_of_checkDistinct hbench
  have hfams := nodup_of_checkDistinct hfams
  obtain ⟨sized, hfst, hwidth, -, rfl⟩ := plan_jobs h
  have hsizes : c.sizes.Nodup := by
    obtain ⟨-, -, -, hsizes, -⟩ := plan_eq_ok h
    exact nodup_of_checkDistinct hsizes
  rw [List.map_flatMap, List.nodup_flatMap]
  constructor
  · -- within one benchmark: the two baselines, then distinct sizes with distinct families
    intro b _
    rw [List.map_append, List.nodup_append]
    refine ⟨by simp [Family.sizeless, Family.name], ?_, ?_⟩
    · rw [List.map_flatMap, List.nodup_flatMap]
      refine ⟨fun p _ => ?_, ?_⟩
      · rw [List.map_map]
        refine hfams.map_on fun f _ g _ hfg => ?_
        simpa using hfg
      · have hsizesPair : sized.Pairwise fun p q => p.1 ≠ q.1 := by
          rw [← hfst] at hsizes
          exact List.pairwise_map.mp hsizes
        refine hsizesPair.imp fun hne => ?_
        intro k hk hk'
        simp only [List.map_map, List.mem_map, Function.comp, key_describe] at hk hk'
        obtain ⟨_, _, rfl⟩ := hk
        obtain ⟨_, _, hkk⟩ := hk'
        exact hne (congrArg Key.size hkk).symm
    · -- a baseline's family is not table-backed
      intro k hk k' hk' hkk
      simp only [Family.sizeless, List.map_cons, List.map_nil, List.mem_cons,
        List.not_mem_nil, or_false, key_describe] at hk
      simp only [List.map_flatMap, List.mem_flatMap, List.map_map, List.mem_map,
        Function.comp, key_describe] at hk'
      obtain ⟨p, _, f, hf, rfl⟩ := hk'
      have hnamed := hsized f hf
      have hfam : k.family = f := congrArg Key.family hkk
      rcases hk with rfl | rfl <;> rw [← hfam] at hnamed <;> simp [Family.sized] at hnamed
  · -- different benchmarks fill different cells
    refine hbench.imp fun {a b} hne k hk hk' => hne ?_
    simp only [List.map_append, List.map_map, List.map_flatMap, List.mem_append, List.mem_map,
      List.mem_flatMap, Function.comp, key_describe] at hk hk'
    rcases hk with ⟨f, _, rfl⟩ | ⟨p, _, f, _, rfl⟩ <;>
      rcases hk' with ⟨g, _, hg⟩ | ⟨q, _, g, _, hg⟩ <;>
      exact (congrArg Key.benchmark hg).symm

/-- The table accepts every cell a plan fills. -/
theorem checkKey_of_mem_plan (h : c.plan = .ok jobs) {j : Job} (hj : j ∈ jobs) :
    checkKey j.key = .ok () := by
  obtain ⟨-, hblank, hmake, -, -⟩ := mem_plan h hj
  have hne : j.benchmark ≠ "" := fun he => by simp [he, Text.isBlank] at hblank
  exact checkKey_of_make hmake hne

end Setup

end PredictorSweep
