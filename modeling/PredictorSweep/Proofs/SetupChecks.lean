import Mathlib.Data.List.DropRight
import PredictorSweep.Proofs.KeyOrder
import PredictorSweep.Proofs.Settings
/-!
# The checks of a setup, in order

A setup is refused, before any job is listed, when it fails one of nine checks: the driver and
the simulator are named, there is a benchmark, no benchmark repeats, every family run is
table-backed, no family repeats, no size repeats, every size has an index width, and no
benchmark is blank. The checks are made in that order, and the plan names the first one failed,
with the first value that fails it; a setup that passes them all is planned as the full cross
product of its benchmarks, sizes and families.

The checks are stated here without the plan's machinery: a repeat is the first value an earlier
one equals, a rejected size is the first one without an index width, a blank benchmark is one
that trims to nothing. Each is then read off the step of the plan that makes it.

Main statements:

* `SetupCheck.Fails`, `SetupCheck.Passes`: the checks, in `SetupCheck.order`;
* `Setup.plan_eq_checks`: the plan is the first failed check's refusal, or the cross product;
* `Setup.plan_checks_in_order`: the plan against the checks as stated.
-/

namespace PredictorSweep

/-! ## The checks as stated -/

/-- `x` is the first value of `xs` that an earlier value repeats: the values before it are
distinct, and one of them is `x`. -/
def FirstRepeat {α : Type} (xs : List α) (x : α) : Prop :=
  ∃ pre post, xs = pre ++ x :: post ∧ pre.Nodup ∧ x ∈ pre

/-- The checks made on a setup before its jobs are listed. -/
inductive SetupCheck where
  /-- The driver is named. -/
  | driver
  /-- The simulator is named. -/
  | simulator
  /-- There is a benchmark. -/
  | benchmarksPresent
  /-- No benchmark repeats. -/
  | benchmarksDistinct
  /-- Every family run is table-backed. -/
  | familiesSized
  /-- No family repeats. -/
  | familiesDistinct
  /-- No size repeats. -/
  | sizesDistinct
  /-- Every size has an index width. -/
  | sizesValid
  /-- No benchmark is blank. -/
  | benchmarksNotBlank
  deriving DecidableEq, Repr

namespace SetupCheck

/-- The checks, in the order they are made. -/
def order : List SetupCheck :=
  [driver, simulator, benchmarksPresent, benchmarksDistinct, familiesSized, familiesDistinct,
    sizesDistinct, sizesValid, benchmarksNotBlank]

/-- A setup fails a check, and is refused with the error naming the check's first violation. -/
def Fails : SetupCheck → Setup → SetupError → Prop
  | driver, c, e => c.driver = "" ∧ e = ⟨"driver", "\"\"", .missingTool⟩
  | simulator, c, e => c.simulator = "" ∧ e = ⟨"simulator", "\"\"", .missingTool⟩
  | benchmarksPresent, c, e => c.benchmarks = [] ∧ e = ⟨"benchmarks", "[]", .emptySweep⟩
  | benchmarksDistinct, c, e =>
    ∃ b, FirstRepeat c.benchmarks b ∧ e = ⟨"benchmarks", b, .duplicate⟩
  | familiesSized, c, e =>
    ∃ pre f post, c.runFamilies = pre ++ f :: post ∧
      (∀ g ∈ pre, g ∈ Family.sizedFamilies.map Family.name) ∧
      f ∉ Family.sizedFamilies.map Family.name ∧ e = ⟨"families", f, .unsupportedFamily⟩
  | familiesDistinct, c, e => ∃ f, FirstRepeat c.runFamilies f ∧ e = ⟨"families", f, .duplicate⟩
  | sizesDistinct, c, e => ∃ s, FirstRepeat c.sizes s ∧ e = ⟨"sizes", toString s, .duplicate⟩
  | sizesValid, c, e =>
    ∃ pre s post err, c.sizes = pre ++ s :: post ∧ (∀ t ∈ pre, ∃ w, indexWidth t = .ok w) ∧
      indexWidth s = .error err ∧ e = ⟨"sizes", toString s, .size err⟩
  | benchmarksNotBlank, c, e =>
    (∃ b ∈ c.benchmarks, Text.trim b = "") ∧ e = ⟨"benchmarks", "\"\"", .emptySweep⟩

/-- A setup passes a check when it does not fail it. -/
def Passes (k : SetupCheck) (c : Setup) : Prop := ∀ e, ¬k.Fails c e

end SetupCheck

/-- The jobs of a setup that passes every check: for each benchmark in turn, the two families
without a table, then each size with each family run, the width that of the size. -/
def Setup.sweepJobs (c : Setup) : List Job :=
  c.benchmarks.flatMap fun b =>
    Family.sizeless.map (fun f => c.describe b { family := f.name }) ++
      c.sizes.flatMap fun s => c.runFamilies.map fun f =>
        c.describe b { family := f, size := s, width := (Nat.log2 s.toNat : Int) - 3 }

/-! ## Each check as the plan makes it -/

/-- The refusal of a step that failed. -/
def refusal {α : Type} : Except SetupError α → Option SetupError
  | .error e => some e
  | .ok _ => none

namespace SetupCheck

/-- A check made the way the plan makes it: the refusal, if the setup fails it. -/
def run : SetupCheck → Setup → Option SetupError
  | driver, c => if c.driver.isEmpty then some ⟨"driver", "\"\"", .missingTool⟩ else none
  | simulator, c =>
    if c.simulator.isEmpty then some ⟨"simulator", "\"\"", .missingTool⟩ else none
  | benchmarksPresent, c =>
    if c.benchmarks.isEmpty then some ⟨"benchmarks", "[]", .emptySweep⟩ else none
  | benchmarksDistinct, c => refusal (checkDistinct "benchmarks" id c.benchmarks)
  | familiesSized, c =>
    (c.runFamilies.find? fun f => !Family.nameSized f).map fun f =>
      ⟨"families", f, .unsupportedFamily⟩
  | familiesDistinct, c => refusal (checkDistinct "families" id c.runFamilies)
  | sizesDistinct, c => refusal (checkDistinct "sizes" toString c.sizes)
  | sizesValid, c => refusal (Setup.widths c.sizes)
  | benchmarksNotBlank, c =>
    if c.benchmarks.any Text.isBlank then some ⟨"benchmarks", "\"\"", .emptySweep⟩ else none

end SetupCheck

/-! ## Reading each check -/

/-- Scanning from values already seen, the first repeat is a value met before or among those
seen, after a run of fresh, distinct values. -/
theorem firstRepeat_eq_some_iff {α : Type} [DecidableEq α] (seen xs : List α) (x : α) :
    firstRepeat seen xs = some x ↔ ∃ pre post, xs = pre ++ x :: post ∧ pre.Nodup ∧
      (∀ y ∈ pre, y ∉ seen) ∧ (x ∈ pre ∨ x ∈ seen) := by
  induction xs generalizing seen with
  | nil => simp [firstRepeat]
  | cons y rest ih =>
    by_cases hy : y ∈ seen
    · -- `y` itself is the repeat, and nothing can come before it
      rw [firstRepeat, if_pos hy, Option.some.injEq]
      constructor
      · rintro rfl
        exact ⟨[], rest, rfl, List.nodup_nil, by simp, .inr hy⟩
      · rintro ⟨pre, post, hsplit, -, hfresh, -⟩
        cases pre with
        | nil => exact (List.cons.inj hsplit).1
        | cons z pre =>
          obtain ⟨rfl, -⟩ := List.cons.inj hsplit
          exact absurd hy (hfresh y List.mem_cons_self)
    · -- `y` is fresh: the repeat is in the rest, with `y` seen
      rw [firstRepeat, if_neg hy, ih]
      constructor
      · rintro ⟨pre, post, rfl, hnodup, hfresh, hx⟩
        refine ⟨y :: pre, post, rfl, ?_, ?_, ?_⟩
        · exact List.nodup_cons.mpr ⟨fun h => hfresh y h List.mem_cons_self, hnodup⟩
        · intro z hz
          rcases List.mem_cons.mp hz with rfl | hz
          · exact hy
          · exact fun h => hfresh z hz (List.mem_cons_of_mem y h)
        · rcases hx with hx | hx
          · exact .inl (List.mem_cons_of_mem y hx)
          · rcases List.mem_cons.mp hx with rfl | hx
            · exact .inl List.mem_cons_self
            · exact .inr hx
      · rintro ⟨pre, post, hsplit, hnodup, hfresh, hx⟩
        cases pre with
        | nil =>
          obtain ⟨rfl, -⟩ := List.cons.inj hsplit
          simp only [List.not_mem_nil, false_or] at hx
          exact absurd hx hy
        | cons z pre =>
          obtain ⟨rfl, rfl⟩ := List.cons.inj hsplit
          obtain ⟨hz, hnodup⟩ := List.nodup_cons.mp hnodup
          refine ⟨pre, post, rfl, hnodup, fun w hw hws => ?_, ?_⟩
          · rcases List.mem_cons.mp hws with rfl | hws
            · exact hz hw
            · exact hfresh w (List.mem_cons_of_mem y hw) hws
          · rcases hx with hx | hx
            · rcases List.mem_cons.mp hx with rfl | hx
              · exact .inr List.mem_cons_self
              · exact .inl hx
            · exact .inr (List.mem_cons_of_mem y hx)

theorem firstRepeat_nil_eq_some_iff {α : Type} [DecidableEq α] (xs : List α) (x : α) :
    firstRepeat [] xs = some x ↔ FirstRepeat xs x := by
  simp [firstRepeat_eq_some_iff, FirstRepeat]

theorem refusal_eq_some_iff {α : Type} (x : Except SetupError α) (e : SetupError) :
    refusal x = some e ↔ x = .error e := by
  cases x <;> simp [refusal]

/-- A list is refused as repeating at its first repeat. -/
theorem checkDistinct_eq_error_iff {α : Type} [DecidableEq α] (field : String)
    (display : α → String) (xs : List α) (e : SetupError) :
    checkDistinct field display xs = .error e ↔
      ∃ x, FirstRepeat xs x ∧ e = ⟨field, display x, .duplicate⟩ := by
  unfold checkDistinct
  split
  · next x hx =>
    rw [Except.error.injEq, eq_comm]
    constructor
    · intro he
      exact ⟨x, (firstRepeat_nil_eq_some_iff xs x).mp hx, he⟩
    · rintro ⟨y, hy, rfl⟩
      obtain rfl : x = y :=
        Option.some.inj (hx.symm.trans ((firstRepeat_nil_eq_some_iff xs y).mpr hy))
      rfl
  · next hnone =>
    simp only [reduceCtorEq, false_iff, not_exists, not_and]
    intro y hy
    have hsome := (firstRepeat_nil_eq_some_iff xs y).mpr hy
    rw [hnone] at hsome
    cases hsome

theorem Family.mem_sizedFamilies (F : Family) : F ∈ Family.sizedFamilies ↔ F.sized = true := by
  cases F <;> decide

/-- A text names a table-backed family exactly when it is the name of one. -/
theorem Family.nameSized_eq_true_iff (f : String) :
    Family.nameSized f = true ↔ f ∈ Family.sizedFamilies.map Family.name := by
  constructor
  · intro h
    unfold Family.nameSized at h
    cases ho : Family.ofName? f with
    | none => simp [ho] at h
    | some F =>
      rw [ho] at h
      rw [← Family.name_of_ofName? ho]
      exact List.mem_map_of_mem ((Family.mem_sizedFamilies F).mpr h)
  · intro h
    obtain ⟨F, hF, rfl⟩ := List.mem_map.mp h
    rw [Family.nameSized_name, ← Family.mem_sizedFamilies]
    exact hF

theorem Except.map_eq_error_iff {ε α β : Type} (f : α → β) (x : Except ε α) (e : ε) :
    x.map f = .error e ↔ x = .error e := by
  cases x <;> simp [Except.map]

/-- The widths of a list of sizes are refused at its first size without an index width. -/
theorem widths_eq_error_iff (sizes : List Int) (e : SetupError) :
    Setup.widths sizes = .error e ↔ ∃ pre s post err, sizes = pre ++ s :: post ∧
      (∀ t ∈ pre, ∃ w, indexWidth t = .ok w) ∧ indexWidth s = .error err ∧
      e = ⟨"sizes", toString s, .size err⟩ := by
  induction sizes with
  | nil => simp [Setup.widths]
  | cons s rest ih =>
    cases hs : indexWidth s with
    | error err =>
      -- the first size is the one refused
      simp only [Setup.widths, hs, Except.error.injEq]
      constructor
      · rintro rfl
        exact ⟨[], s, rest, err, rfl, by simp, hs, rfl⟩
      · rintro ⟨pre, t, post, err', hsplit, hpre, ht, rfl⟩
        cases pre with
        | nil =>
          obtain ⟨rfl, -⟩ := List.cons.inj hsplit
          rw [hs, Except.error.injEq] at ht
          rw [ht]
        | cons u pre =>
          obtain ⟨rfl, -⟩ := List.cons.inj hsplit
          obtain ⟨w, hw⟩ := hpre s List.mem_cons_self
          rw [hs] at hw
          cases hw
    | ok w =>
      -- the first size has a width: the refusal is the rest's
      simp only [Setup.widths, hs, Except.map_eq_error_iff, ih]
      constructor
      · rintro ⟨pre, t, post, err, rfl, hpre, ht, rfl⟩
        refine ⟨s :: pre, t, post, err, rfl, ?_, ht, rfl⟩
        intro u hu
        rcases List.mem_cons.mp hu with rfl | hu
        · exact ⟨w, hs⟩
        · exact hpre u hu
      · rintro ⟨pre, t, post, err, hsplit, hpre, ht, rfl⟩
        cases pre with
        | nil =>
          obtain ⟨rfl, -⟩ := List.cons.inj hsplit
          rw [hs] at ht
          cases ht
        | cons u pre =>
          obtain ⟨rfl, rfl⟩ := List.cons.inj hsplit
          exact ⟨pre, t, post, err, rfl, fun v hv => hpre v (List.mem_cons_of_mem s hv), ht, rfl⟩

/-- A text trims to nothing exactly when it is blank. -/
theorem Text.trim_eq_empty_iff (s : String) : Text.trim s = "" ↔ Text.isBlank s = true := by
  -- trimming drops the leading white space, then the trailing white space of what is left
  have htrim : Text.trim s =
      String.ofList ((s.toList.dropWhile Text.isSpace).rdropWhile Text.isSpace) := rfl
  rw [htrim, String.ofList_eq_empty_iff, List.rdropWhile_eq_nil_iff, ← List.dropWhile_eq_nil_iff,
    List.dropWhile_idempotent, List.dropWhile_eq_nil_iff, Text.isBlank, List.all_eq_true]

theorem ite_eq_some_iff {b : Bool} {x e : SetupError} :
    (if b = true then some x else none) = some e ↔ b = true ∧ e = x := by
  cases b <;> simp [eq_comm]

namespace SetupCheck

/-- Each check as stated is failed exactly when the plan's way of making it refuses, with the
same error. -/
theorem fails_iff_run (k : SetupCheck) (c : Setup) (e : SetupError) :
    k.Fails c e ↔ k.run c = some e := by
  cases k with
  | driver => rw [Fails, run, ite_eq_some_iff, String.isEmpty_iff]
  | simulator => rw [Fails, run, ite_eq_some_iff, String.isEmpty_iff]
  | benchmarksPresent => rw [Fails, run, ite_eq_some_iff, List.isEmpty_iff]
  | benchmarksDistinct => rw [Fails, run, refusal_eq_some_iff, checkDistinct_eq_error_iff]; rfl
  | familiesSized =>
    rw [Fails, run, Option.map_eq_some_iff]
    simp only [List.find?_eq_some_iff_append, Bool.not_not, Bool.not_eq_eq_eq_not, Bool.not_true,
      ← Bool.not_eq_true, Family.nameSized_eq_true_iff]
    constructor
    · rintro ⟨pre, f, post, hsplit, hpre, hf, rfl⟩
      exact ⟨f, ⟨hf, pre, post, hsplit, hpre⟩, rfl⟩
    · rintro ⟨f, ⟨hf, pre, post, hsplit, hpre⟩, rfl⟩
      exact ⟨pre, f, post, hsplit, hpre, hf, rfl⟩
  | familiesDistinct => rw [Fails, run, refusal_eq_some_iff, checkDistinct_eq_error_iff]; rfl
  | sizesDistinct => rw [Fails, run, refusal_eq_some_iff, checkDistinct_eq_error_iff]
  | sizesValid => rw [Fails, run, refusal_eq_some_iff, widths_eq_error_iff]
  | benchmarksNotBlank =>
    rw [Fails, run, ite_eq_some_iff, List.any_eq_true]
    simp only [Text.trim_eq_empty_iff]

theorem passes_iff_run (k : SetupCheck) (c : Setup) : k.Passes c ↔ k.run c = none := by
  rw [Passes, Option.eq_none_iff_forall_ne_some]
  exact forall_congr' fun e => not_congr (fails_iff_run k c e)

end SetupCheck

/-! ## The plan makes the checks in order -/

theorem indexWidth_eq_ok {s w : Int} (h : indexWidth s = .ok w) :
    w = (Nat.log2 s.toNat : Int) - 3 := by
  rw [indexWidth_eq] at h
  cases hv : validateSize s with
  | error e => simp [hv, Except.map] at h
  | ok u =>
    simp only [hv, Except.map, Except.ok.injEq] at h
    exact h.symm

/-- The widths of sizes that all have one: each size with its own. -/
theorem widths_eq_ok_map {sizes : List Int} {sized : List (Int × Int)}
    (h : Setup.widths sizes = .ok sized) :
    sized = sizes.map fun s => (s, (Nat.log2 s.toNat : Int) - 3) := by
  obtain ⟨hfst, hwidth⟩ := widths_eq_ok h
  rw [← hfst, List.map_map]
  conv_lhs => rw [← List.map_id sized]
  refine List.map_congr_left fun p hp => ?_
  obtain ⟨s, w⟩ := p
  simpa using indexWidth_eq_ok (hwidth _ hp)

namespace Setup

/-- Listing the jobs of benchmarks is refused at a blank one, and is otherwise each benchmark's
jobs in turn. -/
theorem mapM_benchJobs_eq (c : Setup) (families : List String) (sized : List (Int × Int))
    (bs : List String) :
    bs.mapM (c.benchJobs families sized) =
      if bs.any Text.isBlank then .error ⟨"benchmarks", "\"\"", .emptySweep⟩
      else .ok (bs.map fun b => Family.sizeless.map (fun f => c.describe b { family := f.name }) ++
        sized.flatMap fun p => families.map fun f =>
          c.describe b { family := f, size := p.1, width := p.2 }) := by
  induction bs with
  | nil => rfl
  | cons b rest ih =>
    rw [List.mapM_cons, List.any_cons]
    cases hb : Text.isBlank b
    · rw [ih]
      cases rest.any Text.isBlank <;> simp [benchJobs, hb, bind, Except.bind, pure, Except.pure]
    · simp [benchJobs, hb, bind, Except.bind]

theorem plan_eq_checks (c : Setup) :
    c.plan = match SetupCheck.order.findSome? (·.run c) with
      | some e => .error e
      | none => .ok c.sweepJobs := by
  simp only [SetupCheck.order, List.findSome?_cons, List.findSome?_nil, SetupCheck.run]
  unfold plan
  cases c.driver.isEmpty <;> cases c.simulator.isEmpty <;> cases c.benchmarks.isEmpty <;>
    simp only [Bool.false_eq_true, if_false, if_true]
  case false.false.false =>
    rcases h1 : checkDistinct "benchmarks" id c.benchmarks with e | _
    · rfl
    rcases h2 : c.runFamilies.find? (fun f => !Family.nameSized f) with _ | f
    · rcases h3 : checkDistinct "families" id c.runFamilies with e | _
      · rfl
      rcases h4 : checkDistinct "sizes" toString c.sizes with e | _
      · rfl
      rcases h5 : widths c.sizes with e | sized
      · rfl
      obtain rfl := widths_eq_ok_map h5
      simp only [bind, Except.bind, refusal, Option.map_none, mapM_benchJobs_eq]
      cases c.benchmarks.any Text.isBlank
      · simp only [Bool.false_eq_true, if_false, List.flatMap_map]
        rfl
      · rfl
    · rfl
  all_goals rfl

theorem refusal_eq_none_iff {α : Type} (x : Except SetupError α) :
    refusal x = none ↔ ∃ a, x = .ok a := by
  cases x <;> simp [refusal]

/-- The first check failed, as the plan finds it, is the first in order that the setup fails as
stated. -/
theorem findSome?_run_eq_some_iff (c : Setup) (e : SetupError) :
    SetupCheck.order.findSome? (·.run c) = some e ↔ ∃ before k after,
      SetupCheck.order = before ++ k :: after ∧ k.Fails c e ∧ ∀ k' ∈ before, k'.Passes c := by
  simp only [List.findSome?_eq_some_iff, SetupCheck.fails_iff_run, SetupCheck.passes_iff_run]

theorem findSome?_run_eq_none_iff (c : Setup) :
    SetupCheck.order.findSome? (·.run c) = none ↔ ∀ k ∈ SetupCheck.order, k.Passes c := by
  simp only [List.findSome?_eq_none_iff, SetupCheck.passes_iff_run]

/-- A setup that passes every check runs each table-backed family at each size under the
specification `Spec.make` builds for them. -/
theorem make_of_passes {c : Setup} (h : ∀ k ∈ SetupCheck.order, k.Passes c) :
    ∀ f ∈ c.runFamilies, ∀ s ∈ c.sizes,
      Spec.make f s = .ok { family := f, size := s, width := (Nat.log2 s.toNat : Int) - 3 } := by
  intro f hf s hs
  -- the families are table-backed, and every size has its width
  have hfind := (SetupCheck.passes_iff_run .familiesSized c).mp (h _ (by decide))
  rw [SetupCheck.run, Option.map_eq_none_iff, List.find?_eq_none] at hfind
  have hsized : Family.nameSized f = true := by simpa using hfind f hf
  have hwidths := (SetupCheck.passes_iff_run .sizesValid c).mp (h _ (by decide))
  rw [SetupCheck.run, refusal_eq_none_iff] at hwidths
  obtain ⟨sized, hsizes⟩ := hwidths
  have hwidth : indexWidth s = .ok ((Nat.log2 s.toNat : Int) - 3) := by
    have hmem : (s, (Nat.log2 s.toNat : Int) - 3) ∈ sized := by
      rw [widths_eq_ok_map hsizes]
      exact List.mem_map_of_mem hs
    exact (widths_eq_ok hsizes).2 _ hmem
  exact Spec.make_sized hsized hwidth

/-- A setup's plan refuses it exactly when it fails one of the checks, with the error of the
first check in order that it fails, and lists the cross product of its benchmarks, sizes and
families exactly when it passes them all; each table-backed job of that product runs the
specification `Spec.make` builds for its family and size. -/
theorem plan_checks_in_order (c : Setup) :
    (∀ e, c.plan = .error e ↔ ∃ before k after, SetupCheck.order = before ++ k :: after ∧
      (∀ k' ∈ before, k'.Passes c) ∧ k.Fails c e) ∧
    (∀ jobs, c.plan = .ok jobs ↔ (∀ k ∈ SetupCheck.order, k.Passes c) ∧ jobs = c.sweepJobs) ∧
    ((∀ k ∈ SetupCheck.order, k.Passes c) → ∀ f ∈ c.runFamilies, ∀ s ∈ c.sizes,
      Spec.make f s = .ok { family := f, size := s, width := (Nat.log2 s.toNat : Int) - 3 }) := by
  refine ⟨fun e => ?_, fun jobs => ?_, make_of_passes⟩
  · -- refused: by the first failed check
    have hiff : c.plan = .error e ↔ SetupCheck.order.findSome? (·.run c) = some e := by
      rw [plan_eq_checks]
      cases SetupCheck.order.findSome? (·.run c) <;> simp
    rw [hiff, findSome?_run_eq_some_iff]
    constructor
    · rintro ⟨before, k, after, hsplit, hfails, hpasses⟩
      exact ⟨before, k, after, hsplit, hpasses, hfails⟩
    · rintro ⟨before, k, after, hsplit, hpasses, hfails⟩
      exact ⟨before, k, after, hsplit, hfails, hpasses⟩
  · -- planned: every check passed
    rw [plan_eq_checks, ← findSome?_run_eq_none_iff]
    cases SetupCheck.order.findSome? (·.run c) <;> simp [eq_comm]

end Setup

end PredictorSweep
