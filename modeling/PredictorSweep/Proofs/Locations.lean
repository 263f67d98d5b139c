import PredictorSweep.Proofs.LogName
/-!
# Where the jobs of a plan write

A job writes its log to the results directory joined with its name and `.out`, and works in the
results directory joined with its name, its name being the benchmark and the label joined by `_`.
Cleaning keeps a plain name last, so for benchmarks without a separator two jobs share a log file,
or a scratch directory, exactly when they share a name. A benchmark with a separator can clean to
another one (`./x` and `x`), which is why the configuration refuses them.

No two jobs of a plan fill one cell, but two cells can still be named alike. Read after its
benchmark, a name gives back the family and the label's digit runs, and so the size; the only
other way to read it moves `_comb_bimod` between the benchmark and the family. So a two-level job
on the benchmark `p_comb_bimod` is named like the combined job on `p` of the same size, and no
other two jobs are.

Proved here:

* `eq_of_toString_eq`, `Spec.size_eq_of_labelRuns_eq`: sizes are read back from labels;
* `logName_eq_cases`: the two ways of writing one log name;
* `logName_eq_iff`: two validated jobs have one log name exactly when they are the same run or
  combined twins (`Key.CombinedTwin`);
* `Setup.location_clash_iff`: two jobs of a plan whose benchmarks hold no separator share their
  log path, and share their scratch directory, exactly when they are one job or combined twins;
* `Setup.plan_location_clash`: a plan with jobs sharing both.
-/

namespace PredictorSweep

/-- Two cells named alike: `k` runs a two-level family on a benchmark that is `k'`'s followed by
`_comb_bimod`, and `k'` runs the combined family built on it, at the same size. -/
def Key.CombinedTwin (k k' : Key) : Prop :=
  (k.family = Family.gshare.name ∨ k.family = Family.gselect.name) ∧
    k.benchmark = k'.benchmark ++ "_comb_bimod" ∧ k'.family = "comb_bimod_" ++ k.family ∧
    k'.size = k.size

instance (k k' : Key) : Decidable (k.CombinedTwin k') :=
  inferInstanceAs (Decidable (_ ∧ _ ∧ _ ∧ _))

/-! ## Sizes read back from labels -/

/-- Non-negative numbers with the same decimal text are equal. -/
theorem eq_of_toString_eq {a b : Int} (ha : 0 ≤ a) (hb : 0 ≤ b)
    (h : (toString a).toList = (toString b).toList) : a = b := by
  rw [toList_toString_of_nonneg ha, toList_toString_of_nonneg hb] at h
  have hnat : a.toNat = b.toNat := calc
    a.toNat = Nat.ofDigitChars 10 (Nat.toDigits 10 a.toNat) 0 := Nat.ofDigitChars_ten_toDigits.symm
    _ = Nat.ofDigitChars 10 (Nat.toDigits 10 b.toNat) 0 := by rw [h]
    _ = b.toNat := Nat.ofDigitChars_ten_toDigits
  omega

theorem Spec.labelRuns_head? (s : Spec) :
    s.labelRuns.head? =
      if Family.nameSized s.family then some (toString s.size).toList else none := by
  unfold Spec.labelRuns
  split_ifs <;> rfl

/-- Validated specifications with the same digit runs have the same size: both have no table and
size zero, or both write their size first. -/
theorem Spec.size_eq_of_labelRuns_eq {s₁ s₂ : Spec} (hs₁ : Spec.make s₁.family s₁.size = .ok s₁)
    (hs₂ : Spec.make s₂.family s₂.size = .ok s₂) (h : s₁.labelRuns = s₂.labelRuns) :
    s₁.size = s₂.size := by
  obtain ⟨F₁, ho₁, -, -, hc₁⟩ := Spec.make_eq_ok hs₁
  obtain ⟨F₂, ho₂, -, -, hc₂⟩ := Spec.make_eq_ok hs₂
  have hhead := congrArg List.head? h
  rw [Spec.labelRuns_head?, Spec.labelRuns_head?] at hhead
  simp only [Family.nameSized, ho₁, ho₂] at hhead
  rcases hc₁ with ⟨hF₁, hz₁, -⟩ | ⟨hF₁, hw₁⟩ <;> rcases hc₂ with ⟨hF₂, hz₂, -⟩ | ⟨hF₂, hw₂⟩
  · rw [hz₁, hz₂]
  · simp [hF₁, hF₂] at hhead
  · simp [hF₁, hF₂] at hhead
  · simp only [hF₁, hF₂, if_true, Option.some.injEq] at hhead
    have h₁ := (indexWidth_bounds hw₁).1
    have h₂ := (indexWidth_bounds hw₂).1
    exact eq_of_toString_eq (by omega) (by omega) hhead

/-- A validated specification is fixed by its family and its size. -/
theorem Spec.eq_of_make {s₁ s₂ : Spec} (hs₁ : Spec.make s₁.family s₁.size = .ok s₁)
    (hs₂ : Spec.make s₂.family s₂.size = .ok s₂) (hf : s₁.family = s₂.family)
    (hsize : s₁.size = s₂.size) : s₁ = s₂ := by
  rw [hf, hsize, hs₂] at hs₁
  exact (Except.ok.inj hs₁).symm

/-! ## One log name, written two ways -/

/-- Digit runs are read back from the ending that holds them. -/
theorem endingOf_injective {ds es : List (List Char)} (hds : ∀ d ∈ ds, isDigitRun d)
    (hes : ∀ e ∈ es, isDigitRun e) (h : endingOf ds = endingOf es) : ds = es := by
  have hruns : [] ++ ds.flatMap ('_' :: ·) = [] ++ es.flatMap ('_' :: ·) := by
    simpa [endingOf] using h
  have hsplit := congrArg (List.splitOn '_') hruns
  rw [splitOn_append_runs _ fun d hd => not_mem_of_isDigitRun (hds d hd) rfl,
    splitOn_append_runs _ fun e he => not_mem_of_isDigitRun (hes e he) rfl] at hsplit
  exact List.append_cancel_left hsplit

/-- A family name and an ending are read back from their concatenation. -/
theorem family_ending_eq {F₁ F₂ : Family} {ds₁ ds₂ : List (List Char)}
    (hds₁ : ∀ d ∈ ds₁, isDigitRun d) (hds₂ : ∀ d ∈ ds₂, isDigitRun d)
    (h : F₁.name.toList ++ endingOf ds₁ = F₂.name.toList ++ endingOf ds₂) : F₁ = F₂ ∧ ds₁ = ds₂ := by
  have hF : F₂ = F₁ := Family.eq_of_prefix_name_append (by rw [h]; exact List.prefix_append _ _)
  subst hF
  exact ⟨rfl, endingOf_injective hds₁ hds₂ (List.append_cancel_left h)⟩

/-- The family pairs whose names differ by `comb_bimod_` in front: a two-level family and the
combined family built on it. -/
def Family.CombinedOf (F f : Family) : Prop :=
  F = .gshare ∧ f = .combBimodGshare ∨ F = .gselect ∧ f = .combBimodGselect

theorem Family.CombinedOf.name_eq {F f : Family} (h : F.CombinedOf f) :
    f.name = "comb_bimod_" ++ F.name := by
  rcases h with ⟨rfl, rfl⟩ | ⟨rfl, rfl⟩ <;> rfl

/-- A benchmark text `w` that one reading keeps and the other moves into the family is
`_comb_bimod`, in front of a two-level family; the endings agree. -/
theorem combinedOf_of_logName_shift {w : List Char} {F f : Family} {ds es : List (List Char)}
    (hw : w ≠ []) (hds : ∀ d ∈ ds, isDigitRun d) (hes : ∀ e ∈ es, isDigitRun e)
    (h : w ++ '_' :: (F.name.toList ++ endingOf ds) = '_' :: (f.name.toList ++ endingOf es)) :
    w = "_comb_bimod".toList ∧ F.CombinedOf f ∧ ds = es := by
  obtain ⟨rfl, hFf⟩ := eq_combined_of_append_eq hw hds hes h
  -- `_comb_bimod` and the two-level name make the combined name; the ending follows both
  have hE : ('_' :: f.name.toList) ++ endingOf ds = ('_' :: f.name.toList) ++ endingOf es := calc
    ('_' :: f.name.toList) ++ endingOf ds
      = ("_comb_bimod".toList ++ '_' :: F.name.toList) ++ endingOf ds := by
        rw [combined_toList_name hFf]
    _ = '_' :: (f.name.toList ++ endingOf es) := by simpa using h
    _ = ('_' :: f.name.toList) ++ endingOf es := rfl
  exact ⟨rfl, hFf, endingOf_injective hds hes (List.append_cancel_left hE)⟩

/-- The two ways of writing one log name: the same benchmark and family, or one benchmark longer
by `_comb_bimod` on the side of the two-level family; either way with the same digit runs. -/
theorem logName_eq_cases {b₁ b₂ : List Char} {F₁ F₂ : Family} {ds₁ ds₂ : List (List Char)}
    (hds₁ : ∀ d ∈ ds₁, isDigitRun d) (hds₂ : ∀ d ∈ ds₂, isDigitRun d)
    (h : b₁ ++ '_' :: (F₁.name.toList ++ endingOf ds₁) =
      b₂ ++ '_' :: (F₂.name.toList ++ endingOf ds₂)) :
    ds₁ = ds₂ ∧ (b₁ = b₂ ∧ F₁ = F₂ ∨ b₁ = b₂ ++ "_comb_bimod".toList ∧ F₁.CombinedOf F₂ ∨
      b₂ = b₁ ++ "_comb_bimod".toList ∧ F₂.CombinedOf F₁) := by
  rcases List.append_eq_append_iff.mp h with ⟨w, hb, hrest⟩ | ⟨w, hb, hrest⟩
  · -- the second benchmark is the first followed by `w`
    by_cases hw : w = []
    · subst hw
      rw [List.append_nil] at hb
      obtain ⟨hF, hd⟩ := family_ending_eq hds₁ hds₂ (List.cons.inj hrest).2
      exact ⟨hd, .inl ⟨hb.symm, hF⟩⟩
    · obtain ⟨rfl, hFf, hd⟩ := combinedOf_of_logName_shift hw hds₂ hds₁ hrest.symm
      exact ⟨hd.symm, .inr (.inr ⟨hb, hFf⟩)⟩
  · -- the first benchmark is the second followed by `w`
    by_cases hw : w = []
    · subst hw
      rw [List.append_nil] at hb
      obtain ⟨hF, hd⟩ := family_ending_eq hds₂ hds₁ (List.cons.inj hrest).2
      exact ⟨hd.symm, .inl ⟨hb, hF.symm⟩⟩
    · obtain ⟨rfl, hFf, hd⟩ := combinedOf_of_logName_shift hw hds₁ hds₂ hrest.symm
      exact ⟨hd, .inr (.inl ⟨hb, hFf⟩)⟩

/-! ## Log names of validated jobs -/

/-- The log name of a two-level run on `p_comb_bimod` is the combined run's on `p`. -/
theorem logName_eq_of_combinedTwin {b₁ b₂ : String} {s₁ s₂ : Spec}
    (hs₁ : Spec.make s₁.family s₁.size = .ok s₁) (hs₂ : Spec.make s₂.family s₂.size = .ok s₂)
    (h : Key.CombinedTwin ⟨s₁.family, b₁, s₁.size⟩ ⟨s₂.family, b₂, s₂.size⟩) :
    b₁ ++ "_" ++ s₁.label ++ ".out" = b₂ ++ "_" ++ s₂.label ++ ".out" := by
  obtain ⟨hfam, hb, hfam₂, hsize⟩ := h
  dsimp only at hfam hb hfam₂ hsize
  obtain ⟨F, f, hF, hf, hFf⟩ : ∃ F f : Family, F.name = s₁.family ∧ f.name = s₂.family ∧
      F.CombinedOf f := by
    rcases hfam with h | h
    · exact ⟨.gshare, .combBimodGshare, h.symm, by rw [hfam₂, h]; rfl, .inl ⟨rfl, rfl⟩⟩
    · exact ⟨.gselect, .combBimodGselect, h.symm, by rw [hfam₂, h]; rfl, .inr ⟨rfl, rfl⟩⟩
  -- both families keep a history, so both labels write the size and the same width
  have hwidth (s : Spec) (G : Family) (hG : G.name = s.family) (hsized : G.sized = true)
      (hs : Spec.make s.family s.size = .ok s) : indexWidth s.size = .ok s.width := by
    obtain ⟨G', hG', -, -, hc⟩ := Spec.make_eq_ok hs
    rw [← hG, Family.ofName?_name, Option.some.injEq] at hG'
    subst hG'
    rcases hc with ⟨h, -⟩ | ⟨-, h⟩
    · exact absurd h (by simp [hsized])
    · exact h
  have hsized : F.sized = true ∧ f.sized = true ∧ F.usesHistory = true ∧ f.usesHistory = true := by
    rcases hFf with ⟨rfl, rfl⟩ | ⟨rfl, rfl⟩ <;> decide
  have hw : s₁.width = s₂.width := by
    have h₁ := hwidth s₁ F hF hsized.1 hs₁
    have h₂ := hwidth s₂ f hf hsized.2.1 hs₂
    rw [hsize, h₁] at h₂
    exact Except.ok.inj h₂
  have hruns : s₁.labelRuns = s₂.labelRuns := by
    simp only [Spec.labelRuns, ← hF, ← hf, Family.nameSized_name, Family.nameUsesHistory_name,
      hsized, if_true, hsize, hw]
  rw [← String.toList_inj, toList_logName, toList_logName, hb, ← hF, ← hf, hruns,
    String.toList_append, List.append_assoc, ← List.cons_append, ← List.append_assoc
      "_comb_bimod".toList, combined_toList_name hFf, List.cons_append]

/-- Two validated runs have the same log name exactly when they run the same benchmark and
specification, or are combined twins. -/
theorem logName_eq_iff {b₁ b₂ : String} {s₁ s₂ : Spec} (hs₁ : Spec.make s₁.family s₁.size = .ok s₁)
    (hs₂ : Spec.make s₂.family s₂.size = .ok s₂) :
    b₁ ++ "_" ++ s₁.label ++ ".out" = b₂ ++ "_" ++ s₂.label ++ ".out" ↔
      b₁ = b₂ ∧ s₁ = s₂ ∨ Key.CombinedTwin ⟨s₁.family, b₁, s₁.size⟩ ⟨s₂.family, b₂, s₂.size⟩ ∨
        Key.CombinedTwin ⟨s₂.family, b₂, s₂.size⟩ ⟨s₁.family, b₁, s₁.size⟩ := by
  constructor
  · intro h
    obtain ⟨F₁, ho₁, -⟩ := Spec.make_eq_ok hs₁
    obtain ⟨F₂, ho₂, -⟩ := Spec.make_eq_ok hs₂
    have hF₁ := Family.name_of_ofName? ho₁
    have hF₂ := Family.name_of_ofName? ho₂
    have hchars := congrArg String.toList h
    rw [toList_logName, toList_logName, ← hF₁, ← hF₂] at hchars
    obtain ⟨hruns, hcases⟩ := logName_eq_cases (Spec.isDigitRun_labelRuns hs₁)
      (Spec.isDigitRun_labelRuns hs₂) hchars
    have hsize := Spec.size_eq_of_labelRuns_eq hs₁ hs₂ hruns
    rcases hcases with ⟨hb, hF⟩ | ⟨hb, hFf⟩ | ⟨hb, hFf⟩
    · -- the same run
      refine .inl ⟨String.toList_injective hb, Spec.eq_of_make hs₁ hs₂ ?_ hsize⟩
      rw [← hF₁, ← hF₂, hF]
    · -- the first run is the two-level twin of the second
      have hfam : s₁.family = Family.gshare.name ∨ s₁.family = Family.gselect.name := by
        rw [← hF₁]
        rcases hFf with ⟨rfl, -⟩ | ⟨rfl, -⟩
        exacts [.inl rfl, .inr rfl]
      refine .inr (.inl ⟨hfam, String.toList_injective (by simpa using hb), ?_, hsize.symm⟩)
      rw [← hF₁, ← hF₂, hFf.name_eq]
    · -- the second run is the two-level twin of the first
      have hfam : s₂.family = Family.gshare.name ∨ s₂.family = Family.gselect.name := by
        rw [← hF₂]
        rcases hFf with ⟨rfl, -⟩ | ⟨rfl, -⟩
        exacts [.inl rfl, .inr rfl]
      refine .inr (.inr ⟨hfam, String.toList_injective (by simpa using hb), ?_, hsize⟩)
      rw [← hF₁, ← hF₂, hFf.name_eq]
  · rintro (⟨rfl, rfl⟩ | h | h)
    · rfl
    · exact logName_eq_of_combinedTwin hs₁ hs₂ h
    · exact (logName_eq_of_combinedTwin hs₂ hs₁ h).symm

/-! ## Log paths and scratch directories of a plan -/

/-- A text with an underscore and no separator is a plain name. -/
theorem Path.plainName_of_underscore {n : String} (h_ : '_' ∈ n.toList) (hslash : '/' ∉ n.toList) :
    Path.PlainName n := by
  have hne : ∀ t : String, '_' ∉ t.toList → n ≠ t := fun t ht h => ht (h ▸ h_)
  exact ⟨hne "" (by simp), hne "." (by decide), hne ".." (by decide), hslash⟩

theorem append_out_inj {a b : String} : a ++ ".out" = b ++ ".out" ↔ a = b := by
  rw [← String.toList_inj, ← String.toList_inj, String.toList_append, String.toList_append]
  exact List.append_left_inj _

namespace Setup

variable {c : Setup} {jobs : List Job}

/-- The last names of a plan's job's log path and scratch directory, when its benchmark holds no
separator: the log name, and the name. -/
theorem base_locations (hplan : c.plan = .ok jobs) {j : Job} (hj : j ∈ jobs)
    (hslash : '/' ∉ j.benchmark.toList) :
    Path.base j.logPath = j.benchmark ++ "_" ++ j.predictor.label ++ ".out" ∧
      Path.base j.scratchDir = j.benchmark ++ "_" ++ j.predictor.label := by
  obtain ⟨-, -, hmake, -, hdesc⟩ := mem_plan hplan hj
  obtain ⟨F, ho, -⟩ := Spec.make_eq_ok hmake
  have hlog := plainName_logName (Family.name_of_ofName? ho) (Spec.isDigitRun_labelRuns hmake) hslash
  -- the name is the log name without its suffix, so it is plain too
  have hname : Path.PlainName (j.benchmark ++ "_" ++ j.predictor.label) :=
    Path.plainName_of_underscore (by simp) fun h =>
      hlog.no_separator (by rw [String.toList_append]; exact List.mem_append_left _ h)
  have hpaths : j.logPath = Path.join [c.resultsDir, j.benchmark ++ "_" ++ j.predictor.label ++ ".out"] ∧
      j.scratchDir = Path.join [c.resultsDir, j.benchmark ++ "_" ++ j.predictor.label] :=
    ⟨congrArg Job.logPath hdesc, congrArg Job.scratchDir hdesc⟩
  rw [hpaths.1, hpaths.2]
  exact ⟨Path.base_join_name _ hlog, Path.base_join_name _ hname⟩

/-- Two jobs of a plan are one job exactly when they run one benchmark under one specification. -/
theorem job_eq_iff (hplan : c.plan = .ok jobs) {j₁ j₂ : Job} (h₁ : j₁ ∈ jobs) (h₂ : j₂ ∈ jobs) :
    j₁ = j₂ ↔ j₁.benchmark = j₂.benchmark ∧ j₁.predictor = j₂.predictor := by
  constructor
  · rintro rfl
    exact ⟨rfl, rfl⟩
  · rintro ⟨hb, hp⟩
    rw [(mem_plan hplan h₁).2.2.2.2, (mem_plan hplan h₂).2.2.2.2, hb, hp]

/-- Two jobs of a plan whose benchmarks hold no separator share their log path, and share their
scratch directory, exactly when they are one job or combined twins. -/
theorem location_clash_iff (hplan : c.plan = .ok jobs)
    (hslash : ∀ b ∈ c.benchmarks, '/' ∉ b.toList) {j₁ j₂ : Job} (h₁ : j₁ ∈ jobs) (h₂ : j₂ ∈ jobs) :
    (j₁.logPath = j₂.logPath ↔ j₁ = j₂ ∨ j₁.key.CombinedTwin j₂.key ∨ j₂.key.CombinedTwin j₁.key) ∧
    (j₁.scratchDir = j₂.scratchDir ↔
      j₁ = j₂ ∨ j₁.key.CombinedTwin j₂.key ∨ j₂.key.CombinedTwin j₁.key) := by
  obtain ⟨hb₁, -, hs₁, -, hd₁⟩ := mem_plan hplan h₁
  obtain ⟨hb₂, -, hs₂, -, hd₂⟩ := mem_plan hplan h₂
  obtain ⟨hlog₁, hscratch₁⟩ := base_locations hplan h₁ (hslash _ hb₁)
  obtain ⟨hlog₂, hscratch₂⟩ := base_locations hplan h₂ (hslash _ hb₂)
  -- both locations are the results directory joined with a name the location ends in
  have hjoin : ∀ j : Job, j = c.describe j.benchmark j.predictor →
      j.logPath = Path.join [c.resultsDir, j.benchmark ++ "_" ++ j.predictor.label ++ ".out"] ∧
        j.scratchDir = Path.join [c.resultsDir, j.benchmark ++ "_" ++ j.predictor.label] :=
    fun j hj => ⟨congrArg Job.logPath hj, congrArg Job.scratchDir hj⟩
  have hnames : j₁.benchmark ++ "_" ++ j₁.predictor.label ++ ".out" =
      j₂.benchmark ++ "_" ++ j₂.predictor.label ++ ".out" ↔
        j₁ = j₂ ∨ j₁.key.CombinedTwin j₂.key ∨ j₂.key.CombinedTwin j₁.key := by
    rw [logName_eq_iff hs₁ hs₂, job_eq_iff hplan h₁ h₂]
    rfl
  constructor
  · rw [← hnames]
    constructor
    · intro h
      rw [← hlog₁, ← hlog₂, h]
    · intro h
      rw [(hjoin j₁ hd₁).1, (hjoin j₂ hd₂).1, h]
  · rw [← hnames, append_out_inj]
    constructor
    · intro h
      rw [← hscratch₁, ← hscratch₂, h]
    · intro h
      rw [(hjoin j₁ hd₁).2, (hjoin j₂ hd₂).2, h]

/-- The sweep of `x` and `x_comb_bimod` with `gshare` and `comb_bimod_gshare` at size 64, whose
benchmarks hold no separator: the rule applies to its `gshare` job on `x_comb_bimod` and its
`comb_bimod_gshare` job on `x`. -/
theorem combined_twins_locations :
    let setup : Setup :=
      { driver := "d", simulator := "s", resultsDir := "r", benchmarks := ["x", "x_comb_bimod"],
        sizes := [64], families := ["gshare", "comb_bimod_gshare"] }
    let jobsOf (b : String) : List Job :=
      [setup.describe b { family := "nottaken" }, setup.describe b { family := "taken" },
        setup.describe b { family := "gshare", size := 64, width := 3 },
        setup.describe b { family := "comb_bimod_gshare", size := 64, width := 3 }]
    let jobs := jobsOf "x" ++ jobsOf "x_comb_bimod"
    let twin := setup.describe "x_comb_bimod" { family := "gshare", size := 64, width := 3 }
    let combined := setup.describe "x" { family := "comb_bimod_gshare", size := 64, width := 3 }
    setup.plan = .ok jobs ∧ (∀ b ∈ setup.benchmarks, '/' ∉ b.toList) ∧ twin ∈ jobs ∧
      combined ∈ jobs ∧
      (twin.logPath = combined.logPath ↔
        twin = combined ∨ twin.key.CombinedTwin combined.key ∨ combined.key.CombinedTwin twin.key) ∧
      (twin.scratchDir = combined.scratchDir ↔
        twin = combined ∨ twin.key.CombinedTwin combined.key ∨ combined.key.CombinedTwin twin.key) := by
  intro setup jobsOf jobs twin combined
  have hplan : setup.plan = .ok jobs := by rfl
  have hslash : ∀ b ∈ setup.benchmarks, '/' ∉ b.toList := by decide
  have htwin : twin ∈ jobs := by decide +kernel
  have hcombined : combined ∈ jobs := by decide +kernel
  exact ⟨hplan, hslash, htwin, hcombined, location_clash_iff hplan hslash htwin hcombined⟩

end Setup

/-- A sweep of `x`, `x_comb_bimod` and `./x` with `gshare` and `comb_bimod_gshare` at size 64: its
plan succeeds, yet the `gshare` job on `x_comb_bimod` and the `comb_bimod_gshare` job on `x` share
their log file and scratch directory, and so do the `nottaken` jobs on `x` and on `./x`. -/
theorem Setup.plan_location_clash :
    let setup : Setup :=
      { driver := "d", simulator := "s", resultsDir := "r",
        benchmarks := ["x", "x_comb_bimod", "./x"], sizes := [64],
        families := ["gshare", "comb_bimod_gshare"] }
    let jobsOf (b : String) : List Job :=
      [setup.describe b { family := "nottaken" }, setup.describe b { family := "taken" },
        setup.describe b { family := "gshare", size := 64, width := 3 },
        setup.describe b { family := "comb_bimod_gshare", size := 64, width := 3 }]
    let jobs := jobsOf "x" ++ jobsOf "x_comb_bimod" ++ jobsOf "./x"
    let twin := setup.describe "x_comb_bimod" { family := "gshare", size := 64, width := 3 }
    let combined := setup.describe "x" { family := "comb_bimod_gshare", size := 64, width := 3 }
    let plain := setup.describe "x" { family := "nottaken" }
    let dotted := setup.describe "./x" { family := "nottaken" }
    setup.plan = .ok jobs ∧
      twin ∈ jobs ∧ combined ∈ jobs ∧ twin ≠ combined ∧
        twin.logPath = combined.logPath ∧ twin.scratchDir = combined.scratchDir ∧
      plain ∈ jobs ∧ dotted ∈ jobs ∧ plain ≠ dotted ∧
        plain.logPath = dotted.logPath ∧ plain.scratchDir = dotted.scratchDir := by
  intro setup jobsOf jobs twin combined plain dotted
  -- the plan is built of the same jobs; the rest is evaluated
  refine ⟨by rfl, ?_, ?_, ?_, ?_, ?_, ?_, ?_, ?_, ?_, ?_⟩ <;> decide +kernel

end PredictorSweep
