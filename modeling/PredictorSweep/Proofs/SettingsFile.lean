import PredictorSweep.Proofs.YamlRead
import PredictorSweep.Proofs.DurationText
import PredictorSweep.Proofs.Settings
import PredictorSweep.Settings.Load
import PredictorSweep.Settings.Write
/-!
# Settings written to a file and loaded back

Settings are written as a YAML document and loaded back over the defaults, through any YAML
library (`Yaml.Library`). What the library does with the text is taken as it promises: its reader
reads the written text as one document whose nodes read the written values (`Yaml.Faithful`), and
a float comes back as a float that compares equal to it (`Yaml.FloatReadsBack`). From there the settings' own decoding is
followed section by section: text, integers of the 64-bit range, booleans and lists come back as
written, and the timeout comes back through its duration text.

The round trip is not the identity on every setting that passes the checks. Families given as an
empty list are left out of the file and come back absent, and the checks let a negative timeout
through, which is written but refused on loading. Otherwise loading gives back the settings that
were written, equal as the program compares settings (`Settings.Same`: the launch rate as floats
compare, so a launch rate of `-0` may come back as `0`).

Main statements:

- `Settings.decode_of_reads`: a document whose root reads the written settings decodes over the
  defaults to what the file holds, or fails on a negative timeout;
- `Settings.load_render`: loading written settings that pass their checks gives them back, but for
  empty families, when the timeout is not negative, and fails naming the timeout's line when it
  is; so it gives back the settings themselves exactly when neither happens;
- `Settings.load_render_drops_empty_families`: the default settings with an empty list of families
  do not come back.
-/

namespace PredictorSweep

/-! ### Floats equal as they compare -/

/-- Floats equal by IEEE comparison compare alike with every float. -/
theorem UnpackedFloat.compare_congr_right {a b : Float.Model.UnpackedFloat}
    (h : a.compare b = some .eq) (c : Float.Model.UnpackedFloat) :
    c.compare a = c.compare b := by
  rcases a with sa | _ | sa | ⟨sa, ma, ea, ha⟩ <;> rcases b with sb | _ | sb | ⟨sb, mb, eb, hb⟩ <;>
    (try cases sa) <;> (try cases sb) <;> simp [Float.Model.UnpackedFloat.compare] at h
  -- zeros of either sign compare alike with everything
  case zero.zero.negative.positive | zero.zero.positive.negative =>
    rcases c with sc | _ | sc | ⟨sc, mc, ec, hc⟩ <;> (try cases sc) <;> rfl
  case finite.finite.negative.negative | finite.finite.positive.positive =>
    obtain ⟨rfl, rfl⟩ := h
    rfl
  all_goals rfl

/-- A float equal to one above a bound is above it too. -/
theorem Float.le_of_beq {c r x : Float} (h : (r == x) = true) (hx : c ≤ x) : c ≤ r := by
  have h1 : (r.toModel.unpack.compare x.toModel.unpack == some .eq) = true := h
  have heq : r.toModel.unpack.compare x.toModel.unpack = some .eq := by simpa using h1
  have hx' : (c.toModel.unpack.compare x.toModel.unpack).any (·.isLE) = true :=
    of_decide_eq_true hx
  show decide (c.toModel ≤ r.toModel) = true
  apply decide_eq_true
  show (c.toModel.unpack.compare r.toModel.unpack).any (·.isLE) = true
  rw [UnpackedFloat.compare_congr_right heq]
  exact hx'

namespace Yaml

section Faithful

variable [Library]

/-- The library's reader is faithful to a written text: it reads one document from it, whose
root reads the written value. -/
def Faithful (text : String) (v : Value) : Prop :=
  ∃ doc, Library.read text = .ok (some doc) ∧ doc.root.reads v = true

/-- Faithfulness to a written text, as a check that runs. -/
def faithful (text : String) (v : Value) : Bool :=
  match Library.read text with
  | .ok (some doc) => doc.root.reads v
  | _ => false

theorem faithful_iff {text : String} {v : Value} : faithful text v = true ↔ Faithful text v := by
  unfold faithful Faithful
  split
  case h_1 doc hdoc =>
    constructor
    · exact fun h => ⟨doc, hdoc, h⟩
    · rintro ⟨d, hd, h⟩
      rw [hdoc] at hd
      cases hd
      exact h
  case h_2 hnot =>
    simp only [Bool.false_eq_true, false_iff, not_exists, not_and]
    exact fun d hd _ => hnot d hd

instance (text : String) (v : Value) : Decidable (Faithful text v) :=
  decidable_of_iff _ faithful_iff

end Faithful

/-- A float comes back from its written form as a float that compares equal to it: the float
decoder gives one from every node that reads the written float. -/
def FloatReadsBack (x : Float) : Prop :=
  ∀ n : Node, n.reads (Value.ofFloat x) = true →
    ∃ y, Decoder.real n = pure (some y) ∧ (y == x) = true

/-- Zero is written `0` and read back as the integer zero, which converts to it. -/
theorem floatReadsBack_zero : FloatReadsBack 0 := by
  intro n h
  have hzero : Value.ofFloat 0 = .scalar "0" .plain := by
    unfold Value.ofFloat
    rw [show Number.general 0 = "0" by decide]
    rfl
  rw [hzero] at h
  obtain ⟨style, line, rfl⟩ := Node.reads_scalar h
  have htag : scalarTag "" "0" (chooseStyle "0" .plain false) = "!!int" := by decide
  have hstr : ("!!int" == "!!str") = false := by decide
  have hres : resolve "!!int" "0" = .ok ("!!int", .int 0) :=
    resolve_int (i := 0) (by decide) (by decide) (Or.inr rfl)
  refine ⟨Float.ofInt 0, ?_, by decide⟩
  rw [htag]
  simp only [Decoder.real, Decoder.followAlias, Decoder.resolved, hstr, hres, Bool.false_eq_true,
    ↓reduceIte, pure_bind]

end Yaml

open Yaml

/-- An integer of the signed 64-bit range. -/
def IsInt64 (i : Int) : Prop := -(Nat.pow 2 63 : Int) ≤ i ∧ i < Nat.pow 2 63

instance (i : Int) : Decidable (IsInt64 i) := inferInstanceAs (Decidable (_ ∧ _))

namespace Settings

/-- The numbers of settings are in the ranges of their types: the integers are 64-bit, and the
timeout is a 64-bit count of nanoseconds. -/
structure InRange (s : Settings) : Prop where
  fastForward : IsInt64 s.simulator.fastForward
  maxInst : IsInt64 s.simulator.maxInst
  sizes : ∀ n ∈ s.sweep.sizes.getD [], IsInt64 n
  concurrency : IsInt64 s.execution.concurrency
  maxOutputBytes : IsInt64 s.execution.maxOutputBytes
  timeout : IsInt64 s.execution.timeout.nanos

/-- What a file written from the settings holds: an absent list of benchmarks or sizes is written
empty, and families that are absent or empty are left out, so they come back absent. -/
def asWritten (s : Settings) : Settings :=
  { s with sweep :=
      { benchmarks := some (s.sweep.benchmarks.getD []), sizes := some (s.sweep.sizes.getD []),
        families := s.sweep.families.filter (!·.isEmpty) } }

@[simp] theorem asWritten_execution (s : Settings) : s.asWritten.execution = s.execution := rfl

/-- The settings with another launch rate. -/
def withLaunchRate (s : Settings) (r : Float) : Settings :=
  { s with execution := { s.execution with launchRate := r } }

/-- Settings equal as the program compares them: field by field, the launch rate as floats
compare, so that zeros of either sign are equal. -/
def Same (a b : Settings) : Prop :=
  a.withLaunchRate b.execution.launchRate = b ∧
    (a.execution.launchRate == b.execution.launchRate) = true

theorem Same.sweep_eq {a b : Settings} (h : a.Same b) : a.sweep = b.sweep :=
  congrArg (·.sweep) h.1

theorem same_withLaunchRate {s : Settings} {r : Float} (h : (r == s.execution.launchRate) = true) :
    (s.withLaunchRate r).Same s :=
  ⟨rfl, h⟩

/-- The written form does not tell empty families from absent ones. -/
theorem toYaml_asWritten (s : Settings) : s.asWritten.toYaml = s.toYaml := by
  obtain ⟨sim, ⟨b, sz, fam⟩, ex, st, tel, lg⟩ := s
  rcases fam with _ | _ | ⟨f, fs⟩ <;> rfl

/-- Settings whose benchmarks and sizes are given are what their file holds exactly when their
families are not an empty list. -/
theorem asWritten_eq_self_iff {s : Settings} {bs : List String} {ns : List Int}
    (hbs : s.sweep.benchmarks = some bs) (hns : s.sweep.sizes = some ns) :
    s.asWritten = s ↔ s.sweep.families ≠ some [] := by
  obtain ⟨sim, ⟨b, sz, fam⟩, ex, st, tel, lg⟩ := s
  simp only at hbs hns
  subst hbs hns
  rcases fam with _ | _ | ⟨f, fs⟩ <;> simp [asWritten]

/-- Empty families and absent ones break the same rules, so settings whose benchmarks and sizes
are given break the rules their file's contents break. -/
theorem problems_asWritten {s : Settings} (hbs : ∃ bs, s.sweep.benchmarks = some bs)
    (hns : ∃ ns, s.sweep.sizes = some ns) : s.asWritten.problems = s.problems := by
  obtain ⟨sim, ⟨b, sz, fam⟩, ex, st, tel, lg⟩ := s
  obtain ⟨bs, hbs⟩ := hbs
  obtain ⟨ns, hns⟩ := hns
  simp only at hbs hns
  subst hbs hns
  rcases fam with _ | _ | ⟨f, fs⟩
  · rfl
  · -- the families' rules hold of an empty list as of an absent one, and no other field's rules
    -- read the families
    simp [asWritten, problems, problemsBy, Validator.standard, fields, report, TaggedField.others,
      TaggedField.path, FieldValue.items, hasRepeat]
    rfl
  · rfl

/-- The checks see only whether the launch rate is at least zero. -/
theorem problems_withLaunchRate {s : Settings} {rate : Float} (hrate : 0 ≤ rate)
    (hs : 0 ≤ s.execution.launchRate) : (s.withLaunchRate rate).problems = s.problems := by
  -- a float's zero is the float of the natural zero
  have hkeep : ∀ x : Float, 0 ≤ x → FieldValue.atLeast 0 (.real x) = true := fun x hx => by
    simp only [FieldValue.atLeast, decide_eq_true_eq]
    exact hx
  simp [withLaunchRate, problems, problemsBy, Validator.standard, fields, report,
    TaggedField.others, TaggedField.path, hkeep _ hrate, hkeep _ hs]

/-- What the round trip needs of settings that pass their checks: the benchmarks and the sizes
are given, and the launch rate is at least zero. -/
theorem written_of_problems {s : Settings} (h : s.problems = []) :
    (∃ bs, s.sweep.benchmarks = some bs) ∧ (∃ ns, s.sweep.sizes = some ns) ∧
      0 ≤ s.execution.launchRate := by
  have hall := passes_of_problemsBy Validator.standard_lawful h
  obtain ⟨bs, hbs, -⟩ := benchmarks_of_passes (hall ⟨"Sweep", "Benchmarks",
    [.required, .min 1, .unique, .dive, .required, .excludesAll "/"], .texts s.sweep.benchmarks⟩
    (by simp [fields]))
  obtain ⟨ns, hns, -⟩ := sizes_of_passes (hall ⟨"Sweep", "Sizes",
    [.required, .min 1, .unique, .dive, .custom "tablesize"], .ints s.sweep.sizes⟩
    (by simp [fields]))
  have hrate := hall ⟨"Execution", "LaunchRate", [.gte 0], .real s.execution.launchRate⟩
    (by simp [fields])
  have hge : Float.ofNat 0 ≤ s.execution.launchRate := by
    simpa [passes] using hrate
  exact ⟨⟨bs, hbs⟩, ⟨ns, hns⟩, hge⟩

/-! ### Decoding the written sections -/

theorem update_some {α σ : Type} (v : α) (s : σ) (f : α → σ) :
    update (pure (some v)) s f = pure (f v) := rfl

theorem record_simulator {s : Settings} (hr : s.InRange) {n : Node}
    (h : n.reads (.mapping
      [("driver", .ofString s.simulator.driver), ("bench_db", .ofString s.simulator.benchDb),
       ("binary", .ofString s.simulator.binary), ("results_dir", .ofString s.simulator.resultsDir),
       ("fast_forward", .ofInt s.simulator.fastForward),
       ("max_inst", .ofInt s.simulator.maxInst)]) = true)
    (fuel : Nat) (acc : SimulatorSettings) :
    Decoder.record "config.SimulatorConfig"
      ["driver", "bench_db", "binary", "results_dir", "fast_forward", "max_inst"]
      setSimulator (fuel + 1) n acc = pure s.simulator := by
  obtain ⟨entries, line, rfl, h⟩ := Node.reads_mapping h
  rw [Decoder.record_readsEntries h (by simp) (by simp)]
  obtain ⟨_, _, n1, r, rfl, h1, h⟩ := Node.readsEntries_cons h
  obtain ⟨_, _, n2, r, rfl, h2, h⟩ := Node.readsEntries_cons h
  obtain ⟨_, _, n3, r, rfl, h3, h⟩ := Node.readsEntries_cons h
  obtain ⟨_, _, n4, r, rfl, h4, h⟩ := Node.readsEntries_cons h
  obtain ⟨_, _, n5, r, rfl, h5, h⟩ := Node.readsEntries_cons h
  obtain ⟨_, _, n6, r, rfl, h6, h⟩ := Node.readsEntries_cons h
  rw [Node.readsEntries_nil h]
  simp only [List.foldlM_cons, List.foldlM_nil, Node.keyText, setSimulator,
    Decoder.text_of_reads h1, Decoder.text_of_reads h2, Decoder.text_of_reads h3,
    Decoder.text_of_reads h4, Decoder.integer_of_reads hr.fastForward.1 hr.fastForward.2 h5,
    Decoder.integer_of_reads hr.maxInst.1 hr.maxInst.2 h6, update_some, pure_bind]

theorem record_sweep {s : Settings} (hr : s.InRange) {n : Node}
    (h : n.reads (.mapping
      ([("benchmarks", textList s.sweep.benchmarks),
        ("sizes", .sequence ((s.sweep.sizes.getD []).map Value.ofInt))] ++
        match s.sweep.families with
        | some (f :: fs) => [("families", textList (some (f :: fs)))]
        | _ => [])) = true)
    (fuel : Nat) (acc : SweepSettings) :
    Decoder.record "config.SweepConfig" ["benchmarks", "sizes", "families"] setSweep (fuel + 1) n
      acc =
      pure { benchmarks := some (s.sweep.benchmarks.getD []), sizes := some (s.sweep.sizes.getD []),
             families := (s.sweep.families.filter (!·.isEmpty)).or acc.families } := by
  have hb : ∀ x ∈ s.sweep.benchmarks.getD [], ∀ m : Node, m.reads (Value.ofString x) = true →
      Decoder.text m = pure (some x) := fun _ _ _ hm => Decoder.text_of_reads hm
  have hs : ∀ x ∈ s.sweep.sizes.getD [], ∀ m : Node, m.reads (Value.ofInt x) = true →
      Decoder.integer "int" m = pure (some x) := fun x hx _ hm =>
    Decoder.integer_of_reads (hr.sizes x hx).1 (hr.sizes x hx).2 hm "int"
  obtain ⟨entries, line, rfl, h⟩ := Node.reads_mapping h
  -- the families are written only when some are given
  rcases hf : s.sweep.families with _ | _ | ⟨f, fs⟩ <;> simp only [hf] at h <;>
    rw [Decoder.record_readsEntries h (by simp) (by simp)] <;>
    obtain ⟨_, _, n1, r, rfl, h1, h⟩ := Node.readsEntries_cons h <;>
    obtain ⟨_, _, n2, r, rfl, h2, h⟩ := Node.readsEntries_cons h
  case none | some.nil =>
    rw [Node.readsEntries_nil h]
    simp only [List.foldlM_cons, List.foldlM_nil, Node.keyText, setSweep,
      Decoder.list_of_reads hb h1, Decoder.list_of_reads hs h2, update_some, pure_bind]
    rfl
  case some.cons =>
    obtain ⟨_, _, n3, r, rfl, h3, h⟩ := Node.readsEntries_cons h
    rw [Node.readsEntries_nil h]
    have hfam : ∀ x ∈ f :: fs, ∀ m : Node, m.reads (Value.ofString x) = true →
        Decoder.text m = pure (some x) := fun _ _ _ hm => Decoder.text_of_reads hm
    simp only [List.foldlM_cons, List.foldlM_nil, Node.keyText, setSweep,
      Decoder.list_of_reads hb h1, Decoder.list_of_reads hs h2, Decoder.list_of_reads hfam h3,
      update_some, pure_bind]
    rfl

/-- The written form of a duration is neither empty nor the lone zero, which the decoder would
take for no limit without reading it. -/
theorem render_ne_blank {d : Duration} (hd : IsInt64 d.nanos) :
    (d.render == "" || d.render == "0") = false := by
  have hts := readable_writtenTerms (show d.nanos.natAbs ≤ durationLimit by
    have := hd.1
    have := hd.2
    unfold durationLimit
    omega)
  obtain ⟨c, cs, hbody, -, hzero⟩ := DurationTerm.flatMap_text_cons (writtenTerms_ne_nil _) hts
  have htext := render_toList d
  rw [hbody] at htext
  have hempty : d.render ≠ "" := by
    intro h
    rw [h] at htext
    split at htext <;> simp at htext
  have hzero' : d.render ≠ "0" := by
    intro h
    rw [h] at htext
    split at htext
    · simp at htext
    · exact hzero (by simpa using htext.symm)
  simp [hempty, hzero']

/-- A timeout is read back as written, and refused when negative. -/
theorem decodeTimeout_of_reads {n : Node} {d : Duration} (hd : IsInt64 d.nanos)
    (h : n.reads (Value.ofString d.render) = true) (current : Duration) :
    decodeTimeout n current =
      if d.nanos < 0 then throw ("line " ++ toString n.line ++ ": duration must not be negative")
      else pure d := by
  rw [Value.ofString_scalar] at h
  obtain ⟨style, line, rfl⟩ := Node.reads_scalar h
  rw [scalarTag_ofString]
  have hnull : ("!!str" == "!!null") = false := by decide
  simp only [decodeTimeout, Decoder.followAlias, Node.tag, hnull, Bool.false_eq_true, ↓reduceIte,
    Decoder.text_str, Decoder.isolated_pure, pure_bind, render_ne_blank hd,
    parse_render d hd.1 hd.2, Node.line]

theorem record_execution {s : Settings} (hr : s.InRange)
    (hfloat : FloatReadsBack s.execution.launchRate) {n : Node}
    (h : n.reads (.mapping
      [("concurrency", .ofInt s.execution.concurrency),
       ("timeout", .ofString s.execution.timeout.render),
       ("launch_rate", .ofFloat s.execution.launchRate),
       ("max_output_bytes", .ofInt s.execution.maxOutputBytes)]) = true) (fuel : Nat) :
    ∃ (line : Nat) (r : Float), (r == s.execution.launchRate) = true ∧
      ∀ acc : ExecutionSettings,
        Decoder.record "config.ExecutionConfig"
          ["concurrency", "timeout", "launch_rate", "max_output_bytes"] setExecution (fuel + 1) n
          acc =
          if s.execution.timeout.nanos < 0 then
            throw ("line " ++ toString line ++ ": duration must not be negative")
          else pure { s.execution with launchRate := r } := by
  obtain ⟨entries, line, rfl, hes⟩ := Node.reads_mapping h
  obtain ⟨_, _, n1, r, rfl, h1, h⟩ := Node.readsEntries_cons hes
  obtain ⟨_, _, n2, r, rfl, h2, h⟩ := Node.readsEntries_cons h
  obtain ⟨_, _, n3, r, rfl, h3, h⟩ := Node.readsEntries_cons h
  obtain ⟨_, _, n4, r, rfl, h4, h⟩ := Node.readsEntries_cons h
  obtain ⟨rate, hrate, hsame⟩ := hfloat n3 h3
  -- the failure names the line of the timeout's value
  refine ⟨n2.line, rate, hsame, fun acc => ?_⟩
  rw [Decoder.record_readsEntries hes (by simp) (by simp), Node.readsEntries_nil h]
  simp only [List.foldlM_cons, List.foldlM_nil, Node.keyText, setExecution,
    Decoder.integer_of_reads hr.concurrency.1 hr.concurrency.2 h1,
    decodeTimeout_of_reads hr.timeout h2, hrate,
    Decoder.integer_of_reads hr.maxOutputBytes.1 hr.maxOutputBytes.2 h4, update_some, pure_bind]
  by_cases hneg : s.execution.timeout.nanos < 0
  case pos => simp only [hneg, ↓reduceIte, Decoder.throw_bind]
  case neg => simp only [hneg, ↓reduceIte, pure_bind]

theorem record_store {s : Settings} {n : Node}
    (h : n.reads (.mapping [("path", .ofString s.store.path), ("resume", .ofBool s.store.resume)]) =
      true) (fuel : Nat) (acc : StoreSettings) :
    Decoder.record "config.StoreConfig" ["path", "resume"] setStore (fuel + 1) n acc =
      pure s.store := by
  obtain ⟨entries, line, rfl, h⟩ := Node.reads_mapping h
  rw [Decoder.record_readsEntries h (by simp) (by simp)]
  obtain ⟨_, _, n1, r, rfl, h1, h⟩ := Node.readsEntries_cons h
  obtain ⟨_, _, n2, r, rfl, h2, h⟩ := Node.readsEntries_cons h
  rw [Node.readsEntries_nil h]
  simp only [List.foldlM_cons, List.foldlM_nil, Node.keyText, setStore,
    Decoder.text_of_reads h1, Decoder.flag_of_reads h2, update_some, pure_bind]

theorem record_telemetry {s : Settings} {n : Node}
    (h : n.reads (.mapping
      [("service_name", .ofString s.telemetry.serviceName),
       ("traces", .ofString s.telemetry.traces), ("metrics", .ofString s.telemetry.metrics),
       ("otlp_endpoint", .ofString s.telemetry.otlpEndpoint)]) = true)
    (fuel : Nat) (acc : TelemetrySettings) :
    Decoder.record "config.TelemetryConfig" ["service_name", "traces", "metrics", "otlp_endpoint"]
      setTelemetry (fuel + 1) n acc = pure s.telemetry := by
  obtain ⟨entries, line, rfl, h⟩ := Node.reads_mapping h
  rw [Decoder.record_readsEntries h (by simp) (by simp)]
  obtain ⟨_, _, n1, r, rfl, h1, h⟩ := Node.readsEntries_cons h
  obtain ⟨_, _, n2, r, rfl, h2, h⟩ := Node.readsEntries_cons h
  obtain ⟨_, _, n3, r, rfl, h3, h⟩ := Node.readsEntries_cons h
  obtain ⟨_, _, n4, r, rfl, h4, h⟩ := Node.readsEntries_cons h
  rw [Node.readsEntries_nil h]
  simp only [List.foldlM_cons, List.foldlM_nil, Node.keyText, setTelemetry,
    Decoder.text_of_reads h1, Decoder.text_of_reads h2, Decoder.text_of_reads h3,
    Decoder.text_of_reads h4, update_some, pure_bind]

theorem record_logging {s : Settings} {n : Node}
    (h : n.reads (.mapping
      [("level", .ofString s.logging.level), ("dir", .ofString s.logging.dir),
       ("json", .ofBool s.logging.json)]) = true)
    (fuel : Nat) (acc : LoggingSettings) :
    Decoder.record "config.LoggingConfig" ["level", "dir", "json"] setLogging (fuel + 1) n acc =
      pure s.logging := by
  obtain ⟨entries, line, rfl, h⟩ := Node.reads_mapping h
  rw [Decoder.record_readsEntries h (by simp) (by simp)]
  obtain ⟨_, _, n1, r, rfl, h1, h⟩ := Node.readsEntries_cons h
  obtain ⟨_, _, n2, r, rfl, h2, h⟩ := Node.readsEntries_cons h
  obtain ⟨_, _, n3, r, rfl, h3, h⟩ := Node.readsEntries_cons h
  rw [Node.readsEntries_nil h]
  simp only [List.foldlM_cons, List.foldlM_nil, Node.keyText, setLogging,
    Decoder.text_of_reads h1, Decoder.text_of_reads h2, Decoder.flag_of_reads h3, update_some,
    pure_bind]

theorem fuelFor_pos (doc : Document) : 0 < Decoder.fuelFor doc :=
  Nat.mul_pos (Nat.succ_pos _) (Nat.succ_pos _)

/-- A document whose root reads the written settings decodes over the defaults to what the file
holds, with a launch rate equal to the written one as floats compare; a negative timeout fails,
naming its line. -/
theorem decode_of_reads {s : Settings} (hr : s.InRange)
    (hfloat : FloatReadsBack s.execution.launchRate) {doc : Document}
    (h : doc.root.reads s.toYaml = true) :
    ∃ (line : Nat) (r : Float), (r == s.execution.launchRate) = true ∧
      decode doc defaults =
        if s.execution.timeout.nanos < 0 then
          .error ("line " ++ toString line ++ ": duration must not be negative")
        else .ok (s.asWritten.withLaunchRate r) := by
  obtain ⟨fuel, hfuel⟩ := Nat.exists_eq_succ_of_ne_zero (Nat.pos_iff_ne_zero.mp (fuelFor_pos doc))
  simp only [toYaml] at h
  obtain ⟨entries, line, hroot, hes⟩ := Node.reads_mapping h
  obtain ⟨_, _, n1, r, rfl, h1, h⟩ := Node.readsEntries_cons hes
  obtain ⟨_, _, n2, r, rfl, h2, h⟩ := Node.readsEntries_cons h
  obtain ⟨_, _, n3, r, rfl, h3, h⟩ := Node.readsEntries_cons h
  obtain ⟨_, _, n4, r, rfl, h4, h⟩ := Node.readsEntries_cons h
  obtain ⟨_, _, n5, r, rfl, h5, h⟩ := Node.readsEntries_cons h
  obtain ⟨_, _, n6, r, rfl, h6, h⟩ := Node.readsEntries_cons h
  obtain ⟨tline, rate, hsame, hex⟩ := record_execution hr hfloat h3 fuel
  refine ⟨tline, rate, hsame, ?_⟩
  unfold decode
  simp only [hfuel, hroot]
  rw [Decoder.record_readsEntries hes (by simp) (by simp), Node.readsEntries_nil h]
  simp only [List.foldlM_cons, List.foldlM_nil, Node.keyText, setSection,
    record_simulator hr h1, record_sweep hr h2, hex, record_store h4, record_telemetry h5,
    record_logging h6, pure_bind]
  by_cases hneg : s.execution.timeout.nanos < 0
  case pos => simp only [hneg, ↓reduceIte, Decoder.throw_bind, Decoder.runOn_throw]
  case neg =>
    have hfam : defaults.sweep.families = none := rfl
    simp only [hneg, ↓reduceIte, pure_bind, Decoder.runOn_pure, hfam, Option.or_none]
    rfl

/-! ### Loading written settings -/

section Load

variable [Library]

-- `load` is opened through its unfolding, not its equation lemmas, whose generation is slow.
theorem load_file_of_decode_ok {path text : String} {doc : Document} {s : Settings}
    (hread : Library.read text = .ok (some doc)) (hdec : decode doc defaults = .ok s) :
    load (.file path text) = s.checked := by
  rw [load.eq_def]
  simp only [hread, hdec]

theorem load_file_of_decode_error {path text : String} {doc : Document} {m : String}
    (hread : Library.read text = .ok (some doc)) (hdec : decode doc defaults = .error m) :
    load (.file path text) = .error (.unparsable path m) := by
  rw [load.eq_def]
  simp only [hread, hdec]

variable {s : Settings} (hvalid : s.problems = []) (hr : s.InRange)
  (hyaml : Faithful s.render s.toYaml) (hfloat : FloatReadsBack s.execution.launchRate)
include hvalid hr hyaml hfloat

/-- With a timeout that is not negative, loading gives back what the file holds, with a launch
rate equal to the written one as floats compare. -/
theorem load_render_of_nonneg (path : String) (ht : 0 ≤ s.execution.timeout.nanos) :
    ∃ r, (r == s.execution.launchRate) = true ∧
      load (.file path s.render) = .ok (s.asWritten.withLaunchRate r) := by
  obtain ⟨doc, hread, hroot⟩ := hyaml
  obtain ⟨line, rate, hsame, hdec⟩ := decode_of_reads hr hfloat hroot
  obtain ⟨hbs, hns, hnonneg⟩ := written_of_problems hvalid
  -- the launch rate read back compares equal to the written one, so it passes the checks too
  have hrate : 0 ≤ rate := Float.le_of_beq hsame hnonneg
  rw [← asWritten_execution] at hnonneg
  have hprob : (s.asWritten.withLaunchRate rate).problems = [] := by
    rw [problems_withLaunchRate hrate hnonneg, problems_asWritten hbs hns, hvalid]
  rw [if_neg (Int.not_lt.mpr ht)] at hdec
  refine ⟨rate, hsame, ?_⟩
  rw [load_file_of_decode_ok hread hdec, checked, hprob]

omit hvalid in
/-- With a negative timeout, loading fails, naming the line of the timeout. -/
theorem load_render_of_neg (path : String) (ht : s.execution.timeout.nanos < 0) :
    ∃ line : Nat, load (.file path s.render) =
      .error (.unparsable path ("line " ++ toString line ++ ": duration must not be negative")) := by
  obtain ⟨doc, hread, hroot⟩ := hyaml
  obtain ⟨line, r, -, hdec⟩ := decode_of_reads hr hfloat hroot
  rw [if_pos ht] at hdec
  exact ⟨line, load_file_of_decode_error hread hdec⟩

/-- Settings that pass their checks, written to a file and loaded back: with a timeout that is not
negative they come back as the file holds them, the same settings but for families given as an
empty list, which come back absent; a negative timeout, which the checks let through, is written
but refused, naming its line. So loading gives back settings equal to those written exactly when
the timeout is not negative and the families are not an empty list. The format's reader is taken
to be faithful to its writer, and to read a float back as one equal to it. -/
theorem load_render (path : String) :
    (0 ≤ s.execution.timeout.nanos →
      ∃ s', load (.file path s.render) = .ok s' ∧ s'.Same s.asWritten) ∧
    (s.execution.timeout.nanos < 0 → ∃ line : Nat, load (.file path s.render) =
      .error (.unparsable path ("line " ++ toString line ++ ": duration must not be negative"))) ∧
    ((∃ s', load (.file path s.render) = .ok s' ∧ s'.Same s) ↔
      0 ≤ s.execution.timeout.nanos ∧ s.sweep.families ≠ some []) := by
  obtain ⟨⟨bs, hbs⟩, ⟨ns, hns⟩, -⟩ := written_of_problems hvalid
  have hpos : 0 ≤ s.execution.timeout.nanos →
      ∃ s', load (.file path s.render) = .ok s' ∧ s'.Same s.asWritten := by
    intro ht
    obtain ⟨r, hsame, hload⟩ := load_render_of_nonneg hvalid hr hyaml hfloat path ht
    exact ⟨_, hload, same_withLaunchRate hsame⟩
  have hneg := load_render_of_neg hr hyaml hfloat path
  refine ⟨hpos, hneg, ⟨fun ⟨s', hload, hsame⟩ => ?_, fun ⟨ht, hf⟩ => ?_⟩⟩
  · by_cases ht : 0 ≤ s.execution.timeout.nanos
    case pos =>
      -- what came back has the written families, which are those of the settings
      obtain ⟨s'', hload', hsame'⟩ := hpos ht
      rw [hload] at hload'
      cases hload'
      have hsweep := hsame'.sweep_eq.symm.trans hsame.sweep_eq
      refine ⟨ht, fun hf => ?_⟩
      have := congrArg SweepSettings.families hsweep
      simp [asWritten, hf] at this
    case neg =>
      obtain ⟨line, hl⟩ := hneg (Int.lt_of_not_ge ht)
      rw [hl] at hload
      cases hload
  · obtain ⟨s', hload, hsame⟩ := hpos ht
    rw [(asWritten_eq_self_iff hbs hns).mpr hf] at hsame
    exact ⟨s', hload, hsame⟩

end Load

/-- Small settings that pass their checks: one-letter tool paths, one benchmark at the least
table size, no limits, and no exporter or log level named. -/
def minimal : Settings where
  simulator :=
    { driver := "d", benchDb := "b", binary := "s", resultsDir := "r", fastForward := 0,
      maxInst := 1 }
  sweep := { benchmarks := some ["g"], sizes := some [8], families := none }
  execution := { concurrency := 0, timeout := ⟨0⟩, launchRate := 0, maxOutputBytes := 0 }
  store := { path := "", resume := false }
  telemetry := { serviceName := "", traces := "", metrics := "", otlpEndpoint := "" }
  logging := { level := "", dir := "", json := false }

set_option maxRecDepth 100000 in
/-- The reader reads the written small settings back: the one run of the reader over a whole
written file that the statements below rest on. -/
theorem faithful_minimal : Faithful minimal.render minimal.toYaml :=
  faithful_iff.mp (by decide +kernel)

theorem inRange_minimal : minimal.InRange :=
  ⟨by decide, by decide, by decide, by decide, by decide, by decide⟩

/-- The small settings pass their checks, and loading their file gives them back. -/
theorem load_render_minimal :
    minimal.problems = [] ∧ minimal.InRange ∧ Faithful minimal.render minimal.toYaml ∧
      FloatReadsBack minimal.execution.launchRate ∧
      ∃ s', load (.file "bpsweep.yaml" minimal.render) = .ok s' ∧ s'.Same minimal := by
  have hvalid : minimal.problems = [] := by rfl
  refine ⟨hvalid, inRange_minimal, faithful_minimal, floatReadsBack_zero, ?_⟩
  exact (load_render hvalid inRange_minimal faithful_minimal floatReadsBack_zero
    "bpsweep.yaml").2.2.mpr ⟨by decide, by decide⟩

/-- The small settings with an empty list of families pass their checks, but their file leaves
the families out, and loading it does not give them back. -/
theorem load_render_drops_empty_families :
    ({ minimal with sweep.families := some [] } : Settings).problems = [] ∧
      ¬ ∃ s', load (.file "bpsweep.yaml" ({ minimal with sweep.families := some [] } : Settings).render)
          = .ok s' ∧ s'.Same { minimal with sweep.families := some [] } := by
  have hvalid : ({ minimal with sweep.families := some [] } : Settings).problems = [] := by rfl
  -- the settings are written as the small settings are
  have hyaml : Faithful ({ minimal with sweep.families := some [] } : Settings).render
      ({ minimal with sweep.families := some [] } : Settings).toYaml := by
    have hwritten : ({ minimal with sweep.families := some [] } : Settings).toYaml =
        minimal.toYaml :=
      (toYaml_asWritten _).symm
    rw [render, hwritten]
    exact faithful_minimal
  have hr : ({ minimal with sweep.families := some [] } : Settings).InRange :=
    ⟨by decide, by decide, by decide, by decide, by decide, by decide⟩
  refine ⟨hvalid, ?_⟩
  rintro ⟨s', hload, hsame⟩
  obtain ⟨rate, -, hload'⟩ := load_render_of_nonneg hvalid hr hyaml
    floatReadsBack_zero "bpsweep.yaml" (by decide)
  rw [hload'] at hload
  cases hload
  -- what comes back has no families, the settings an empty list
  have hfam := congrArg SweepSettings.families hsame.sweep_eq
  simp [asWritten, withLaunchRate] at hfam

end Settings

end PredictorSweep
