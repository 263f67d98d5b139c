import PredictorSweep.Proofs.Store
/-!
# Reading metrics from a report, against its grammar

A report is read line by line, the lines being the pieces of its text between line feeds. A line
states a statistic when it is made of optional spaces and tabs, a name of the statistic, at least
one space or tab, and a value: a run of one or more characters other than spaces, tabs, line
feeds, form feeds and carriage returns, as long as it goes. The instructions-per-cycle statistic
is named `sim_IPC`; each predictor statistic is named `bpred_`, one or more ASCII letters, digits
or underscores, a dot, and the statistic's own name. A metric's value is the value text of the
first line that states its statistic, read as a number; the metric is read when that number is
finite.

Parsing a report puts every metric either in the record, with the value read, or in exactly one
parse diagnostic naming it, in metric order; the diagnostic says the pattern was not found exactly
when no line states the metric. So every value in a parsed record is finite.

Main statements:

* `StatName.States`, `StatName.FirstValue`: the grammar of a report line, and the first value;
* `valueOfLine?_eq_some_iff`: the value a line gives is the one it states;
* `Metric.lookup_eq_ok_iff`, `Metric.lookup_eq_notFound_iff`: reading a metric, against the
  grammar;
* `parseReport_reads_grammar`: what parsing a report gives, metric by metric.
-/

namespace PredictorSweep

/-! ## The grammar of a report line -/

/-- The characters that end a value: space, tab, line feed, form feed and carriage return. -/
def valueEnds : List Char := [' ', '\t', '\n', '\x0c', '\r']

/-- The names a statistic goes by: its fixed name, or `bpred_`, one or more ASCII letters,
digits or underscores, a dot, and the statistic's own name. -/
def StatName.Names : StatName → List Char → Prop
  | .exact s, name => name = s.toList
  | .predictor suffix, name =>
    ∃ w, w ≠ [] ∧ (∀ c ∈ w, c.isAlphanum = true ∨ c = '_') ∧
      name = "bpred_".toList ++ w ++ '.' :: suffix.toList

/-- A line states a statistic with value text `v`: optional spaces and tabs, a name of the
statistic, at least one space or tab, then `v`, one or more characters that do not end a value,
up to the end of the line or a character that does. -/
def StatName.States (n : StatName) (line v : List Char) : Prop :=
  ∃ lead name gap rest, line = lead ++ (name ++ (gap ++ (v ++ rest))) ∧
    (∀ c ∈ lead, c = ' ' ∨ c = '\t') ∧ n.Names name ∧
    gap ≠ [] ∧ (∀ c ∈ gap, c = ' ' ∨ c = '\t') ∧
    v ≠ [] ∧ (∀ c ∈ v, c ∉ valueEnds) ∧ (∀ c ∈ rest.head?, c ∈ valueEnds)

/-- The value text of a statistic in a report: the one stated by the first line that states the
statistic. -/
def StatName.FirstValue (n : StatName) (report : String) (v : List Char) : Prop :=
  ∃ before line after, report.toList.splitOn '\n' = before ++ line :: after ∧
    (∀ l ∈ before, ∀ u, ¬n.States l u) ∧ n.States line v

/-! ## Character classes -/

theorem isBlank_eq_true_iff {c : Char} : isBlank c = true ↔ c = ' ' ∨ c = '\t' := by
  simp [isBlank]

theorem endsValue_eq_true_iff {c : Char} : endsValue c = true ↔ c ∈ valueEnds := by
  simp [endsValue, valueEnds, or_assoc]

theorem endsValue_eq_false_iff {c : Char} : endsValue c = false ↔ c ∉ valueEnds := by
  rw [← endsValue_eq_true_iff, Bool.not_eq_true]

theorem isWordChar_eq_true_iff {c : Char} :
    isWordChar c = true ↔ c.isAlphanum = true ∨ c = '_' := by
  -- unfolded by delta: the character classes are small boolean formulas over code points
  delta Char.isAlphanum Char.isAlpha Char.isUpper Char.isLower Char.isDigit
  simp only [isWordChar, Bool.or_eq_true, Bool.and_eq_true, decide_eq_true_eq, Char.le_def,
    UInt32.le_iff_toNat_le, Char.ext_iff, ← UInt32.toNat_inj]
  have h0 : ('0' : Char).val.toNat = 48 := rfl
  have h9 : ('9' : Char).val.toNat = 57 := rfl
  have ha : ('a' : Char).val.toNat = 97 := rfl
  have hz : ('z' : Char).val.toNat = 122 := rfl
  have hA : ('A' : Char).val.toNat = 65 := rfl
  have hZ : ('Z' : Char).val.toNat = 90 := rfl
  have hu : ('_' : Char).val.toNat = 95 := rfl
  constructor <;> intro h <;> omega

/-- A character that does not end a value is no blank. -/
theorem isBlank_of_not_mem_valueEnds {c : Char} (h : c ∉ valueEnds) : isBlank c = false := by
  cases hb : isBlank c
  · rfl
  · rcases isBlank_eq_true_iff.mp hb with rfl | rfl <;> simp [valueEnds] at h

/-! ## Names -/

theorem drop_length_takeWhile {α : Type} (p : α → Bool) (l : List α) :
    l.drop (l.takeWhile p).length = l.dropWhile p := by
  have hsplit := List.takeWhile_append_dropWhile (p := p) (l := l)
  calc l.drop (l.takeWhile p).length
      = (l.takeWhile p ++ l.dropWhile p).drop (l.takeWhile p).length := by rw [hsplit]
    _ = l.dropWhile p := List.drop_left

/-- Stripping a statistic's name off the front of a line succeeds exactly when the line starts
with one of its names, and leaves what follows the name. -/
theorem StatName.strip_eq_some_iff (n : StatName) (cs rest : List Char) :
    n.strip cs = some rest ↔ ∃ name, n.Names name ∧ cs = name ++ rest := by
  cases n with
  | exact s =>
    simp only [StatName.strip, StatName.Names, exists_eq_left]
    constructor
    · intro h
      split at h
      · next hpre =>
        obtain ⟨t, rfl⟩ := List.isPrefixOf_iff_prefix.mp hpre
        cases h
        rw [← String.length_toList, List.drop_left]
      · cases h
    · rintro rfl
      rw [if_pos (List.isPrefixOf_iff_prefix.mpr (List.prefix_append _ _)), ← String.length_toList,
        List.drop_left]
  | predictor suffix =>
    simp only [StatName.strip, StatName.Names]
    constructor
    · intro h
      split at h
      · next hhead =>
        obtain ⟨r, rfl⟩ := List.isPrefixOf_iff_prefix.mp hhead
        rw [List.drop_left] at h
        split at h
        · next hword =>
          obtain ⟨hne, htail⟩ := Bool.and_eq_true_iff.mp hword
          obtain ⟨t, ht⟩ := List.isPrefixOf_iff_prefix.mp htail
          cases h
          rw [drop_length_takeWhile] at ht ⊢
          -- the name is `bpred_`, the run of word characters, a dot and the suffix
          refine ⟨_, ⟨r.takeWhile isWordChar, by simpa using hne, fun c hc => ?_, rfl⟩, ?_⟩
          · exact isWordChar_eq_true_iff.mp (List.all_eq_true.mp List.all_takeWhile c hc)
          · conv_lhs => rw [← List.takeWhile_append_dropWhile (p := isWordChar) (l := r)]
            rw [← ht, show List.drop ('.' :: suffix.toList).length ('.' :: suffix.toList ++ t) = t
              from List.drop_left]
            simp
        · cases h
      · cases h
    · rintro ⟨_, ⟨w, hne, hw, rfl⟩, rfl⟩
      have hprefix : ("bpred_".toList).isPrefixOf
          ("bpred_".toList ++ w ++ '.' :: suffix.toList ++ rest) = true :=
        List.isPrefixOf_iff_prefix.mpr (by simp [List.append_assoc])
      have hafter : ("bpred_".toList ++ w ++ '.' :: suffix.toList ++ rest).drop
          "bpred_".toList.length = w ++ '.' :: (suffix.toList ++ rest) := by
        rw [List.append_assoc, List.append_assoc, List.drop_left, List.cons_append]
      -- the word run stops at the dot
      have hrun : (w ++ '.' :: (suffix.toList ++ rest)).takeWhile isWordChar = w := by
        rw [List.takeWhile_append_of_pos (p := isWordChar)
          (fun c hc => isWordChar_eq_true_iff.mpr (hw c hc)),
          List.takeWhile_cons_of_neg (p := isWordChar) (by decide), List.append_nil]
      have htail : ('.' :: suffix.toList).isPrefixOf ('.' :: (suffix.toList ++ rest)) = true :=
        List.isPrefixOf_iff_prefix.mpr ⟨rest, by simp⟩
      have hne' : (!w.isEmpty) = true := by simpa using hne
      rw [if_pos hprefix, hafter, hrun, List.drop_left]
      simp [hne', htail]

/-! ## One line -/

section Line

variable {n : StatName}

/-- What a line gives, read back in the grammar: blanks, the name, blanks, the value, and the
rest of the line. -/
theorem valueOfLine?_spec {line : List Char} {v : String} (h : valueOfLine? n line = some v) :
    n.States line v.toList := by
  unfold valueOfLine? at h
  split at h
  · cases h
  · next rest hstrip =>
    obtain ⟨name, hname, hline⟩ := (n.strip_eq_some_iff _ rest).mp hstrip
    dsimp only at h
    split at h
    · cases h
    · next hok =>
      cases h
      rw [String.toList_ofList, drop_length_takeWhile]
      simp only [Bool.or_eq_true, not_or, Bool.not_eq_true, List.isEmpty_eq_false_iff] at hok
      refine ⟨line.takeWhile isBlank, name, rest.takeWhile isBlank,
        (rest.dropWhile isBlank).dropWhile (fun c => !endsValue c), ?_, fun c hc => ?_, hname,
        ?_, fun c hc => ?_, ?_, fun c hc => ?_, ?_⟩
      · -- the line splits at the end of each part
        rw [List.takeWhile_append_dropWhile, List.takeWhile_append_dropWhile, ← hline,
          List.takeWhile_append_dropWhile]
      · exact isBlank_eq_true_iff.mp (List.all_eq_true.mp List.all_takeWhile c hc)
      · simpa [drop_length_takeWhile] using hok.1
      · exact isBlank_eq_true_iff.mp (List.all_eq_true.mp List.all_takeWhile c hc)
      · simpa [drop_length_takeWhile] using hok.2
      · exact endsValue_eq_false_iff.mp (by simpa using List.all_eq_true.mp List.all_takeWhile c hc)
      · -- what follows the value starts with a character that ends it
        intro c hc
        have hnot := List.head?_dropWhile_not (fun c => !endsValue c) (rest.dropWhile isBlank)
        rw [hc] at hnot
        exact endsValue_eq_true_iff.mp (by simpa using hnot)

/-- A line that states a value gives it, for a statistic whose names start with a character other
than a space or a tab. -/
theorem valueOfLine?_of_states
    (hn : ∀ name, n.Names name → ∃ c t, name = c :: t ∧ isBlank c = false)
    {line v : List Char} (h : n.States line v) : valueOfLine? n line = some (String.ofList v) := by
  obtain ⟨lead, name, gap, rest, rfl, hlead, hname, hgap, hgapb, hv, hvc, hrest⟩ := h
  obtain ⟨c, t, rfl, hc⟩ := hn name hname
  -- the blanks in front stop at the name
  have hdrop : (lead ++ (c :: t ++ (gap ++ (v ++ rest)))).dropWhile isBlank =
      c :: t ++ (gap ++ (v ++ rest)) := by
    rw [List.dropWhile_append_of_pos (fun a ha => isBlank_eq_true_iff.mpr (hlead a ha)),
      List.cons_append, List.dropWhile_cons_of_neg (by simp [hc])]
  have hstrip : n.strip (c :: t ++ (gap ++ (v ++ rest))) = some (gap ++ (v ++ rest)) :=
    (n.strip_eq_some_iff _ _).mpr ⟨c :: t, hname, rfl⟩
  -- the gap stops at the value, and the value at what follows it
  obtain ⟨d, u, rfl⟩ := List.exists_cons_of_ne_nil hv
  have hd : isBlank d = false := isBlank_of_not_mem_valueEnds (hvc d (by simp))
  have hgapRun : (gap ++ (d :: u ++ rest)).takeWhile isBlank = gap := by
    rw [List.takeWhile_append_of_pos (fun a ha => isBlank_eq_true_iff.mpr (hgapb a ha)),
      List.cons_append, List.takeWhile_cons_of_neg (by simp [hd]), List.append_nil]
  have hvalueRun : (d :: u ++ rest).takeWhile (fun c => !endsValue c) = d :: u := by
    rw [List.takeWhile_append_of_pos (p := fun c => !endsValue c)
      (fun a ha => by simpa using endsValue_eq_false_iff.mpr (hvc a ha))]
    cases rest with
    | nil => simp
    | cons e r =>
      have he : e ∈ valueEnds := hrest e rfl
      rw [List.takeWhile_cons_of_neg (by simpa [endsValue_eq_true_iff] using he), List.append_nil]
  have hg : gap.isEmpty = false := List.isEmpty_eq_false_iff.mpr hgap
  unfold valueOfLine?
  rw [hdrop, hstrip]
  dsimp only
  rw [hgapRun, List.drop_left, hvalueRun]
  simp [hg]

theorem valueOfLine?_eq_some_iff
    (hn : ∀ name, n.Names name → ∃ c t, name = c :: t ∧ isBlank c = false)
    (line : List Char) (v : String) : valueOfLine? n line = some v ↔ n.States line v.toList :=
  ⟨valueOfLine?_spec, fun h => by simpa using valueOfLine?_of_states hn h⟩

theorem valueOfLine?_eq_none_iff
    (hn : ∀ name, n.Names name → ∃ c t, name = c :: t ∧ isBlank c = false)
    (line : List Char) : valueOfLine? n line = none ↔ ∀ u, ¬n.States line u := by
  constructor
  · intro h u hu
    rw [valueOfLine?_of_states hn hu] at h
    cases h
  · intro h
    cases hv : valueOfLine? n line with
    | none => rfl
    | some v => exact absurd (valueOfLine?_spec hv) (h _)

end Line

/-- Every name of a metric's statistic starts with `s` or `b`. -/
theorem Metric.names_head (m : Metric) :
    ∀ name, m.stat.Names name → ∃ c t, name = c :: t ∧ isBlank c = false := by
  have hb : "bpred_".toList = 'b' :: "pred_".toList := by decide +kernel
  intro name hname
  cases m <;> simp only [Metric.stat, StatName.Names] at hname
  case ipc =>
    subst hname
    exact ⟨'s', "im_IPC".toList, by decide +kernel, rfl⟩
  all_goals
    obtain ⟨w, -, -, rfl⟩ := hname
    exact ⟨'b', _, by rw [hb, List.cons_append, List.cons_append], rfl⟩

/-! ## The first line that states a metric -/

/-- The value text a report gives for a metric is the one of the first line that states it. -/
theorem valueText?_eq_some_iff (m : Metric) (report v : String) :
    valueText? m.stat report = some v ↔ m.stat.FirstValue report v.toList := by
  unfold valueText? StatName.FirstValue
  rw [List.findSome?_eq_some_iff]
  constructor
  · rintro ⟨before, line, after, hsplit, hline, hbefore⟩
    exact ⟨before, line, after, hsplit,
      fun l hl => (valueOfLine?_eq_none_iff m.names_head l).mp (hbefore l hl),
      (valueOfLine?_eq_some_iff m.names_head line v).mp hline⟩
  · rintro ⟨before, line, after, hsplit, hbefore, hline⟩
    exact ⟨before, line, after, hsplit, (valueOfLine?_eq_some_iff m.names_head line v).mpr hline,
      fun l hl => (valueOfLine?_eq_none_iff m.names_head l).mpr (hbefore l hl)⟩

theorem valueText?_eq_none_iff (m : Metric) (report : String) :
    valueText? m.stat report = none ↔
      ∀ l ∈ report.toList.splitOn '\n', ∀ u, ¬m.stat.States l u := by
  unfold valueText?
  rw [List.findSome?_eq_none_iff]
  exact forall₂_congr fun l _ => valueOfLine?_eq_none_iff m.names_head l

/-- A metric is read with value `x` exactly when the value text of the first line stating it
reads as the number `x`, and `x` is finite. -/
theorem Metric.lookup_eq_ok_iff (m : Metric) (report : String) (x : Float) :
    m.lookup report = .ok x ↔ ∃ v, m.stat.FirstValue report v ∧
      Number.readFloat (String.ofList v) = .ok x ∧ isFinite x = true := by
  unfold Metric.lookup
  constructor
  · intro h
    split at h
    · cases h
    · next t ht =>
      split at h
      · cases h
      · next y hy =>
        split at h
        · next hfin =>
          cases h
          exact ⟨t.toList, (valueText?_eq_some_iff m report t).mp ht, by simpa using hy, hfin⟩
        · cases h
  · rintro ⟨v, hfirst, hread, hfin⟩
    have ht := (valueText?_eq_some_iff m report (String.ofList v)).mpr (by simpa using hfirst)
    simp [ht, hread, hfin]

/-- A metric is not found exactly when no line states it. -/
theorem Metric.lookup_eq_notFound_iff (m : Metric) (report : String) :
    m.lookup report = .error .notFound ↔
      ∀ l ∈ report.toList.splitOn '\n', ∀ u, ¬m.stat.States l u := by
  rw [← valueText?_eq_none_iff]
  unfold Metric.lookup
  constructor
  · intro h
    split at h
    · assumption
    · -- a value text was found, so any error is about the number
      split at h
      · cases h
      · split at h <;> cases h
  · intro h
    rw [h]

theorem append_ne_of_head? {p q s : String} (h : p.toList.head? ≠ q.toList.head?)
    (hp : p.toList ≠ []) : p ++ s ≠ q := by
  intro heq
  apply h
  obtain ⟨c, t, hct⟩ := List.exists_cons_of_ne_nil hp
  rw [← heq, String.toList_append, List.head?_append, hct]
  rfl

/-- Only the error of a missing line has the reason that the pattern was not found: every other
reason starts with another letter. -/
theorem LookupError.reason_eq_iff (e : LookupError) :
    e.reason = "pattern not found in report" ↔ e = .notFound := by
  constructor
  · intro h
    cases e with
    | notFound => rfl
    | unknownMetric n =>
      exact absurd h (append_ne_of_head? (p := "unknown metric: ") (s := n)
        (by decide +kernel) (by decide +kernel))
    | notANumber t =>
      exact absurd h (append_ne_of_head? (p := "metric value is not a number: ")
        (s := Text.quote t) (by decide +kernel) (by decide +kernel))
    | notFinite t =>
      have hreason : (notFinite t).reason =
          "metric value is not a number: " ++ (Text.quote t ++ " is not finite") :=
        String.append_assoc
      exact absurd (hreason ▸ h) (append_ne_of_head? (by decide +kernel) (by decide +kernel))
  · rintro rfl
    rfl

/-! ## Records -/

/-- Setting a name gives it the value set and leaves every other name as it was. -/
theorem Record.get?_insert (r : Record) (name name' : String) (v : Float) :
    (r.insert name v).get? name' = if name' = name then some v else r.get? name' := by
  unfold Record.insert
  split
  · next hhas =>
    -- the entry of the name is replaced in place; every entry keeps its name
    have hkeys : ((fun e : String × Float => e.1 == name') ∘
        fun e : String × Float => if e.1 == name then (e.1, v) else (e.1, e.2)) =
        fun e => e.1 == name' := by
      funext e
      simp only [Function.comp]
      split <;> rfl
    simp only [Record.get?, List.find?_map, hkeys, Option.map_map]
    by_cases hn : name' = name
    · subst hn
      obtain ⟨e, he⟩ := Option.isSome_iff_exists.mp hhas
      obtain ⟨f, hf, -⟩ := Option.map_eq_some_iff.mp he
      have hfn : f.1 = name' := by simpa using List.find?_some hf
      simp [hf, Function.comp, hfn]
    · cases hf : r.entries.find? (·.1 == name') with
      | none => simp [hn]
      | some f =>
        have hfn : f.1 = name' := by simpa using List.find?_some hf
        simp [hn, Function.comp, hfn]
  · next hhas =>
    simp only [Record.has, Option.isSome_iff_ne_none, not_not, Record.get?, Option.map_eq_none_iff]
      at hhas
    by_cases hn : name' = name
    · subst hn
      simp [Record.get?, List.find?_append, hhas]
    · simp [Record.get?, List.find?_append, hn, Ne.symm hn]

/-! ## Parsing a report -/

/-- The note for a metric that a report does not give: a parse diagnostic naming it. -/
def parseNote (key : Key) (report : String) (m : Metric) : Option Diagnostic :=
  match m.lookup report with
  | .ok _ => none
  | .error e => some { stage := .parse, key, metric := m.name, reason := e.reason }

/-- One step of parsing a report: a metric read is set in the record, a metric not read adds
its note. -/
def parseStep (key : Key) (report : String) (p : Parsed) (m : Metric) : Parsed :=
  match m.lookup report with
  | .ok v => { p with record := p.record.insert m.name v }
  | .error e =>
    { p with diagnostics := p.diagnostics ++
        [{ stage := .parse, key, metric := m.name, reason := e.reason }] }

section Parse

variable {key : Key} {report : String}

theorem parseReport_eq (key : Key) (report : String) :
    parseReport key report =
      Metric.all.foldl (parseStep key report) { key, record := {}, diagnostics := [] } := rfl

theorem parseStep_diagnostics (p : Parsed) (m : Metric) :
    (parseStep key report p m).diagnostics = p.diagnostics ++ (parseNote key report m).toList := by
  unfold parseStep parseNote
  split <;> simp_all

theorem parseStep_record (p : Parsed) (m : Metric) :
    (parseStep key report p m).record =
      match m.lookup report with
      | .ok v => p.record.insert m.name v
      | .error _ => p.record := by
  unfold parseStep
  split <;> simp_all

theorem foldl_parseStep_diagnostics (ms : List Metric) (p : Parsed) :
    (ms.foldl (parseStep key report) p).diagnostics =
      p.diagnostics ++ ms.filterMap (parseNote key report) := by
  induction ms generalizing p with
  | nil => simp
  | cons m ms ih =>
    rw [List.foldl_cons, ih, parseStep_diagnostics, List.filterMap_cons]
    cases parseNote key report m <;> simp

/-- Parsing metrics leaves the value of every other name as it was. -/
theorem foldl_parseStep_get?_of_not_mem (ms : List Metric) (p : Parsed) {name : String}
    (h : ∀ m ∈ ms, m.name ≠ name) :
    (ms.foldl (parseStep key report) p).record.get? name = p.record.get? name := by
  induction ms generalizing p with
  | nil => rfl
  | cons m ms ih =>
    rw [List.foldl_cons, ih _ (fun m' hm' => h m' (List.mem_cons_of_mem _ hm')), parseStep_record]
    have hne : name ≠ m.name := fun he => h m List.mem_cons_self he.symm
    split <;> simp [Record.get?_insert, hne]

/-- Parsing metrics of distinct names, none of them set before, sets each to the value read, if
it was read. -/
theorem foldl_parseStep_get? (ms : List Metric) (hnd : (ms.map Metric.name).Nodup) (p : Parsed)
    (hp : ∀ m ∈ ms, p.record.get? m.name = none) {m : Metric} (hm : m ∈ ms) :
    (ms.foldl (parseStep key report) p).record.get? m.name = (m.lookup report).toOption := by
  induction ms generalizing p with
  | nil => cases hm
  | cons m₀ ms ih =>
    rw [List.map_cons, List.nodup_cons] at hnd
    rw [List.foldl_cons]
    rcases List.mem_cons.mp hm with rfl | hm
    · -- the metric's own step; later metrics have other names
      rw [foldl_parseStep_get?_of_not_mem ms _
        (fun m' hm' he => hnd.1 (List.mem_map.mpr ⟨m', hm', he⟩)), parseStep_record]
      split <;> simp_all [Record.get?_insert, Except.toOption]
    · refine ih hnd.2 _ (fun m' hm' => ?_) hm
      have hne : m'.name ≠ m₀.name := fun he => hnd.1 (List.mem_map.mpr ⟨m', hm', he⟩)
      rw [parseStep_record]
      split <;> simp [Record.get?_insert, hne, hp m' (List.mem_cons_of_mem _ hm')]

theorem Metric.mem_all (m : Metric) : m ∈ Metric.all := by
  cases m <;> decide

theorem Metric.all_names_nodup : (Metric.all.map Metric.name).Nodup := by
  decide +kernel

/-- A parsed record holds each metric's value exactly when it was read. -/
theorem parseReport_get? (key : Key) (report : String) (m : Metric) :
    (parseReport key report).record.get? m.name = (m.lookup report).toOption := by
  rw [parseReport_eq]
  exact foldl_parseStep_get? Metric.all Metric.all_names_nodup _ (fun _ _ => rfl) (Metric.mem_all m)

/-- The diagnostics of a parse are the notes of the metrics not read, in metric order. -/
theorem parseReport_diagnostics (key : Key) (report : String) :
    (parseReport key report).diagnostics = Metric.all.filterMap (parseNote key report) := by
  rw [parseReport_eq, foldl_parseStep_diagnostics]
  rfl

theorem Metric.ofName?_name (m : Metric) : Metric.ofName? m.name = some m := by
  cases m <;> decide +kernel

theorem Metric.name_inj {a b : Metric} (h : a.name = b.name) : a = b := by
  have hsome := congrArg Metric.ofName? h
  rw [Metric.ofName?_name, Metric.ofName?_name] at hsome
  exact Option.some.inj hsome

theorem parseNote_eq_some {m : Metric} {d : Diagnostic} (h : parseNote key report m = some d) :
    ∃ e, m.lookup report = .error e ∧
      d = { stage := .parse, key, metric := m.name, reason := e.reason } := by
  unfold parseNote at h
  split at h
  · cases h
  · next e he =>
    cases h
    exact ⟨e, he, rfl⟩

theorem parseNote_isSome (m : Metric) :
    (parseNote key report m).isSome = !(m.lookup report).toOption.isSome := by
  unfold parseNote
  split <;> simp_all [Except.toOption]

/-- The notes naming a metric: one when it was not read, none when it was. -/
theorem countP_parseNote (m : Metric) :
    (Metric.all.filterMap (parseNote key report)).countP (·.metric == m.name) =
      if (m.lookup report).toOption.isSome then 0 else 1 := by
  -- only the metric's own note can name it, as names tell metrics apart
  have hpred : ∀ a : Metric, ((parseNote key report a).map (·.metric == m.name)).getD false =
      ((a == m) && !(m.lookup report).toOption.isSome) := by
    intro a
    cases hn : parseNote key report a with
    | none =>
      by_cases ham : a = m
      · subst ham
        have hread : (parseNote key report a).isSome = !(a.lookup report).toOption.isSome :=
          parseNote_isSome a
        rw [hn] at hread
        simp [← hread]
      · simp [ham]
    | some d =>
      obtain ⟨e, he, rfl⟩ := parseNote_eq_some hn
      by_cases ham : a = m
      · subst ham
        simp [he, Except.toOption]
      · have hname : (a.name == m.name) = false := by
          simpa using fun h => ham (Metric.name_inj h)
        have hm : (a == m) = false := by simpa using ham
        rw [Option.map_some, Option.getD_some, hname, hm, Bool.false_and]
  rw [List.countP_filterMap]
  simp only [hpred]
  cases (m.lookup report).toOption.isSome
  · simp only [Bool.not_false, Bool.and_true, Bool.false_eq_true, if_false]
    exact List.count_eq_one_of_mem (by decide) (Metric.mem_all m)
  · simp

/-- A list's values under a partial map that keeps or drops each element as its label come in
the order of the labels. -/
theorem filterMap_sublist_map {α β : Type} {g : α → Option β} {f : α → β} (l : List α)
    (h : ∀ a ∈ l, g a = none ∨ g a = some (f a)) : (l.filterMap g).Sublist (l.map f) := by
  induction l with
  | nil => simp
  | cons a l ih =>
    have ih' := ih fun b hb => h b (List.mem_cons_of_mem a hb)
    rw [List.filterMap_cons, List.map_cons]
    rcases h a List.mem_cons_self with ha | ha <;> rw [ha]
    · exact ih'.cons (f a)
    · exact ih'.cons_cons (f a)

/-- Parsing a report for a cell puts every metric either in the record, with the value read, or
in exactly one parse diagnostic for the cell naming it, never both. A metric is read with value
`x` when the value text of the first line stating its statistic reads as the finite number `x`;
its diagnostic says the pattern was not found exactly when no line states it. The diagnostics
come in metric order, and every value in the record is finite. -/
theorem parseReport_reads_grammar (key : Key) (report : String) :
    let p := parseReport key report
    (∀ m : Metric,
      (∀ x, (p.record.get? m.name = some x ↔ m.lookup report = .ok x) ∧
        (m.lookup report = .ok x ↔ ∃ v, m.stat.FirstValue report v ∧
          Number.readFloat (String.ofList v) = .ok x ∧ isFinite x = true)) ∧
      ((p.record.get? m.name).isSome ∧ p.diagnostics.countP (·.metric == m.name) = 0 ∨
        p.record.get? m.name = none ∧ p.diagnostics.countP (·.metric == m.name) = 1) ∧
      ∀ d ∈ p.diagnostics, d.metric = m.name →
        (d.reason = "pattern not found in report" ↔
          ∀ l ∈ report.toList.splitOn '\n', ∀ u, ¬m.stat.States l u)) ∧
    (∀ d ∈ p.diagnostics, d.stage = .parse ∧ d.key = key ∧ ∃ m : Metric, d.metric = m.name) ∧
    (p.diagnostics.map (·.metric)).Sublist (Metric.all.map Metric.name) ∧
    ∀ e ∈ p.record.entries, isFinite e.2 = true ∧ e.2.isNaN = false ∧ e.2.isInf = false := by
  intro p
  -- every diagnostic is the note of a metric not read
  have hnote : ∀ d ∈ p.diagnostics, ∃ m : Metric, ∃ e, m.lookup report = .error e ∧
      d = { stage := .parse, key, metric := m.name, reason := e.reason } := by
    intro d hd
    rw [parseReport_diagnostics, List.mem_filterMap] at hd
    obtain ⟨m, -, hm⟩ := hd
    exact ⟨m, parseNote_eq_some hm⟩
  refine ⟨fun m => ⟨fun x => ⟨?_, Metric.lookup_eq_ok_iff m report x⟩, ?_, ?_⟩, ?_, ?_, ?_⟩
  · -- the record holds what the lookup read
    rw [parseReport_get?]
    cases m.lookup report <;> simp [Except.toOption]
  · -- the metric's notes: one when it was not read, none when it was
    have hcount : p.diagnostics.countP (·.metric == m.name) =
        if (m.lookup report).toOption.isSome then 0 else 1 := by
      rw [parseReport_diagnostics, countP_parseNote]
    rw [parseReport_get?, hcount]
    cases (m.lookup report).toOption <;> simp
  · intro d hd hdm
    obtain ⟨m', e, he, rfl⟩ := hnote d hd
    obtain rfl : m' = m := Metric.name_inj hdm
    rw [LookupError.reason_eq_iff, ← Metric.lookup_eq_notFound_iff, he]
    simp
  · intro d hd
    obtain ⟨m, e, -, rfl⟩ := hnote d hd
    exact ⟨rfl, rfl, m, rfl⟩
  · -- the notes come in metric order
    rw [parseReport_diagnostics, List.map_filterMap]
    refine filterMap_sublist_map _ fun m _ => ?_
    cases hm : parseNote key report m with
    | none => exact .inl rfl
    | some d =>
      obtain ⟨e, -, rfl⟩ := parseNote_eq_some hm
      exact .inr rfl
  · intro e he
    have hfin := finite_parseReport key report e he
    exact ⟨hfin, isFinite_not_nan_inf hfin⟩

end Parse

end PredictorSweep
