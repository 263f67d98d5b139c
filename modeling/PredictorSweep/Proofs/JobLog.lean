import PredictorSweep.Proofs.Locations
import PredictorSweep.Execution.Batch
import PredictorSweep.Sweep.Ingest
import PredictorSweep.Proofs.CommandLine
/-!
# Reading a job's log back

The executor writes a job's log as a header line naming the command, the job's output, and a
trailer line with the job's state: `exit 0` for a job that did not fail, and otherwise `exit N`,
`timed out after D` or `error: REASON`. Reading a log back takes the state from the first line that
starts with `# status: `, and each metric from the first line that states it.

The header is one line, since the command line writes every line feed as an escape, and it states
neither a status nor a metric; nor does the trailer, when the state holds no line feed. So a log
reads as the job's output for its metrics. Its state is the output's own first status line when
the output has one, and the trailer's otherwise; in the second case the log reads as failed
exactly when the job failed. An output with a status line of its own hides the trailer, whatever
the job did.

Main statements:

* `statusLine?_append_newline`, `valueText?_append_newline`: reading two texts joined by a line
  feed;
* `commandLine_newline_free`: a command line is one line;
* `JobResult.trim_firstLine_statusLine`: the trailer reads `exit 0` exactly when the job did not
  fail;
* `jobLog_reads_as_output`: what a log reads as, against what the job did and wrote.
-/

namespace PredictorSweep

/-! ## Lines of a text -/

/-- The first line of a text: its characters before the first line feed. -/
def firstLine (t : String) : String := String.ofList (t.toList.takeWhile (· ≠ '\n'))

theorem splitOn_append_newline (a b : String) :
    (a ++ "\n" ++ b).toList.splitOn '\n' = a.toList.splitOn '\n' ++ b.toList.splitOn '\n' := by
  have h : (a ++ "\n" ++ b).toList = a.toList ++ '\n' :: b.toList := by simp
  rw [h, List.splitOn_append_cons_self]

/-- A list split at a separator starts with what comes before the first separator. -/
theorem splitOn_eq_takeWhile_cons (l : List Char) (x : Char) :
    ∃ rest, l.splitOn x = l.takeWhile (· ≠ x) :: rest := by
  have hsplit : l.takeWhile (· ≠ x) ++ l.dropWhile (· ≠ x) = l :=
    List.takeWhile_append_dropWhile
  have hfree : x ∉ l.takeWhile (· ≠ x) := fun hx => by
    simpa using List.all_eq_true.mp List.all_takeWhile x hx
  cases hd : l.dropWhile (· ≠ x) with
  | nil =>
    rw [hd, List.append_nil] at hsplit
    refine ⟨[], ?_⟩
    conv_lhs => rw [← hsplit]
    exact List.splitOn_eq_singleton hfree
  | cons y more =>
    -- what is left starts at the separator
    have hy : y = x := by
      have hnot := List.head?_dropWhile_not (fun c => decide (c ≠ x)) l
      rw [hd] at hnot
      simpa using hnot
    rw [hd, hy] at hsplit
    refine ⟨more.splitOn x, ?_⟩
    conv_lhs => rw [← hsplit]
    exact List.splitOn_append_cons_self_of_not_mem hfree more

theorem statusLine?_append_newline (a b : String) :
    statusLine? (a ++ "\n" ++ b) = (statusLine? a).or (statusLine? b) := by
  unfold statusLine?
  rw [splitOn_append_newline, List.find?_append, Option.map_or]

theorem valueText?_append_newline (n : StatName) (a b : String) :
    valueText? n (a ++ "\n" ++ b) = (valueText? n a).or (valueText? n b) := by
  unfold valueText?
  rw [splitOn_append_newline, List.findSome?_append]

/-- A line that starts with `#` states no metric. -/
theorem valueOfLine?_hash (m : Metric) (rest : List Char) :
    valueOfLine? m.stat ('#' :: rest) = none := by
  cases m <;> simp [valueOfLine?, Metric.stat, StatName.strip, isBlank, List.isPrefixOf]

/-- A text of one line that starts with `#` states no metric. -/
theorem valueText?_hash (m : Metric) {rest : String} (h : '\n' ∉ rest.toList) :
    valueText? m.stat ("#" ++ rest) = none := by
  have hline : ("#" ++ rest).toList = '#' :: rest.toList := by simp
  unfold valueText?
  rw [hline, List.splitOn_eq_singleton (by simpa using h)]
  simp [valueOfLine?_hash]

/-! ## The header -/

theorem not_mem_intercalate {α : Type} {x : α} {sep : List α} {ls : List (List α)}
    (hsep : x ∉ sep) (hls : ∀ l ∈ ls, x ∉ l) : x ∉ sep.intercalate ls := by
  induction ls with
  | nil => simp
  | cons l ls ih =>
    cases ls with
    | nil => simpa using hls l (by simp)
    | cons l' ls =>
      rw [List.intercalate_cons_of_ne_nil (by simp)]
      simp only [List.mem_append, not_or]
      exact ⟨⟨hls l (by simp), hsep⟩,
        ih fun l'' hl'' => hls l'' (List.mem_cons_of_mem _ hl'')⟩

theorem newline_not_mem_hexDigits (n w : Nat) : '\n' ∉ Text.hexDigits n w := by
  induction w generalizing n with
  | zero => simp [Text.hexDigits]
  | succ w ih =>
    have hdigit : ∀ m, m < 16 → Nat.digitChar m ≠ '\n' := by decide
    simp only [Text.hexDigits, List.mem_append, List.mem_singleton, not_or]
    exact ⟨ih (n / 16), (hdigit (n % 16) (Nat.mod_lt _ (by decide))).symm⟩

/-- Quoting writes a line feed as an escape. -/
theorem newline_not_mem_escapeChar (c : Char) : '\n' ∉ Text.escapeChar c := by
  by_cases hc : c = '\n'
  · subst hc
    decide
  · -- any other character is written as itself, or as an escape of other characters
    have hhex := newline_not_mem_hexDigits c.toNat
    unfold Text.escapeChar
    simp [mem_ite, hhex, Ne.symm hc]

/-- A written rune holds no line feed. -/
theorem newline_not_mem_escapeRune (r : Rune) : '\n' ∉ Text.escapeRune r := by
  cases r with
  | char c => exact newline_not_mem_escapeChar c
  | invalid b =>
    simp only [Text.escapeRune, List.mem_cons, not_or]
    exact ⟨by decide, by decide, newline_not_mem_hexDigits b.toNat 2⟩

theorem newline_not_mem_shellWord (s : Bytes) : '\n'.toUInt8 ∉ (shellWord s).data := by
  rcases shellWord_cases s with hs | ⟨hs, -, hplain⟩
  · -- a line feed's byte in a quoted word would be a line feed in the written runes
    rw [hs, Text.quoteBytes_data]
    intro hn
    rcases List.mem_cons.mp hn with hq | hn
    · exact absurd hq (by decide)
    rcases List.mem_append.mp hn with hn | hq
    swap
    · exact absurd (List.mem_singleton.mp hq) (by decide)
    obtain ⟨r, -, hr⟩ := List.mem_flatMap.mp hn
    obtain ⟨c, hc, hb⟩ := List.mem_flatMap.mp hr
    obtain ⟨-, hcode⟩ := eq_of_mem_utf8EncodeChar hb (by decide)
    have hnl : c = '\n' := by
      rw [← Char.ofNat_toNat c, hcode]
      rfl
    exact newline_not_mem_escapeRune r (hnl ▸ hc)
  · -- a word with no special byte has no line feed, which is one
    rw [hs]
    exact fun hn => hplain _ hn (by decide)

/-- A command line is one line: its bytes hold no line feed, and neither does its text. -/
theorem commandLine_newline_free (j : Job) : '\n' ∉ j.commandLine.toText.toList := by
  refine fun hn => ?_
  have hbyte := toUInt8_mem_of_mem_toText (by decide) hn
  refine not_mem_intercalate (by decide) (fun l hl => ?_) hbyte
  obtain ⟨v, -, rfl⟩ := List.mem_map.mp hl
  exact newline_not_mem_shellWord v

/-- The header states no status. -/
theorem statusLine?_command {cmd : String} (h : '\n' ∉ cmd.toList) :
    statusLine? ("# command: " ++ cmd) = none := by
  unfold statusLine?
  have hline : ("# command: " ++ cmd).toList = "# command: ".toList ++ cmd.toList := by simp
  have hnostatus :
      "# status: ".toList.isPrefixOf ("# command: ".toList ++ cmd.toList) = false := by
    rw [show "# status: ".toList = '#' :: ' ' :: 's' :: "tatus: ".toList by decide +kernel,
      show "# command: ".toList = '#' :: ' ' :: 'c' :: "ommand: ".toList by decide +kernel]
    simp [List.isPrefixOf]
  rw [hline, List.splitOn_eq_singleton (by simpa using h), List.find?_singleton]
  simp only [hnostatus, Bool.false_and, Bool.false_eq_true, if_false, Option.map_none]

/-! ## The trailer -/

/-- A status line followed by more text reads as its first line, trimmed. -/
theorem statusLine?_status {t : String} (ht : firstLine t ≠ "") :
    statusLine? ("# status: " ++ t) = some (Text.trim (firstLine t)) := by
  have hhead : ("# status: " ++ t).toList.takeWhile (· ≠ '\n') =
      "# status: ".toList ++ (firstLine t).toList := by
    rw [String.toList_append,
      List.takeWhile_append_of_pos (List.all_eq_true.mp (by decide +kernel))]
    simp [firstLine]
  obtain ⟨rest, hrest⟩ := splitOn_eq_takeWhile_cons ("# status: " ++ t).toList '\n'
  have hlen : (firstLine t).toList ≠ [] := by simpa using ht
  unfold statusLine?
  rw [hrest, hhead, List.find?_cons_of_pos]
  · simp
  · simp [List.isPrefixOf, List.length_pos_iff.mpr hlen]

/-- A trailer whose state holds no line feed states no metric. -/
theorem valueText?_trailer (m : Metric) {t : String} (h : '\n' ∉ t.toList) :
    valueText? m.stat ("# status: " ++ t ++ "\n") = none := by
  have htext : "# status: " ++ t ++ "\n" = "#" ++ (" status: " ++ t) ++ "\n" ++ "" := by
    simp only [String.append_empty, ← String.append_assoc]
    rfl
  rw [htext, valueText?_append_newline, valueText?_hash m (by simpa using h)]
  simp [valueText?, valueOfLine?, StatName.strip, Metric.stat]
  cases m <;> simp

/-! ## The state of a job -/

/-- Trimming keeps a nonempty leading run of non-blank characters. -/
theorem Text.prefix_trim {a c : List Char} (ha : a ≠ [])
    (hsp : ∀ x ∈ a, Text.isSpace x = false) :
    a <+: (Text.trim (String.ofList (a ++ c))).toList := by
  obtain ⟨x, a', rfl⟩ := List.exists_cons_of_ne_nil ha
  have hx : Text.isSpace x = false := hsp x (by simp)
  -- nothing leads, and the trailing blanks end after `a`'s last character
  have hlast : ∀ y ∈ (x :: a').reverse.head?, Text.isSpace y = false := by
    intro y hy
    exact hsp y (List.mem_reverse.mp (List.mem_of_mem_head? hy))
  unfold Text.trim
  rw [String.toList_ofList, String.toList_ofList, List.cons_append, List.dropWhile_cons_of_neg
    (by simp [hx]), ← List.cons_append, List.reverse_append, List.dropWhile_append]
  obtain ⟨y, ys, hys⟩ := List.exists_cons_of_ne_nil (List.reverse_ne_nil_iff.mpr ha)
  have hy : Text.isSpace y = false := hlast y (by simp [hys])
  have hkeep : ((x :: a').reverse).dropWhile Text.isSpace = (x :: a').reverse := by
    rw [hys, List.dropWhile_cons_of_neg (by simp [hy])]
  split
  · rw [hkeep, List.reverse_reverse]
  · rw [List.reverse_append, List.reverse_reverse]
    exact List.prefix_append _ _

/-- A text that starts and ends with non-blank characters is its own trim. -/
theorem Text.trim_ofList_of_ends {l : List Char} (hhead : ∀ x ∈ l.head?, Text.isSpace x = false)
    (hlast : ∀ x ∈ l.getLast?, Text.isSpace x = false) :
    Text.trim (String.ofList l) = String.ofList l := by
  unfold Text.trim
  cases l with
  | nil => rfl
  | cons x xs =>
    have hx : Text.isSpace x = false := hhead x (by simp)
    rw [String.toList_ofList, List.dropWhile_cons_of_neg (by simp [hx])]
    obtain ⟨y, ys, hys⟩ := List.exists_cons_of_ne_nil
      (List.reverse_ne_nil_iff.mpr (List.cons_ne_nil x xs))
    have hy : Text.isSpace y = false := by
      apply hlast
      rw [← List.head?_reverse, hys]
      rfl
    rw [hys, List.dropWhile_cons_of_neg (by simp [hy]), ← hys, List.reverse_reverse]

/-- The first line of a text that starts with a run without line feeds starts with that run. -/
theorem firstLine_append {a : String} (b : String) (h : '\n' ∉ a.toList) :
    (firstLine (a ++ b)).toList = a.toList ++ (firstLine b).toList := by
  have hkeep : ∀ c ∈ a.toList, decide (c ≠ '\n') = true := by
    intro c hc
    simp only [ne_eq, decide_eq_true_eq]
    rintro rfl
    exact h hc
  simp only [firstLine, String.toList_ofList, String.toList_append]
  rw [List.takeWhile_append_of_pos hkeep]

theorem firstLine_of_newline_free {t : String} (h : '\n' ∉ t.toList) : firstLine t = t := by
  have hl := firstLine_append "" h
  rw [String.append_empty] at hl
  apply String.toList_inj.mp
  rw [hl]
  simp [firstLine]

/-- A state that starts with a non-blank run other than a prefix of `exit 0` does not read as
`exit 0`. -/
theorem trim_firstLine_ne_exit {a : String} (b : String) (ha : a ≠ "")
    (hsp : (a.toList.all fun x => !Text.isSpace x) = true) (hnl : '\n' ∉ a.toList)
    (hne : ¬a.toList <+: "exit 0".toList) : Text.trim (firstLine (a ++ b)) ≠ "exit 0" := by
  intro heq
  have hsp' : ∀ x ∈ a.toList, Text.isSpace x = false := fun x hx => by
    simpa using List.all_eq_true.mp hsp x hx
  have hpre := Text.prefix_trim (c := (firstLine b).toList) (by simpa using ha) hsp'
  rw [← firstLine_append b hnl, String.ofList_toList, heq] at hpre
  exact hne hpre

theorem firstLine_append_ne_empty {a : String} (b : String) (ha : a ≠ "")
    (hnl : '\n' ∉ a.toList) : firstLine (a ++ b) ≠ "" := by
  intro h
  have hl := firstLine_append b hnl
  rw [h] at hl
  simp_all

theorem isSpace_of_isAsciiDigit {c : Char} (h : isAsciiDigit c = true) :
    Text.isSpace c = false := by
  simp only [isAsciiDigit, Bool.and_eq_true, decide_eq_true_eq, Char.le_def] at h
  have h1 : 48 ≤ c.toNat := h.1
  have h2 : c.toNat ≤ 57 := h.2
  simp only [Text.isSpace]
  simp
  omega

/-- `exit N` for a positive status reads back as itself. -/
theorem trim_firstLine_exit {c : Int} (hc : 0 < c) :
    Text.trim (firstLine ("exit " ++ toString c)) = "exit " ++ toString c := by
  have hdigits := isDigitRun_toString hc.le
  have hnl : '\n' ∉ ("exit " ++ toString c).toList := by
    simp only [String.toList_append, List.mem_append, not_or]
    exact ⟨by decide, not_mem_of_isDigitRun hdigits (by decide)⟩
  rw [firstLine_of_newline_free hnl]
  have htrim := Text.trim_ofList_of_ends (l := ("exit " ++ toString c).toList) ?_ ?_
  · rwa [String.ofList_toList] at htrim
  · intro x hx
    simp only [String.toList_append, List.head?_append] at hx
    simp at hx
    rw [← hx]
    decide
  · -- the last character is the last digit of the status
    intro x hx
    rw [String.toList_append,
      List.getLast?_append_of_ne_nil _ (isDigitRun_iff.mp hdigits).1] at hx
    exact isSpace_of_isAsciiDigit ((isDigitRun_iff.mp hdigits).2 x (List.mem_of_getLast? hx))

theorem toString_ne_zero {c : Int} (hc : 0 < c) : toString c ≠ "0" := by
  intro h
  have hdigits : Nat.toDigits 10 c.toNat = ['0'] := by
    rw [← toList_toString_of_nonneg hc.le, h]
    rfl
  have hval := @Nat.ofDigitChars_ten_toDigits c.toNat
  rw [hdigits] at hval
  have hzero : c.toNat = 0 := by
    rw [← hval]
    rfl
  omega

/-- The trailer's four states: `exit 0` exactly when the job did not fail, and otherwise a state
that starts with `timed`, a positive status after `exit `, or a reason after `error:`. -/
theorem JobResult.statusLine_cases (r : JobResult) (limit : Duration) :
    r.failed = false ∧ r.statusLine limit = "exit 0" ∨
    r.failed = true ∧ (∃ rest, r.statusLine limit = "timed" ++ rest) ∨
    r.failed = true ∧ 0 < r.exitCode ∧ r.statusLine limit = "exit " ++ toString r.exitCode ∨
    r.failed = true ∧ ∃ rest, r.statusLine limit = "error:" ++ rest := by
  unfold JobResult.statusLine JobResult.status
  by_cases hto : r.timedOut
  · refine .inr (.inl ⟨by simp [JobResult.failed, hto], " out after " ++ limit.render, ?_⟩)
    simp [hto]
    rw [← String.append_assoc]
    rfl
  · by_cases hok : r.error.isNone && r.exitCode == 0
    · refine .inl ⟨?_, by simp [hto, hok]⟩
      simp only [Bool.and_eq_true, beq_iff_eq, Option.isNone_iff_eq_none] at hok
      simp [JobResult.failed, hto, hok.1, hok.2]
    · -- not a success: an error or a non-zero status
      have hfailed : r.failed = true := by
        simp only [Bool.and_eq_true, beq_iff_eq, Option.isNone_iff_eq_none, not_and] at hok
        cases he : r.error with
        | some e => simp [JobResult.failed, he]
        | none => simp [JobResult.failed, hok he]
      by_cases hpos : r.exitCode > 0
      · exact .inr (.inr (.inl ⟨hfailed, hpos, by simp [hto, hok, hpos]⟩))
      · refine .inr (.inr (.inr ⟨hfailed, " " ++ r.reason, ?_⟩))
        simp [hto, hok, hpos]
        rw [← String.append_assoc]
        rfl

theorem JobResult.firstLine_statusLine_ne_empty (r : JobResult) (limit : Duration) :
    firstLine (r.statusLine limit) ≠ "" := by
  rcases r.statusLine_cases limit with
    ⟨-, hs⟩ | ⟨-, rest, hs⟩ | ⟨-, -, hs⟩ | ⟨-, rest, hs⟩ <;> rw [hs]
  · decide
  · exact firstLine_append_ne_empty rest (by decide) (by decide)
  · exact firstLine_append_ne_empty _ (by decide) (by decide)
  · exact firstLine_append_ne_empty rest (by decide) (by decide)

/-- The trailer's state reads as `exit 0` exactly when the job did not fail. -/
theorem JobResult.trim_firstLine_statusLine (r : JobResult) (limit : Duration) :
    Text.trim (firstLine (r.statusLine limit)) = "exit 0" ↔ r.failed = false := by
  rcases r.statusLine_cases limit with
    ⟨hf, hs⟩ | ⟨hf, rest, hs⟩ | ⟨hf, hpos, hs⟩ | ⟨hf, rest, hs⟩ <;> rw [hs, hf]
  · simp only [iff_true]
    decide
  · simpa using trim_firstLine_ne_exit rest (by decide +kernel) (by decide +kernel)
      (by decide +kernel) (by decide +kernel)
  · -- `exit N` with `N` positive is not `exit 0`
    rw [trim_firstLine_exit hpos]
    simp only [Bool.true_eq_false, iff_false]
    intro h
    have hl : ("exit " ++ toString r.exitCode).toList = ("exit " ++ "0").toList := by
      rw [h]
      rfl
    rw [String.toList_append, String.toList_append] at hl
    exact absurd (String.toList_inj.mp (List.append_cancel_left hl)) (toString_ne_zero hpos)
  · simpa using trim_firstLine_ne_exit rest (by decide +kernel) (by decide +kernel)
      (by decide +kernel) (by decide +kernel)

theorem JobResult.trim_firstLine_statusLine_of_failed {r : JobResult} (limit : Duration)
    (hf : r.failed = true) : Text.trim (firstLine (r.statusLine limit)) ≠ "exit 0" := by
  intro heq
  rw [(r.trim_firstLine_statusLine limit).mp heq] at hf
  cases hf

/-! ## The log -/

theorem jobLog_eq (j : Job) (o t : String) :
    logHeader j ++ o ++ "\n# status: " ++ t ++ "\n" =
      ("# command: " ++ j.commandLine.toText) ++ "\n" ++
        (o ++ "\n" ++ ("# status: " ++ t ++ "\n")) := by
  have hsplit : "\n# status: " = "\n" ++ "# status: " := by decide
  rw [logHeader, hsplit]
  simp only [String.append_assoc]

/-- The state a log reads as: the output's first status line, else the trailer's state. -/
theorem statusLine?_jobLog (j : Job) (o : String) {t : String} (ht : firstLine t ≠ "") :
    statusLine? (logHeader j ++ o ++ "\n# status: " ++ t ++ "\n") =
      (statusLine? o).or (some (Text.trim (firstLine t))) := by
  have htrailer : statusLine? ("# status: " ++ t ++ "\n") = some (Text.trim (firstLine t)) := by
    rw [show "# status: " ++ t ++ "\n" = "# status: " ++ t ++ "\n" ++ "" by simp,
      statusLine?_append_newline, statusLine?_status ht]
    rfl
  rw [jobLog_eq, statusLine?_append_newline, statusLine?_command (commandLine_newline_free j),
    statusLine?_append_newline, htrailer, Option.none_or]

/-- A log states each metric as the output does, when the trailer's state holds no line feed. -/
theorem valueText?_jobLog (m : Metric) (j : Job) (o : String) {t : String}
    (ht : '\n' ∉ t.toList) :
    valueText? m.stat (logHeader j ++ o ++ "\n# status: " ++ t ++ "\n") =
      valueText? m.stat o := by
  have hheader : valueText? m.stat ("# command: " ++ j.commandLine.toText) = none := by
    rw [show "# command: " ++ j.commandLine.toText =
        "#" ++ (" command: " ++ j.commandLine.toText) by
      rw [← String.append_assoc]
      rfl]
    exact valueText?_hash m (by simpa using commandLine_newline_free j)
  rw [jobLog_eq, valueText?_append_newline, valueText?_append_newline, valueText?_trailer m ht,
    hheader, Option.none_or, Option.or_none]

/-- Parsing reads a report only through the value texts of its metrics. -/
theorem parseReport_eq_of_valueText {a b : String}
    (h : ∀ m : Metric, valueText? m.stat a = valueText? m.stat b) (k : Key) :
    parseReport k a = parseReport k b := by
  have hlookup : ∀ m : Metric, m.lookup a = m.lookup b := fun m => by
    unfold Metric.lookup
    rw [h m]
  simp only [parseReport, hlookup]

/-- What a job's log reads as. Its state is the output's first status line, and the trailer's
state only when the output has none; then the log reads as failed exactly when the job failed. Its
metrics are the output's, when the trailer's state holds no line feed. -/
theorem jobLog_reads_as_output (j : Job) (o : String) (r : JobResult) (limit : Duration) (k : Key) :
    let log := logHeader j ++ o ++ "\n# status: " ++ r.statusLine limit ++ "\n"
    statusLine? log = (statusLine? o).or (some (Text.trim (firstLine (r.statusLine limit)))) ∧
    (statusLine? o = none → ((∃ s, statusLine? log = some s ∧ s ≠ "exit 0") ↔ r.failed = true)) ∧
    ('\n' ∉ (r.statusLine limit).toList → parseReport k log = parseReport k o) := by
  intro log
  have hstatus :
      statusLine? log = (statusLine? o).or (some (Text.trim (firstLine (r.statusLine limit)))) :=
    statusLine?_jobLog j o (r.firstLine_statusLine_ne_empty limit)
  refine ⟨hstatus, fun hnone => ?_, fun hnl => ?_⟩
  · -- with no status line of its own, the output leaves the trailer's state
    rw [hstatus, hnone, Option.none_or]
    constructor
    · rintro ⟨s, hs, hne⟩
      cases hf : r.failed
      · have hexit := (r.trim_firstLine_statusLine limit).mpr hf
        exact absurd ((Option.some.inj hs).symm.trans hexit) hne
      · rfl
    · intro hf
      exact ⟨_, rfl, r.trim_firstLine_statusLine_of_failed limit hf⟩
  · exact parseReport_eq_of_valueText (fun m => valueText?_jobLog m j o hnl) k

/-- A failed job whose output states a metric reads back as failed with the output's metric; one
whose output holds `# status: exit 0` reads back as a success. -/
theorem jobLog_sample :
    let j : Job :=
      { benchmark := "gcc", predictor := { family := "taken" }, command := ["./sim.sh"] }
    let r : JobResult := { job := j, exitCode := 1, error := some (.job j.key 1 .exited) }
    let log (o : String) := logHeader j ++ o ++ "\n# status: " ++ r.statusLine ⟨0⟩ ++ "\n"
    (statusLine? (log "sim_IPC 1.5") = some "exit 1" ∧ r.failed = true ∧
      parseReport j.key (log "sim_IPC 1.5") = parseReport j.key "sim_IPC 1.5") ∧
    (statusLine? (log "# status: exit 0") = some "exit 0" ∧ r.failed = true) := by
  intro j r log
  have hfailed : r.failed = true := rfl
  have hclean := jobLog_reads_as_output j "sim_IPC 1.5" r ⟨0⟩ j.key
  have hhidden := (jobLog_reads_as_output j "# status: exit 0" r ⟨0⟩ j.key).1
  have hnone : statusLine? "sim_IPC 1.5" = none := by decide +kernel
  have htrailer : r.statusLine ⟨0⟩ = "exit 1" := by decide +kernel
  refine ⟨⟨?_, hfailed, hclean.2.2 (by rw [htrailer]; decide)⟩, ?_, hfailed⟩
  · rw [hclean.1, hnone, htrailer]
    decide +kernel
  · rw [hhidden]
    decide +kernel

end PredictorSweep
