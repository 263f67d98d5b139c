import PredictorSweep.Proofs.Sweep.Ingest
/-!
# Reading a directory of logs: the last log of a cell wins

Reading a directory of logs visits the names of its entries that are not directories and end in
`.out`, in name order. Several logs may name one cell. A log that does not report a failure
records its cell, replacing an earlier record and clearing a missing mark; a log that reports a
failure marks its cell missing with its state, replacing an earlier state, but is refused for a
cell that holds a record. So after any listing each cell a readable log names holds the record of
its last log that did not fail, and no mark; when all its logs failed, it is marked with the state
of its last log (`lastWriterCell`). No other cell is filled. The logs that did not fail count as
read, the others as failed, and a name that identifies no cell gives one note at the ingest stage
keyed by the name alone, and nothing else.

Main statements:

* `checkKey_of_keyOfLogName`: a log name identifies a cell the table accepts;
* `lastWriterCell_append`: the rule, one log more;
* `ingestLog_table_readable`, `ingestLog_tally_readable`, `ingestLog_unreadable`: one log read;
* `ReadSoFar.step`, `ReadSoFar.foldl`: a directory read log by log keeps the rule;
* `ingest_last_writer`: the outcome of reading a directory.
-/

namespace PredictorSweep

/-! ## Names that identify a cell -/

theorem benchmark_ne_of_splitFrom {acc cs : List Char} {parts : LogNameParts}
    (h : splitFrom acc cs = some parts) : parts.benchmark ≠ "" := by
  induction cs generalizing acc with
  | nil => simp [splitFrom] at h
  | cons c rest ih =>
    simp only [splitFrom] at h
    split_ifs at h
    split at h
    · -- the benchmark read ends with `c`
      rename_i p hp
      cases h
      obtain ⟨F, ds, -, -, -, rfl⟩ := splitAfter_eq_some_iff.mp hp
      simp [LogNameParts.ofRuns]
    · exact ih h

theorem Spec.make_size {f : String} {size : Int} {s : Spec} (h : Spec.make f size = .ok s) :
    Spec.make f s.size = .ok s := by
  obtain ⟨-, -, -, hsize, -⟩ := Spec.make_eq_ok h
  rwa [hsize]

/-- A cell read from a log name has the family and benchmark the name splits into, and a size
that makes a specification with that family. -/
theorem keyOfLogName_eq_ok {name : String} {k : Key} (h : keyOfLogName name = .ok k) :
    ∃ parts spec, splitLogName? name = some parts ∧ Spec.make parts.family k.size = .ok spec ∧
      k.family = parts.family ∧ k.benchmark = parts.benchmark := by
  revert h
  unfold keyOfLogName
  simp only [bind, Except.bind, pure, Except.pure, throw, throwThe, MonadExceptOf.throw]
  -- every way through the reading either fails or builds the cell from the specification made
  repeat' split
  all_goals
    intro h
    try cases h
  all_goals exact ⟨_, _, by assumption, Spec.make_size (by assumption), rfl, rfl⟩

/-- A log name identifies a cell the table accepts. -/
theorem checkKey_of_keyOfLogName {name : String} {k : Key} (h : keyOfLogName name = .ok k) :
    checkKey k = .ok () := by
  obtain ⟨parts, spec, hsplit, hmake, hfamily, hbench⟩ := keyOfLogName_eq_ok h
  obtain ⟨family, benchmark, size⟩ := k
  dsimp only at hfamily hbench hmake
  subst hfamily hbench
  exact checkKey_of_make hmake (benchmark_ne_of_splitFrom hsplit)

theorem Key.family_ne_empty_of_checkKey {k : Key} (h : checkKey k = .ok ()) : k.family ≠ "" := by
  obtain ⟨F, hF, -⟩ := checkKey_eq_ok_iff.mp h
  rw [← Family.name_of_ofName? hF]
  cases F <;> decide

/-- Whether a directory entry's name, read from its path, identifies no cell. -/
def nameRejected (dir name : String) : Bool :=
  match keyOfLogName (Path.base (Path.join [dir, name])) with
  | .ok _ => false
  | .error _ => true

section Read

variable {files : FileTree} {path : String}

theorem keyOfLogName_of_readLog {k : Key} {text : String}
    (h : readLog files path = .ok (k, text)) : keyOfLogName (Path.base path) = .ok k := by
  unfold readLog at h
  split at h
  · cases h
  · split at h
    · cases h
      assumption
    · cases h

theorem keyOfLogName_of_unreadable {k : Key} {p : String} {e : FileError}
    (h : readLog files path = .error (.unreadable k p e)) : keyOfLogName (Path.base path) = .ok k := by
  unfold readLog at h
  split at h
  · cases h
  · split at h
    · cases h
    · cases h
      assumption

theorem keyOfLogName_of_badName {e : LogNameError} (h : readLog files path = .error (.badName e)) :
    keyOfLogName (Path.base path) = .error e := by
  unfold readLog at h
  split at h
  · cases h
    assumption
  · split at h <;> cases h

theorem readLog_of_readFile {k : Key} {text : String}
    (hkey : keyOfLogName (Path.base path) = .ok k) (hfile : files.readFile path = .ok text) :
    readLog files path = .ok (k, text) := by
  unfold readLog
  rw [hkey, hfile]

end Read

/-! ## The last-writer rule -/

/-- The readable logs of the names visited, in order: the cell each names and its text. -/
def readableLogs (files : FileTree) (dir : String) (names : List String) : List (Key × String) :=
  names.filterMap fun n => (readLog files (Path.join [dir, n])).toOption

/-- What one more log of a cell does to it: a log that does not report a failure fills it with its
record and clears its mark; one that does marks it missing with its state, unless the cell holds a
record. -/
def logUpdate (c : Option Record × Option String) (key : Key) (text : String) :
    Option Record × Option String :=
  match failedStatus? text with
  | none => (some (parseReport key text).record, none)
  | some status => if c.1.isSome then c else (none, some status)

/-- The cell a key holds after the texts of its logs are read in order: the record of the last
that does not report a failure, with no mark; when all report one, the state of the last; nothing
when there is none. -/
def cellOfTexts (k : Key) (texts : List String) : Option Record × Option String :=
  match (texts.filter fun t => (failedStatus? t).isNone).getLast? with
  | some text => (some (parseReport k text).record, none)
  | none =>
    match texts.getLast? with
    | some text => (none, failedStatus? text)
    | none => (none, none)

/-- The cell a key holds after logs are read in order by the last-writer rule. -/
def lastWriterCell (logs : List (Key × String)) (k : Key) : Option Record × Option String :=
  cellOfTexts k ((logs.filter (·.1 == k)).map (·.2))

theorem cellOfTexts_append (k : Key) (texts : List String) (text : String) :
    cellOfTexts k (texts ++ [text]) = logUpdate (cellOfTexts k texts) k text := by
  unfold cellOfTexts logUpdate
  cases hf : failedStatus? text with
  | none => simp [hf]
  | some status =>
    -- a failed log is passed over by the search for the last record
    cases hlast : (texts.filter fun t => (failedStatus? t).isNone).getLast? with
    | some t => simp [hf, hlast]
    | none => cases hl : texts.getLast? <;> simp [hf, hlast, hl]

/-- One more log changes only its own cell, as `logUpdate` says. -/
theorem lastWriterCell_append (logs : List (Key × String)) (key : Key) (text : String) (k : Key) :
    lastWriterCell (logs ++ [(key, text)]) k =
      if k = key then logUpdate (lastWriterCell logs k) key text else lastWriterCell logs k := by
  unfold lastWriterCell
  by_cases hk : k = key
  · subst hk
    have htexts : ((logs ++ [(k, text)]).filter (·.1 == k)).map (·.2) =
        (logs.filter (·.1 == k)).map (·.2) ++ [text] := by
      simp
    rw [htexts, cellOfTexts_append, if_pos rfl]
  · have hlogs : (logs ++ [(key, text)]).filter (·.1 == k) = logs.filter (·.1 == k) := by
      simp [Ne.symm hk]
    rw [hlogs, if_neg hk]

/-! ## One log -/

theorem ingestRecord_spec (name : String) {key : Key} (text : String) {o : Outcome}
    (hk : checkKey key = .ok ()) (hfz : o.table.frozen = false) :
    (ingestLog.ingestRecord key name text o).executed = o.executed + 1 ∧
      (ingestLog.ingestRecord key name text o).failed = o.failed ∧
      ∃ notes, (ingestLog.ingestRecord key name text o).diagnostics = o.diagnostics ++ notes ∧
        ∀ d ∈ notes, d.stage = .parse ∨ d.key = key := by
  have hout := Table.record_outcome (r := (parseReport key text).record) hfz hk
  have hparse : ∀ d ∈ (parseReport key text).diagnostics, d.stage = .parse := fun d hd =>
    stage_of_mem_parseReport hd
  unfold ingestLog.ingestRecord
  simp only [Outcome.note, Outcome.noteAll]
  rw [hout]
  -- the record is new, or it replaces one and the replacement is noted
  by_cases hfound : (o.table.find? key).isSome
  · rw [if_pos hfound]
    refine ⟨rfl, rfl, (parseReport key text).diagnostics ++
      [⟨.ingest, key, "", name ++ " replaced the record of an earlier log for the same cell"⟩],
      by simp, fun d hd => ?_⟩
    rcases List.mem_append.mp hd with hd | hd
    · exact .inl (hparse d hd)
    · rw [List.mem_singleton.mp hd]
      exact .inr rfl
  · rw [if_neg hfound]
    exact ⟨rfl, rfl, _, rfl, fun d hd => .inl (hparse d hd)⟩

section OneLog

variable {files : FileTree} {dir name : String} {o : Outcome} {key : Key} {text : String}

/-- Reading a readable log into an open, well-formed table: the table stays well formed and open,
the log's cell takes the log's update, and no other cell changes. -/
theorem ingestLog_table_readable (hread : readLog files (Path.join [dir, name]) = .ok (key, text))
    (hwf : o.table.WellFormed) (hfz : o.table.frozen = false) :
    (ingestLog files dir name o).table.WellFormed ∧
      (ingestLog files dir name o).table.frozen = false ∧
      ∀ k, (ingestLog files dir name o).table.cell k =
        if k = key then logUpdate (o.table.cell key) key text else o.table.cell k := by
  have hk := checkKey_of_keyOfLogName (keyOfLogName_of_readLog hread)
  rw [ingestLog_table hread]
  unfold logUpdate
  cases hf : failedStatus? text with
  | none => exact Table.record_step hwf hfz hk
  | some status =>
    simp only
    by_cases hfound : (o.table.find? key).isSome
    · -- a cell holding a record refuses the mark and keeps its record
      rw [Table.markMissing_of_find?_isSome hfz hk hfound]
      refine ⟨hwf, hfz, fun k => ?_⟩
      by_cases hkk : k = key
      · subst hkk
        simp [Table.cell, hfound]
      · rw [if_neg hkk]
    · have hfree : o.table.find? key = none := Option.not_isSome_iff_eq_none.mp hfound
      have hempty : (o.table.cell key).1 = none := hfree
      simp only [hempty, Option.isSome_none, Bool.false_eq_true, if_false]
      exact Table.markMissing_step hwf hfz hk hfree

/-- Reading a readable log counts it as read when it reports no failure and as failed otherwise,
and adds notes at the parse stage or about its cell. -/
theorem ingestLog_tally_readable (hread : readLog files (Path.join [dir, name]) = .ok (key, text))
    (hfz : o.table.frozen = false) :
    (ingestLog files dir name o).executed =
        o.executed + (if (failedStatus? text).isNone then 1 else 0) ∧
      (ingestLog files dir name o).failed =
        o.failed + (if (failedStatus? text).isSome then 1 else 0) ∧
      ∃ notes, (ingestLog files dir name o).diagnostics = o.diagnostics ++ notes ∧
        ∀ d ∈ notes, d.stage = .parse ∨ d.key = key := by
  have hk := checkKey_of_keyOfLogName (keyOfLogName_of_readLog hread)
  obtain ⟨hexecuted, hfailed, notes, hnotes, hkeys⟩ :=
    ingestRecord_spec name text hk hfz
  unfold ingestLog failedStatus?
  rw [hread]
  dsimp only
  cases hs : statusLine? text with
  | none => simpa [hexecuted, hfailed] using ⟨notes, hnotes, hkeys⟩
  | some status =>
    by_cases hx : status = "exit 0"
    · simpa [hx, hexecuted, hfailed] using ⟨notes, hnotes, hkeys⟩
    · -- a failure: counted, noted, and the cell marked unless it holds a record
      simp only [hx, bne_iff_ne, ne_eq, not_false_eq_true, if_true, Outcome.note,
        Option.filter_some, Option.isNone_some, Option.isSome_some]
      cases (o.table.markMissing key status).2 with
      | ok _ => exact ⟨rfl, rfl, _, rfl, by simp⟩
      | error e => exact ⟨rfl, rfl, _, List.append_assoc .., by simp⟩

/-- Reading a log that cannot be read, or whose name identifies no cell, changes nothing but adds
one note at the ingest stage: keyed by the name alone when the name identifies no cell, and by
the cell it identifies otherwise. -/
theorem ingestLog_unreadable {err : LogReadError}
    (hread : readLog files (Path.join [dir, name]) = .error err) :
    (ingestLog files dir name o).table = o.table ∧
      (ingestLog files dir name o).executed = o.executed ∧
      (ingestLog files dir name o).failed = o.failed ∧
      ∃ d, (ingestLog files dir name o).diagnostics = o.diagnostics ++ [d] ∧ d.stage = .ingest ∧
        (nameRejected dir name = true ∧ d.key = { family := "", benchmark := name } ∨
          nameRejected dir name = false ∧ d.key.family ≠ "") := by
  unfold ingestLog
  rw [hread]
  refine ⟨rfl, rfl, rfl, _, rfl, rfl, ?_⟩
  cases err with
  | badName e => exact .inl ⟨by simp [nameRejected, keyOfLogName_of_badName hread], rfl⟩
  | unreadable k p e =>
    have hname := keyOfLogName_of_unreadable hread
    exact .inr ⟨by simp [nameRejected, hname],
      Key.family_ne_empty_of_checkKey (checkKey_of_keyOfLogName hname)⟩

end OneLog

/-! ## A directory -/

/-- Whether a note is the one a name that identifies no cell gives: at the ingest stage, keyed by
the name alone. -/
def Diagnostic.rejectsName (n : String) (d : Diagnostic) : Bool :=
  d.stage == .ingest && d.key == { family := "", benchmark := n }

theorem Diagnostic.rejectsName_of_stage {d : Diagnostic} (n : String) (h : d.stage ≠ .ingest) :
    d.rejectsName n = false := by
  simp [rejectsName, h]

theorem Diagnostic.rejectsName_of_family {d : Diagnostic} (n : String) (h : d.key.family ≠ "") :
    d.rejectsName n = false := by
  have hkey : d.key ≠ { family := "", benchmark := n } := fun hk => h (by rw [hk])
  simp [rejectsName, hkey]

section Directory

variable {files : FileTree} {dir : String} {o : Outcome}

theorem readableLogs_append_ok (names : List String) {m : String} {key : Key} {text : String}
    (h : readLog files (Path.join [dir, m]) = .ok (key, text)) :
    readableLogs files dir (names ++ [m]) = readableLogs files dir names ++ [(key, text)] := by
  simp [readableLogs, h, Except.toOption]

theorem readableLogs_append_error (names : List String) {m : String} {err : LogReadError}
    (h : readLog files (Path.join [dir, m]) = .error err) :
    readableLogs files dir (names ++ [m]) = readableLogs files dir names := by
  simp [readableLogs, h, Except.toOption]

/-- What reading the logs `names` of a directory in order leaves in an open outcome: each cell as
the last-writer rule says, the logs that did not fail counted as read and the others as failed,
and one note for each name that identifies no cell. -/
structure ReadSoFar (files : FileTree) (dir : String) (names : List String) (o : Outcome) :
    Prop where
  wellFormed : o.table.WellFormed
  notFrozen : o.table.frozen = false
  cell : ∀ k, o.table.cell k = lastWriterCell (readableLogs files dir names) k
  executed : o.executed = (readableLogs files dir names).countP fun l => (failedStatus? l.2).isNone
  failed : o.failed = (readableLogs files dir names).countP fun l => (failedStatus? l.2).isSome
  rejected : ∀ n, o.diagnostics.countP (Diagnostic.rejectsName n) =
    names.countP fun m => m == n && nameRejected dir m

theorem ReadSoFar.empty (files : FileTree) (dir : String) : ReadSoFar files dir [] {} where
  wellFormed := Table.wellFormed_empty
  notFrozen := rfl
  cell k := (Table.cell_empty k).trans rfl
  executed := rfl
  failed := rfl
  rejected _ := rfl

/-- One more log keeps the invariant. -/
theorem ReadSoFar.step {names : List String} (h : ReadSoFar files dir names o) (m : String) :
    ReadSoFar files dir (names ++ [m]) (ingestLog files dir m o) := by
  cases hread : readLog files (Path.join [dir, m]) with
  | ok log =>
    obtain ⟨key, text⟩ := log
    have hk := checkKey_of_keyOfLogName (keyOfLogName_of_readLog hread)
    have hm : nameRejected dir m = false := by simp [nameRejected, keyOfLogName_of_readLog hread]
    obtain ⟨hwf, hfz, hcell⟩ := ingestLog_table_readable hread h.wellFormed h.notFrozen
    obtain ⟨hexecuted, hfailed, notes, hnotes, hkeys⟩ := ingestLog_tally_readable hread h.notFrozen
    -- no note of a readable log is keyed by a name alone
    have hquiet : ∀ n, notes.countP (Diagnostic.rejectsName n) = 0 := by
      intro n
      refine List.countP_eq_zero.mpr fun d hd => ?_
      rcases hkeys d hd with hstage | hkey
      · simp [Diagnostic.rejectsName_of_stage n (by rw [hstage]; decide)]
      · have hfamily : d.key.family ≠ "" := by
          rw [hkey]
          exact Key.family_ne_empty_of_checkKey hk
        simp [Diagnostic.rejectsName_of_family n hfamily]
    have hlogs := readableLogs_append_ok names hread
    refine ⟨hwf, hfz, fun k => ?_, ?_, ?_, fun n => ?_⟩
    · rw [hcell k, hlogs, lastWriterCell_append]
      by_cases hkk : k = key
      · subst hkk
        rw [if_pos rfl, if_pos rfl, h.cell]
      · rw [if_neg hkk, if_neg hkk, h.cell]
    · rw [hexecuted, h.executed, hlogs, List.countP_append]
      simp
    · rw [hfailed, h.failed, hlogs, List.countP_append]
      simp
    · rw [hnotes, List.countP_append, hquiet, h.rejected, List.countP_append]
      simp [hm]
  | error err =>
    obtain ⟨htable, hexecuted, hfailed, d, hd, hstage, hname⟩ := ingestLog_unreadable (o := o) hread
    have hlogs := readableLogs_append_error names hread
    refine ⟨htable ▸ h.wellFormed, htable ▸ h.notFrozen, fun k => ?_, ?_, ?_, fun n => ?_⟩
    · rw [htable, hlogs, h.cell]
    · rw [hexecuted, hlogs, h.executed]
    · rw [hfailed, hlogs, h.failed]
    rw [hd, List.countP_append, List.countP_append, h.rejected]
    -- the note is the name's own exactly when the name identifies no cell
    rcases hname with ⟨hm, hkey⟩ | ⟨hm, hfamily⟩
    · simp [Diagnostic.rejectsName, hstage, hkey, hm]
    · simp [Diagnostic.rejectsName_of_family n hfamily, hm]

/-- Reading the logs `names` after `pre` keeps the invariant, log by log. -/
theorem ReadSoFar.foldl {pre : List String} (h : ReadSoFar files dir pre o) (names : List String) :
    ReadSoFar files dir (pre ++ names) (names.foldl (fun o n => ingestLog files dir n o) o) := by
  induction names generalizing pre o with
  | nil => simpa using h
  | cons m rest ih =>
    rw [List.foldl_cons, List.append_cons]
    exact ih (h.step m)

end Directory

/-! ## The directory read -/

/-- Counting the copies of `n` that pass a test counts all of them or none, as `n` passes it. -/
theorem countP_beq_and (names : List String) (n : String) (p : String → Bool) :
    names.countP (fun m => m == n && p m) = if p n then names.count n else 0 := by
  -- the test is only asked of copies of `n`
  have hsame : names.countP (fun m => m == n && p m) = names.countP (fun m => m == n && p n) :=
    List.countP_congr fun m _ => by by_cases hm : m = n <;> simp [hm]
  rw [hsame]
  cases p n <;> simp [List.count]

/-- The names visited are sorted. -/
theorem logNames_sorted (entries : List (String × Entry)) :
    (logNames entries).Pairwise (· ≤ ·) := by
  unfold logNames
  refine List.Pairwise.imp (fun h => of_decide_eq_true h) (List.pairwise_mergeSort ?_ ?_ _)
  · intro a b c hab hbc
    simp only [decide_eq_true_eq] at hab hbc ⊢
    exact le_trans hab hbc
  · intro a b
    simpa using le_total a b

/-- The names visited are those of the entries that are not directories and end in `.out`. -/
theorem mem_logNames {entries : List (String × Entry)} {n : String} :
    n ∈ logNames entries ↔ ∃ e, (n, e) ∈ entries ∧ e ≠ .dir ∧ n.endsWith logSuffix = true := by
  unfold logNames
  simp only [List.mem_mergeSort, List.mem_filterMap]
  constructor
  · rintro ⟨⟨m, e⟩, hmem, hsome⟩
    -- only an entry that is not a directory and whose name ends in `.out` gives a name
    cases e <;> simp only [Option.ite_none_right_eq_some, Option.some.injEq, reduceCtorEq] at hsome
    all_goals
      obtain ⟨hend, rfl⟩ := hsome
      exact ⟨_, hmem, by simp, hend⟩
  · rintro ⟨e, hmem, hdir, hend⟩
    refine ⟨(n, e), hmem, ?_⟩
    cases e <;> simp_all

/-- Under a live context, reading a directory whose listing succeeds visits, in name order, the
entries that are not directories and end in `.out`. It gives a frozen table whose every cell is
as the last-writer rule over the readable logs says, so that no cell without a readable log is
filled; the logs that did not fail count as read and the others as failed; and each name that
identifies no cell gives one note at the ingest stage, keyed by the name alone. -/
theorem ingest_last_writer {ctx : RunContext} {files : FileTree} {dir : String}
    {entries : List (String × Entry)} (hlive : ctx.Live) (hdir : files.readDir dir = .ok entries) :
    let names := logNames entries
    let logs := readableLogs files dir names
    names.Pairwise (· ≤ ·) ∧
      (∀ n, n ∈ names ↔ ∃ e, (n, e) ∈ entries ∧ e ≠ .dir ∧ n.endsWith logSuffix = true) ∧
      ∃ out, ingest ctx files dir = .ok out ∧ out.table.frozen = true ∧
        (∀ k, out.table.cell k = lastWriterCell logs k) ∧
        out.executed = logs.countP (fun l => (failedStatus? l.2).isNone) ∧
        out.failed = logs.countP (fun l => (failedStatus? l.2).isSome) ∧
        ∀ n, out.diagnostics.countP (Diagnostic.rejectsName n) =
          if nameRejected dir n then names.count n else 0 := by
  intro names logs
  have hread := (ReadSoFar.empty files dir).foldl names
  rw [List.nil_append] at hread
  refine ⟨logNames_sorted entries, fun n => mem_logNames, _, ingest_eq_ok hlive hdir, rfl,
    hread.cell, hread.executed, hread.failed, fun n => ?_⟩
  -- finishing sorts the notes and adds those of the summaries, which are at the aggregate stage
  have hsummaries : ∀ t : Table, t.aggregate.2.countP (Diagnostic.rejectsName n) = 0 :=
    fun t => List.countP_eq_zero.mpr fun d hd => by
      simp [Diagnostic.rejectsName_of_stage n (by rw [Table.stage_of_mem_aggregate hd]; decide)]
  rw [Outcome.finish_diagnostics, (Diagnostic.sort_perm _).countP_eq, List.countP_append,
    hsummaries, Nat.add_zero, hread.rejected n]
  exact countP_beq_and names n (nameRejected dir)

/-- A directory with a log that reports a record, a later log of the same cell that reports a
failure, and a name that identifies no cell: the record stays. -/
theorem ingest_last_writer_sample :
    let files : FileTree := { entries := [("gcc_taken.out", .file "sim_IPC 1.5\n" false),
      ("gcc_taken_0.out", .file "# status: exit 1\n" false), ("notes.out", .file "" false)] }
    ∃ out, ingest .background files "" = .ok out ∧
      out.table.cell ⟨"taken", "gcc", 0⟩ =
        (some (parseReport ⟨"taken", "gcc", 0⟩ "sim_IPC 1.5\n").record, none) := by
  intro files
  have hlive : RunContext.background.Live := ⟨by decide, rfl⟩
  -- the entries are stored under plain names, already in name order
  have hsorted : files.entries.mergeSort (fun a b => decide (a.1 ≤ b.1)) = files.entries :=
    List.mergeSort_of_pairwise (by decide +kernel)
  have hdir : files.readDir "" = .ok files.entries := by
    rw [FileTree.readDir_top, FileTree.children_top (by decide +kernel), hsorted]
  have hnames : logNames files.entries = ["gcc_taken.out", "gcc_taken_0.out", "notes.out"] := by
    unfold logNames
    rw [List.mergeSort_of_pairwise (by decide +kernel)]
    decide +kernel
  have hfirst : readLog files (Path.join ["", "gcc_taken.out"]) =
      .ok (⟨"taken", "gcc", 0⟩, "sim_IPC 1.5\n") := by
    rw [show Path.join ["", "gcc_taken.out"] = "gcc_taken.out" by decide +kernel]
    exact readLog_of_readFile (by rfl) (FileTree.readFile_top (x := false) (by decide +kernel)
      (by decide) (by decide) (by decide +kernel) (by decide +kernel))
  have hsecond : readLog files (Path.join ["", "gcc_taken_0.out"]) =
      .ok (⟨"taken", "gcc", 0⟩, "# status: exit 1\n") := by
    rw [show Path.join ["", "gcc_taken_0.out"] = "gcc_taken_0.out" by decide +kernel]
    exact readLog_of_readFile (by rfl) (FileTree.readFile_top (x := false) (by decide +kernel)
      (by decide) (by decide) (by decide +kernel) (by decide +kernel))
  have hthird : (readLog files (Path.join ["", "notes.out"])).toOption = none := by decide +kernel
  have hlogs : readableLogs files "" (logNames files.entries) =
      [(⟨"taken", "gcc", 0⟩, "sim_IPC 1.5\n"), (⟨"taken", "gcc", 0⟩, "# status: exit 1\n")] := by
    rw [hnames]
    simp only [readableLogs, List.filterMap_cons, List.filterMap_nil, hfirst, hsecond, hthird]
    rfl
  have hread : failedStatus? "sim_IPC 1.5\n" = none := by decide +kernel
  have hfailed : failedStatus? "# status: exit 1\n" = some "exit 1" := by decide +kernel
  obtain ⟨-, -, out, hout, -, hcell, -⟩ := ingest_last_writer hlive hdir
  refine ⟨out, hout, ?_⟩
  rw [hcell, hlogs]
  simp [lastWriterCell, cellOfTexts, hread, hfailed]

end PredictorSweep
