import Mathlib.Data.List.Infix
import PredictorSweep.Proofs.Path
import PredictorSweep.Proofs.Plan
import PredictorSweep.Report.LogName
/-!
# Reading a job's log name back

A job's log is named `benchmark_label.out`, and reading a log name splits it at the *first*
point where an underscore, a family name and an ending complete it. Underscores can sit inside
a benchmark and inside a family name, so the first such point need not be the one the name was
written with. Split at underscores, a log name is the benchmark's pieces, the family's pieces,
and the digit runs of the ending; the digit runs are told apart from the family's last piece,
which is a word. An earlier split therefore moves pieces of the benchmark into the family name,
and the only family names that extend another at the front are the combined predictors
`comb_bimod_gshare` and `comb_bimod_gselect`.

So every job's log name is read back as the job's own cell, except when the job runs a two-level
family (`gshare` or `gselect`) on a benchmark that is a non-empty text followed by `_comb_bimod`:
that name is read as the combined family's cell for the shorter benchmark.

Proved here:

* `readEnding_eq_some_iff`: the endings a name may have after the family;
* `eq_combined_of_append_eq`: two ways of writing one name differ only by `_comb_bimod`;
* `splitAfter_eq_some_iff`, `splitFrom_append`: how a name is split;
* `readInt_toString`: sizes and widths are read back as written;
* `keyOfLogName_jobLogName`, `keyOfLogName_jobLogName_combined`: the cell a job's log name reads
  as, in each case;
* `keyOfLogName_base_logPath_iff`: a job of a plan is read back from its log path exactly when
  it is not such a two-level job.
-/

namespace PredictorSweep

/-! ## Endings -/

/-- A run of one or more ASCII digits. -/
def isDigitRun (d : List Char) : Bool := !d.isEmpty && d.all isAsciiDigit

/-- What follows the family in a log name: each digit run after an underscore, then `.out`. -/
def endingOf (ds : List (List Char)) : List Char := ds.flatMap ('_' :: ·) ++ logSuffix.toList

theorem isDigitRun_iff {d : List Char} : isDigitRun d ↔ d ≠ [] ∧ ∀ c ∈ d, isAsciiDigit c := by
  simp [isDigitRun]

theorem not_mem_of_isDigitRun {d : List Char} (hd : isDigitRun d) {c : Char}
    (hc : isAsciiDigit c = false) : c ∉ d := fun h => by
  simp [(isDigitRun_iff.mp hd).2 c h] at hc

/-- A digit run is read whole when a non-digit follows it. -/
theorem takeWhile_digitRun {d : List Char} (hd : isDigitRun d) (c : Char)
    (hc : isAsciiDigit c = false) (rest : List Char) :
    (d ++ c :: rest).takeWhile isAsciiDigit = d := by
  rw [List.takeWhile_append_of_pos (isDigitRun_iff.mp hd).2,
    List.takeWhile_cons_of_neg (by simp [hc]), List.append_nil]

theorem readEnding_endingOf {ds : List (List Char)} (hds : ∀ d ∈ ds, isDigitRun d)
    (hlen : ds.length ≤ 2) :
    readEnding (endingOf ds) = some (ds[0]?.map String.ofList, ds[1]?.map String.ofList) := by
  match ds, hds, hlen with
  | [], _, _ => rfl
  | [d₁], hds, _ =>
    have h₁ := hds d₁ (by simp)
    have hne : d₁ ≠ [] := (isDigitRun_iff.mp h₁).1
    simp [readEnding, endingOf, logSuffix, takeWhile_digitRun h₁ '.' rfl, hne]
  | [d₁, d₂], hds, _ =>
    have h₁ := hds d₁ (by simp)
    have h₂ := hds d₂ (by simp)
    have hne₁ : d₁ ≠ [] := (isDigitRun_iff.mp h₁).1
    have hne₂ : d₂ ≠ [] := (isDigitRun_iff.mp h₂).1
    simp [readEnding, endingOf, logSuffix, takeWhile_digitRun h₁ '_' rfl,
      takeWhile_digitRun h₂ '.' rfl, hne₁, hne₂]
  | _ :: _ :: _ :: _, _, hlen => simp at hlen

/-- A text is its longest run of leading digits and what follows. -/
theorem digitPrefix_append (rest : List Char) :
    rest = rest.takeWhile isAsciiDigit ++ rest.drop (rest.takeWhile isAsciiDigit).length := by
  conv_lhs => rw [← List.take_append_drop (rest.takeWhile isAsciiDigit).length rest]
  rw [← List.prefix_iff_eq_take.mp (List.takeWhile_prefix isAsciiDigit)]

theorem isDigitRun_takeWhile {rest : List Char}
    (hne : (rest.takeWhile isAsciiDigit).isEmpty = false) :
    isDigitRun (rest.takeWhile isAsciiDigit) := by
  simp [isDigitRun, hne, List.all_takeWhile]

theorem exists_endingOf_of_readEnding {cs : List Char} {sw : Option String × Option String}
    (h : readEnding cs = some sw) :
    ∃ ds, cs = endingOf ds ∧ (∀ d ∈ ds, isDigitRun d) ∧ ds.length ≤ 2 := by
  unfold readEnding at h
  dsimp only at h
  split_ifs at h with h0
  · exact ⟨[], by simpa [endingOf] using h0, by simp, by simp⟩
  · split at h
    · rename_i rest
      -- the first digit run, then either `.out` or a second run
      have hrest := digitPrefix_append rest
      split_ifs at h with h1 h2
      · have hrun₁ := isDigitRun_takeWhile (by simpa using h1)
        refine ⟨[rest.takeWhile isAsciiDigit], ?_, by simpa using hrun₁, by simp⟩
        conv_lhs => rw [hrest, h2]
        simp [endingOf]
      · split at h
        · rename_i rest₂ hafter
          split_ifs at h with h3
          have hrun₁ := isDigitRun_takeWhile (by simpa using h1)
          have hrun₂ := isDigitRun_takeWhile (by simpa using h3.1)
          refine ⟨[rest.takeWhile isAsciiDigit, rest₂.takeWhile isAsciiDigit], ?_,
            by simp [hrun₁, hrun₂], by simp⟩
          conv_lhs => rw [hrest, hafter, digitPrefix_append rest₂, h3.2]
          simp [endingOf]
        · simp at h
    · simp at h

/-- The endings a log name may have after its family: up to two digit runs, each after an
underscore, then `.out`; the runs are the size and width digits read. -/
theorem readEnding_eq_some_iff {cs : List Char} {sw : Option String × Option String} :
    readEnding cs = some sw ↔ ∃ ds, cs = endingOf ds ∧ (∀ d ∈ ds, isDigitRun d) ∧
      ds.length ≤ 2 ∧ sw = (ds[0]?.map String.ofList, ds[1]?.map String.ofList) := by
  constructor
  · intro h
    obtain ⟨ds, rfl, hds, hlen⟩ := exists_endingOf_of_readEnding h
    rw [readEnding_endingOf hds hlen] at h
    exact ⟨ds, rfl, hds, hlen, (Option.some.inj h).symm⟩
  · rintro ⟨ds, rfl, hds, hlen, rfl⟩
    exact readEnding_endingOf hds hlen

/-! ## Underscore pieces

Split at its underscores, a log name is what the benchmark, the family name and the ending's
digit runs are made of. The family name's last piece is a word, so the digit runs at the end are
the ending's, whichever way the name is read; what precedes them must then agree. -/

theorem splitOn_append_runs (x : List Char) {ds : List (List Char)} (hds : ∀ d ∈ ds, '_' ∉ d) :
    (x ++ ds.flatMap ('_' :: ·)).splitOn '_' = x.splitOn '_' ++ ds := by
  induction ds generalizing x with
  | nil => simp
  | cons d ds ih =>
    have hd := hds d (by simp)
    rw [List.flatMap_cons, List.cons_append, List.splitOn_append_cons_self,
      ih d fun e he => hds e (by simp [he]), List.splitOn_eq_singleton hd]
    simp

/-- Two lists that end in runs of items `p` accepts, after a last item it refuses, are equal in
their runs and in what precedes them. -/
theorem append_inj_of_getLast {α : Type} {p : α → Bool} {xs ys ds es : List α}
    (hxs : ∀ a ∈ xs.getLast?, p a = false) (hys : ∀ a ∈ ys.getLast?, p a = false)
    (hds : ∀ d ∈ ds, p d) (hes : ∀ e ∈ es, p e) (h : xs ++ ds = ys ++ es) :
    xs = ys ∧ ds = es := by
  -- read backwards, the run is the longest prefix that `p` accepts
  have hrun : ∀ l ms : List α, (∀ a ∈ l.getLast?, p a = false) → (∀ m ∈ ms, p m) →
      (l ++ ms).reverse.takeWhile p = ms.reverse := by
    intro l ms hl hms
    rw [List.reverse_append, List.takeWhile_append_of_pos (by simpa using hms)]
    cases hrev : l.reverse with
    | nil => simp
    | cons a t =>
      have ha : p a = false := hl a (by rw [← List.head?_reverse, hrev]; rfl)
      simp [ha]
  have hde : ds = es := by
    have := congrArg (fun l => l.reverse.takeWhile p) h
    simp only [hrun xs ds hxs hds, hrun ys es hys hes] at this
    exact List.reverse_inj.mp this
  subst hde
  exact ⟨List.append_cancel_right h, rfl⟩

theorem Family.getLast_splitOn_name (F : Family) :
    ∀ a ∈ (F.name.toList.splitOn '_').getLast?, isDigitRun a = false := by
  cases F <;> decide

/-- The only family names that extend another by pieces in front are the combined predictors,
which put `comb` and `bimod` before a two-level family. -/
theorem Family.splitOn_name_of_append (F f : Family) (G : List (List Char))
    (h : G ++ F.name.toList.splitOn '_' = f.name.toList.splitOn '_') :
    G = [] ∨ G = ["comb".toList, "bimod".toList] ∧
      (F = .gshare ∧ f = .combBimodGshare ∨ F = .gselect ∧ f = .combBimodGselect) := by
  have hsuffix : F.name.toList.splitOn '_' <:+ f.name.toList.splitOn '_' := ⟨G, h⟩
  have hG : G = (f.name.toList.splitOn '_').take
      ((f.name.toList.splitOn '_').length - (F.name.toList.splitOn '_').length) := by
    rw [← h]
    simp
  subst hG
  revert hsuffix
  cases F <;> cases f <;> decide

/-- Two ways of writing one log name, with a non-empty benchmark text `w` moved into the family
on the right, differ exactly by `_comb_bimod` in front of a two-level family. -/
theorem eq_combined_of_append_eq {w : List Char} {F f : Family} {ds es : List (List Char)}
    (hw : w ≠ []) (hds : ∀ d ∈ ds, isDigitRun d) (hes : ∀ e ∈ es, isDigitRun e)
    (h : w ++ '_' :: (F.name.toList ++ endingOf ds) = '_' :: (f.name.toList ++ endingOf es)) :
    w = "_comb_bimod".toList ∧
      (F = .gshare ∧ f = .combBimodGshare ∨ F = .gselect ∧ f = .combBimodGselect) := by
  -- without the file ending, each side is its pieces before the runs, then the runs
  have h₁ : (w ++ '_' :: F.name.toList) ++ ds.flatMap ('_' :: ·) =
      ([] ++ '_' :: f.name.toList) ++ es.flatMap ('_' :: ·) := by
    have h' : ((w ++ '_' :: F.name.toList) ++ ds.flatMap ('_' :: ·)) ++ logSuffix.toList =
        (([] ++ '_' :: f.name.toList) ++ es.flatMap ('_' :: ·)) ++ logSuffix.toList := by
      simpa [endingOf, List.append_assoc] using h
    exact List.append_cancel_right h'
  have h₂ := congrArg (List.splitOn '_') h₁
  rw [splitOn_append_runs _ fun d hd => not_mem_of_isDigitRun (hds d hd) rfl,
    splitOn_append_runs _ fun e he => not_mem_of_isDigitRun (hes e he) rfl,
    List.splitOn_append_cons_self, List.splitOn_append_cons_self, List.splitOn_nil] at h₂
  have hlast : ∀ (G : List (List Char)) (F : Family),
      ∀ a ∈ (G ++ F.name.toList.splitOn '_').getLast?, isDigitRun a = false := by
    intro G F
    rw [List.getLast?_append_of_ne_nil _ (List.splitOn_ne_nil _ _)]
    exact F.getLast_splitOn_name
  obtain ⟨h₃, -⟩ := append_inj_of_getLast (hlast _ F) (hlast _ f) hds hes h₂
  -- the benchmark text starts with an empty piece and is followed by the family's pieces
  obtain ⟨g, G, hwG⟩ := List.exists_cons_of_ne_nil (List.splitOn_ne_nil '_' w)
  rw [hwG, List.cons_append, List.singleton_append, List.cons.injEq] at h₃
  obtain ⟨rfl, hG⟩ := h₃
  have hw' : ['_'].intercalate (w.splitOn '_') = w := List.intercalate_splitOn '_'
  rw [hwG] at hw'
  rcases Family.splitOn_name_of_append F f G hG with rfl | ⟨rfl, hFf⟩
  · exact absurd (by simpa using hw'.symm) hw
  · exact ⟨by rw [← hw']; decide, hFf⟩

/-! ## Splitting a name -/

theorem Family.mem_namesByLength {x : String} :
    x ∈ Family.namesByLength ↔ ∃ F : Family, F.name = x := by
  constructor
  · intro hx
    have hnames : ∀ x ∈ Family.namesByLength, ∃ F ∈ Family.all, F.name = x := by decide
    obtain ⟨F, -, hF⟩ := hnames x hx
    exact ⟨F, hF⟩
  · rintro ⟨F, rfl⟩
    cases F <;> decide

theorem Family.namesByLength_nodup : Family.namesByLength.Nodup := by
  decide

/-- No family name is a proper prefix of another. -/
theorem Family.eq_of_prefix_name {F f : Family} (h : F.name.toList <+: f.name.toList) :
    F = f := by
  have hall : ∀ F ∈ Family.all, ∀ f ∈ Family.all, F.name.toList <+: f.name.toList → F = f := by
    decide
  exact hall F F.mem_all f f.mem_all h

/-- The only family name that starts a family name followed by more text is that family's. -/
theorem Family.eq_of_prefix_name_append {F f : Family} {e : List Char}
    (h : f.name.toList <+: F.name.toList ++ e) : f = F := by
  rcases List.prefix_or_prefix_of_prefix h (List.prefix_append _ _) with h' | h'
  · exact Family.eq_of_prefix_name h'
  · exact (Family.eq_of_prefix_name h').symm

/-- The pieces of a name split after `bench`, with the family `family` and an ending of the digit
runs `ds`. -/
def LogNameParts.ofRuns (bench : List Char) (family : String) (ds : List (List Char)) :
    LogNameParts :=
  { benchmark := String.ofList bench, family,
    size := ds[0]?.map String.ofList, width := ds[1]?.map String.ofList }

/-- What a name must look like after the benchmark for the split there to succeed, and the pieces
it then gives. -/
theorem splitAfter_eq_some_iff {bench rest : List Char} {parts : LogNameParts} :
    splitAfter bench rest = some parts ↔ ∃ (F : Family) (ds : List (List Char)),
      rest = '_' :: (F.name.toList ++ endingOf ds) ∧ (∀ d ∈ ds, isDigitRun d) ∧
        ds.length ≤ 2 ∧ parts = .ofRuns bench F.name ds := by
  constructor
  · intro h
    unfold splitAfter at h
    split at h
    · rename_i tail
      obtain ⟨x, hx, hgx⟩ := List.exists_of_findSome?_eq_some h
      obtain ⟨F, rfl⟩ := Family.mem_namesByLength.mp hx
      split at hgx
      · rename_i hprefix
        obtain ⟨e, rfl⟩ := List.isPrefixOf_iff_prefix.mp hprefix
        rw [← String.length_toList, List.drop_left] at hgx
        obtain ⟨sw, hsw, rfl⟩ := Option.map_eq_some_iff.mp hgx
        obtain ⟨ds, rfl, hds, hlen, rfl⟩ := readEnding_eq_some_iff.mp hsw
        exact ⟨F, ds, rfl, hds, hlen, rfl⟩
      · simp at hgx
    · simp at h
  · rintro ⟨F, ds, rfl, hds, hlen, rfl⟩
    unfold splitAfter
    show Family.namesByLength.findSome? _ = _
    obtain ⟨l₁, l₂, hnames⟩ := List.append_of_mem (Family.mem_namesByLength.mpr ⟨F, rfl⟩)
    rw [List.findSome?_eq_some_iff]
    refine ⟨l₁, F.name, l₂, hnames, ?_, fun x hx => ?_⟩
    · -- the family's own name completes the name
      simp [List.isPrefixOf_iff_prefix, ← String.length_toList, readEnding_endingOf hds hlen,
        LogNameParts.ofRuns]
    · -- a name listed before it belongs to another family, which does not start the text
      have hnodup := Family.namesByLength_nodup
      rw [hnames, List.nodup_append] at hnodup
      obtain ⟨f, rfl⟩ := Family.mem_namesByLength.mp (hnames ▸ List.mem_append_left _ hx)
      have hne : f ≠ F := fun hfF => hnodup.2.2 _ hx _ List.mem_cons_self (by rw [hfF])
      rw [if_neg]
      intro hprefix
      exact hne (Family.eq_of_prefix_name_append (List.isPrefixOf_iff_prefix.mp hprefix))

/-- Splitting a name whose first part `u` has no line feed and no earlier split: the split after
`u` is tried first. -/
theorem splitFrom_append {acc u v : List Char} (hu : u ≠ []) (hnl : '\n' ∉ u)
    (hfirst : ∀ u₁ u₂, u = u₁ ++ u₂ → u₁ ≠ [] → u₂ ≠ [] →
      splitAfter (acc ++ u₁) (u₂ ++ v) = none) :
    splitFrom acc (u ++ v) = (splitAfter (acc ++ u) v).or (splitFrom (acc ++ u) v) := by
  induction u generalizing acc with
  | nil => exact absurd rfl hu
  | cons c u ih =>
    have hc : c ≠ '\n' := fun h => hnl (h ▸ List.mem_cons_self)
    rw [List.cons_append, splitFrom, if_neg hc]
    by_cases hu' : u = []
    · subst hu'
      simp only [List.nil_append]
      cases splitAfter (acc ++ [c]) v <;> rfl
    · -- the split after `c` alone fails, and the rest of `u` has no earlier split either
      have hnone := hfirst [c] u rfl (by simp) hu'
      simp only [hnone]
      rw [ih hu' (fun h => hnl (List.mem_cons_of_mem c h)) fun u₁ u₂ h h₁ h₂ => by
        simpa using hfirst (c :: u₁) u₂ (by simp [h]) (by simp) h₂]
      simp

/-- A split before the benchmark's end succeeds only by moving `_comb_bimod` into the family:
the rest of the benchmark is `_comb_bimod`, and the family a two-level one. -/
theorem eq_combined_of_splitAfter {acc w : List Char} {F : Family} {ds : List (List Char)}
    (hw : w ≠ []) (hds : ∀ d ∈ ds, isDigitRun d)
    (h : splitAfter acc (w ++ '_' :: (F.name.toList ++ endingOf ds)) ≠ none) :
    w = "_comb_bimod".toList ∧ (F = .gshare ∨ F = .gselect) := by
  obtain ⟨parts, hparts⟩ := Option.ne_none_iff_exists'.mp h
  obtain ⟨f, es, hrest, hes, -, -⟩ := splitAfter_eq_some_iff.mp hparts
  obtain ⟨hw', hFf⟩ := eq_combined_of_append_eq hw hds hes hrest
  refine ⟨hw', ?_⟩
  rcases hFf with ⟨rfl, -⟩ | ⟨rfl, -⟩
  exacts [.inl rfl, .inr rfl]

/-! ## Sizes and widths as text -/

theorem toList_toString_of_nonneg {n : Int} (h : 0 ≤ n) :
    (toString n).toList = Nat.toDigits 10 n.toNat := by
  simp [Int.repr_eq_if, h, Nat.toList_repr]

theorem isAsciiDigit_of_mem_toDigits {c : Char} {m : Nat} (hc : c ∈ Nat.toDigits 10 m) :
    isAsciiDigit c := by
  have := Nat.isDigit_of_mem_toDigits (by decide) (by decide) hc
  simpa [Char.isDigit, isAsciiDigit, Char.le_def] using this

theorem isDigitRun_toString {n : Int} (h : 0 ≤ n) : isDigitRun (toString n).toList := by
  rw [toList_toString_of_nonneg h, isDigitRun_iff]
  exact ⟨Nat.toDigits_ne_nil, fun c hc => isAsciiDigit_of_mem_toDigits hc⟩

theorem digitValue_of_isAsciiDigit {c : Char} (hc : isAsciiDigit c) :
    Number.digitValue c = c.toNat - '0'.toNat := by
  simp [isAsciiDigit] at hc
  simp [Number.digitValue, hc]

/-- A number between zero and the largest 64-bit integer is read back from its decimal text. -/
theorem readInt_toString {n : Int} (h0 : 0 ≤ n) (h : n < Int.pow 2 63) :
    Number.readInt (toString n) = .ok n := by
  obtain ⟨c, cs, hcs⟩ := List.exists_cons_of_ne_nil (@Nat.toDigits_ne_nil n.toNat 10)
  have hdigit : ∀ d ∈ Nat.toDigits 10 n.toNat, isAsciiDigit d := fun d hd =>
    isAsciiDigit_of_mem_toDigits hd
  have hvalue : (Nat.toDigits 10 n.toNat).foldl (fun acc d => acc * 10 + Number.digitValue d) 0 =
      n.toNat := by
    rw [List.foldl_ext _ (fun acc d => 10 * acc + (d.toNat - '0'.toNat)) 0 fun acc d hd => by
      rw [digitValue_of_isAsciiDigit (hdigit d hd), Nat.mul_comm]]
    exact Nat.ofDigitChars_ten_toDigits
  have hc : isAsciiDigit c := hdigit c (by simp [hcs])
  have hplus : c ≠ '+' := fun h => by simp [h, isAsciiDigit] at hc
  have hminus : c ≠ '-' := fun h => by simp [h, isAsciiDigit] at hc
  unfold Number.readInt
  rw [toList_toString_of_nonneg h0]
  rw [hcs] at hdigit hvalue ⊢
  simp only
  split
  · rename_i r h'
    simp at h'
    exact absurd h'.1 hplus
  · rename_i r h'
    simp at h'
    exact absurd h'.1 hminus
  · -- digits only, no sign: the value is the number, which is in range
    have hall : (c :: cs).all (fun d => decide ('0' ≤ d) && decide (d ≤ '9')) = true :=
      List.all_eq_true.mpr fun d hd => by simpa [isAsciiDigit] using hdigit d hd
    have hlo : ¬n < -Int.pow 2 63 := by
      have : 0 ≤ Int.pow 2 63 := by decide
      omega
    simp only [List.isEmpty_cons, hall, Bool.not_true, Bool.false_eq_true, or_self, if_false,
      hvalue, Int.toNat_of_nonneg h0, hlo, ge_iff_le, false_or]
    rw [if_neg (Int.not_le.mpr h)]

/-- A valid size is at least the minimum, and its index width lies between zero and the size. -/
theorem indexWidth_bounds {size w : Int} (h : indexWidth size = .ok w) :
    8 ≤ size ∧ 0 ≤ w ∧ w < size := by
  have hvalid := validateSize_of_indexWidth h
  obtain ⟨-, hmin, -⟩ := validateSize_eq_ok_iff.mp hvalid
  have hw : w = (Nat.log2 size.toNat : Int) - 3 := by
    rw [indexWidth_eq, hvalid] at h
    exact (Except.ok.inj h).symm
  have hlog : 3 ≤ Nat.log2 size.toNat :=
    (Nat.le_log2 (by omega)).mpr (by simp; omega)
  have hself : Nat.log2 size.toNat ≤ size.toNat := Nat.log2_le_self _
  omega

/-! ## Labels -/

/-- The digit runs a specification's label writes after its family: the size of a table-backed
family, then the width of one that keeps a history. -/
def Spec.labelRuns (s : Spec) : List (List Char) :=
  if Family.nameSized s.family then
    if Family.nameUsesHistory s.family then [(toString s.size).toList, (toString s.width).toList]
    else [(toString s.size).toList]
  else []

theorem Spec.toList_label (s : Spec) :
    s.label.toList = s.family.toList ++ s.labelRuns.flatMap ('_' :: ·) := by
  unfold Spec.label Spec.labelRuns
  split_ifs <;> simp

theorem Spec.length_labelRuns (s : Spec) : s.labelRuns.length ≤ 2 := by
  unfold Spec.labelRuns
  split_ifs <;> simp

theorem Spec.isDigitRun_labelRuns {f : String} {size : Int} {s : Spec}
    (h : Spec.make f size = .ok s) : ∀ d ∈ s.labelRuns, isDigitRun d := by
  obtain ⟨F, ho, rfl, rfl, hcases⟩ := Spec.make_eq_ok h
  unfold Spec.labelRuns
  rcases hcases with ⟨hs, -, -⟩ | ⟨hs, hw⟩
  · simp [Family.nameSized, ho, hs]
  · obtain ⟨hmin, hw₀, -⟩ := indexWidth_bounds hw
    have hsize := isDigitRun_toString (show 0 ≤ s.size by omega)
    have hwidth := isDigitRun_toString hw₀
    intro d hd
    split_ifs at hd
    · simp only [List.mem_cons, List.not_mem_nil, or_false] at hd
      rcases hd with rfl | rfl
      exacts [hsize, hwidth]
    · simp only [List.mem_cons, List.not_mem_nil, or_false] at hd
      exact hd ▸ hsize
    · simp at hd

/-- The log name of a job, in characters: the benchmark, an underscore, the family and the
ending that holds the label's digit runs. -/
theorem toList_logName (b : String) (s : Spec) :
    (b ++ "_" ++ s.label ++ ".out").toList =
      b.toList ++ '_' :: (s.family.toList ++ endingOf s.labelRuns) := by
  simp [Spec.toList_label, endingOf, logSuffix]

/-- Pieces read as a validated specification's family, with its label's digit runs, give back the
specification's cell. -/
theorem keyOfLogName_of_split {name b : String} {s : Spec}
    (hs : Spec.make s.family s.size = .ok s) (hsize : s.size < Int.pow 2 63)
    (hsplit : splitLogName? name = some (.ofRuns b.toList s.family s.labelRuns)) :
    keyOfLogName name = .ok { family := s.family, benchmark := b, size := s.size } := by
  obtain ⟨F, ho, -, -, hcases⟩ := Spec.make_eq_ok hs
  unfold keyOfLogName
  simp only [hsplit, LogNameParts.ofRuns, Spec.labelRuns, Family.nameSized,
    Family.nameUsesHistory, ho]
  rcases hcases with ⟨hsz, hzero, -⟩ | ⟨hsz, hw⟩
  · -- no table: no digits, size zero
    have hs₀ : Spec.make s.family 0 = .ok s := hzero ▸ hs
    simp [hsz, hs₀, hzero, pure, Except.pure, bind, Except.bind]
  · -- a table: the size is read back, and so is the width of a family with history
    obtain ⟨hmin, hw₀, hwlt⟩ := indexWidth_bounds hw
    have hsizeText : Number.readInt s.size.repr = .ok s.size :=
      readInt_toString (show 0 ≤ s.size by omega) hsize
    have hwidthText : Number.readInt s.width.repr = .ok s.width :=
      readInt_toString hw₀ (by omega)
    cases hh : F.usesHistory
    · simp [hsz, hs, hsizeText, pure, Except.pure, bind, Except.bind]
    · simp [hsz, hs, hsizeText, hwidthText, pure, Except.pure, bind, Except.bind]

/-! ## Reading a job's log name -/

/-- A cell of a two-level family whose benchmark is a non-empty text followed by `_comb_bimod`.
Its job's log name is also the log name the combined family's job would have for the shorter
benchmark, and reading prefers the shorter benchmark. -/
def Key.ReadsAsCombined (k : Key) : Prop :=
  (k.family = Family.gshare.name ∨ k.family = Family.gselect.name) ∧
    ∃ p : String, p ≠ "" ∧ k.benchmark = p ++ "_comb_bimod"

/-- Written after a two-level family, `_comb_bimod` and the family make the combined family. -/
theorem combined_toList_name {F f : Family}
    (hFf : F = .gshare ∧ f = .combBimodGshare ∨ F = .gselect ∧ f = .combBimodGselect) :
    "_comb_bimod".toList ++ '_' :: F.name.toList = '_' :: f.name.toList := by
  rcases hFf with ⟨rfl, rfl⟩ | ⟨rfl, rfl⟩ <;> decide

/-- A job's log name is split after its benchmark, unless the job reads as a combined one. -/
theorem splitLogName?_logName {b : String} {s : Spec} {F : Family} (hF : F.name = s.family)
    (hruns : ∀ d ∈ s.labelRuns, isDigitRun d) (hb : b ≠ "") (hnl : '\n' ∉ b.toList)
    (hnot : ¬Key.ReadsAsCombined ⟨s.family, b, s.size⟩) :
    splitLogName? (b ++ "_" ++ s.label ++ ".out") =
      some (.ofRuns b.toList s.family s.labelRuns) := by
  have hb' : b.toList ≠ [] := by simpa using hb
  unfold splitLogName?
  rw [toList_logName, ← hF, splitFrom_append hb' hnl, List.nil_append,
    splitAfter_eq_some_iff.mpr ⟨F, s.labelRuns, rfl, hruns, s.length_labelRuns, rfl⟩]
  · rfl
  -- a split inside the benchmark would make it end in `_comb_bimod` after a two-level family
  intro u₁ u₂ hu h₁ h₂
  rw [List.nil_append]
  by_contra hsome
  obtain ⟨hu₂, hF'⟩ := eq_combined_of_splitAfter h₂ hruns hsome
  refine hnot ⟨?_, String.ofList u₁, by simpa using h₁, ?_⟩
  · rw [← hF]
    rcases hF' with rfl | rfl
    exacts [.inl rfl, .inr rfl]
  · rw [← String.toList_inj]
    simp [hu, hu₂]

/-- A job that reads as a combined one is split after the shorter benchmark, with the combined
family. -/
theorem splitLogName?_logName_combined {p : String} {s : Spec} {F f : Family}
    (hFf : F = .gshare ∧ f = .combBimodGshare ∨ F = .gselect ∧ f = .combBimodGselect)
    (hF : F.name = s.family) (hruns : ∀ d ∈ s.labelRuns, isDigitRun d) (hp : p ≠ "")
    (hnl : '\n' ∉ p.toList) :
    splitLogName? ((p ++ "_comb_bimod") ++ "_" ++ s.label ++ ".out") =
      some (.ofRuns p.toList f.name s.labelRuns) := by
  have hp' : p.toList ≠ [] := by simpa using hp
  have hchars : (p ++ "_comb_bimod").toList ++ '_' :: (F.name.toList ++ endingOf s.labelRuns) =
      p.toList ++ '_' :: (f.name.toList ++ endingOf s.labelRuns) := by
    rw [String.toList_append, List.append_assoc, ← List.cons_append,
      ← List.append_assoc "_comb_bimod".toList, combined_toList_name hFf, List.cons_append]
  unfold splitLogName?
  rw [toList_logName, ← hF, hchars, splitFrom_append hp' hnl, List.nil_append,
    splitAfter_eq_some_iff.mpr ⟨f, s.labelRuns, rfl, hruns, s.length_labelRuns, rfl⟩]
  · rfl
  -- an earlier split would put `_comb_bimod` before the combined family itself
  intro u₁ u₂ hu h₁ h₂
  rw [List.nil_append]
  by_contra hsome
  obtain ⟨-, hf⟩ := eq_combined_of_splitAfter h₂ hruns hsome
  rcases hFf with ⟨-, rfl⟩ | ⟨-, rfl⟩ <;> rcases hf with h | h <;> exact absurd h (by decide)

/-- A job's log name is read as the job's cell, unless the job reads as a combined one. -/
theorem keyOfLogName_jobLogName {b : String} {s : Spec} (hs : Spec.make s.family s.size = .ok s)
    (hsize : s.size < Int.pow 2 63) (hb : b ≠ "") (hnl : '\n' ∉ b.toList)
    (hnot : ¬Key.ReadsAsCombined ⟨s.family, b, s.size⟩) :
    keyOfLogName (b ++ "_" ++ s.label ++ ".out") = .ok ⟨s.family, b, s.size⟩ := by
  obtain ⟨F, ho, -⟩ := Spec.make_eq_ok hs
  exact keyOfLogName_of_split hs hsize
    (splitLogName?_logName (Family.name_of_ofName? ho) (Spec.isDigitRun_labelRuns hs) hb hnl hnot)

/-- The log name of a two-level job on a benchmark `p` followed by `_comb_bimod` is read as the
combined family's cell for `p`. -/
theorem keyOfLogName_jobLogName_combined {p : String} {s : Spec}
    (hs : Spec.make s.family s.size = .ok s) (hsize : s.size < Int.pow 2 63) (hp : p ≠ "")
    (hnl : '\n' ∉ p.toList)
    (hfam : s.family = Family.gshare.name ∨ s.family = Family.gselect.name) :
    keyOfLogName ((p ++ "_comb_bimod") ++ "_" ++ s.label ++ ".out") =
      .ok ⟨"comb_bimod_" ++ s.family, p, s.size⟩ := by
  obtain ⟨F, ho, -, -, hcases⟩ := Spec.make_eq_ok hs
  have hF := Family.name_of_ofName? ho
  obtain ⟨f, hFf⟩ : ∃ f : Family,
      F = .gshare ∧ f = .combBimodGshare ∨ F = .gselect ∧ f = .combBimodGselect := by
    rcases hfam with h | h
    · exact ⟨_, .inl ⟨Family.name_injective (hF.trans h), rfl⟩⟩
    · exact ⟨_, .inr ⟨Family.name_injective (hF.trans h), rfl⟩⟩
  have hw : indexWidth s.size = .ok s.width := by
    rcases hcases with ⟨hsized, -, -⟩ | ⟨-, hw⟩
    · rcases hFf with ⟨rfl, -⟩ | ⟨rfl, -⟩ <;> exact absurd hsized (by decide)
    · exact hw
  -- the combined family's specification of the same size: same width, same digit runs
  have hs' : Spec.make f.name s.size =
      .ok { family := f.name, size := s.size, width := s.width } :=
    Spec.make_sized (by rcases hFf with ⟨-, rfl⟩ | ⟨-, rfl⟩ <;> decide) hw
  have hruns : Spec.labelRuns { family := f.name, size := s.size, width := s.width } =
      s.labelRuns := by
    rcases hFf with ⟨rfl, rfl⟩ | ⟨rfl, rfl⟩ <;>
      simp [Spec.labelRuns, Family.sized, Family.usesHistory, ← hF]
  have hname : f.name = "comb_bimod_" ++ s.family := by
    rw [← hF]
    rcases hFf with ⟨rfl, rfl⟩ | ⟨rfl, rfl⟩ <;> rfl
  have hsplit := splitLogName?_logName_combined hFf hF (Spec.isDigitRun_labelRuns hs) hp hnl
  rw [← hruns] at hsplit
  rw [← hname]
  exact @keyOfLogName_of_split _ _ ⟨f.name, s.size, s.width⟩ hs' hsize hsplit

/-- A job's log name is a plain name: it has no separator, and holds an underscore. -/
theorem plainName_logName {b : String} {s : Spec} {F : Family} (hF : F.name = s.family)
    (hruns : ∀ d ∈ s.labelRuns, isDigitRun d) (hslash : '/' ∉ b.toList) :
    Path.PlainName (b ++ "_" ++ s.label ++ ".out") := by
  have hsep : '_' ∈ (b ++ "_" ++ s.label ++ ".out").toList := by simp
  have hne : ∀ t : String, '_' ∉ t.toList → b ++ "_" ++ s.label ++ ".out" ≠ t :=
    fun t ht h => ht (h ▸ hsep)
  refine ⟨hne "" (by simp), hne "." (by decide), hne ".." (by decide), ?_⟩
  have hname : '/' ∉ F.name.toList := by cases F <;> decide
  rw [toList_logName, ← hF]
  simp only [endingOf, logSuffix, List.mem_append, List.mem_cons, List.mem_flatMap, not_or]
  refine ⟨hslash, by decide, hname, ?_, by decide⟩
  rintro ⟨d, hd, hmem⟩
  rcases hmem with h | h
  · exact absurd h (by decide)
  · exact not_mem_of_isDigitRun (hruns d hd) rfl h

/-! ## Log paths of a plan -/

/-- Reading the last name of a job's log path gives back the job's cell exactly when the job does
not read as a combined one, for every job of a plan whose benchmarks hold no separator and no
line feed and whose sizes are 64-bit integers. -/
theorem keyOfLogName_base_logPath_iff {c : Setup} {jobs : List Job} (hplan : c.plan = .ok jobs)
    (hbench : ∀ b ∈ c.benchmarks, '/' ∉ b.toList ∧ '\n' ∉ b.toList)
    (hsizes : ∀ size ∈ c.sizes, size < Int.pow 2 63) {j : Job} (hj : j ∈ jobs) :
    keyOfLogName (Path.base j.logPath) = .ok j.key ↔ ¬j.key.ReadsAsCombined := by
  obtain ⟨hbmem, hblank, hmake, hsize, hdesc⟩ := Setup.mem_plan hplan hj
  obtain ⟨F, ho, -⟩ := Spec.make_eq_ok hmake
  obtain ⟨hslash, hnl⟩ := hbench _ hbmem
  have hsize' : j.predictor.size < Int.pow 2 63 := by
    rcases hsize with h | h
    · rw [h]
      decide
    · exact hsizes _ h
  have hb : j.benchmark ≠ "" := fun he => by simp [he, Text.isBlank] at hblank
  -- the last name of the log path is the log name
  have hlog : j.logPath =
      Path.join [c.resultsDir, j.benchmark ++ "_" ++ j.predictor.label ++ ".out"] :=
    congrArg Job.logPath hdesc
  rw [hlog, Path.base_join_name _
    (plainName_logName (Family.name_of_ofName? ho) (Spec.isDigitRun_labelRuns hmake) hslash)]
  constructor
  · -- a job that reads as a combined one is read as the combined family's cell
    rintro h ⟨hfam, p, hp, hbp⟩
    have hbp' : j.benchmark = p ++ "_comb_bimod" := hbp
    have hnl' : '\n' ∉ p.toList := fun h' => hnl (by simp [hbp', h'])
    rw [hbp', keyOfLogName_jobLogName_combined hmake hsize' hp hnl' hfam] at h
    have hfamily : "comb_bimod_" ++ j.predictor.family = j.predictor.family :=
      congrArg Key.family (Except.ok.inj h)
    have hlength := congrArg String.length hfamily
    simp at hlength
  · intro hnot
    exact keyOfLogName_jobLogName hmake hsize' hb hnl hnot

/-- A sweep of the benchmark `x_comb_bimod` with the `gshare` family: its `gshare` job's log name
is read as the `comb_bimod_gshare` cell of the benchmark `x`. -/
theorem keyOfLogName_comb_bimod_benchmark :
    let setup : Setup :=
      { driver := "d", simulator := "s", benchmarks := ["x_comb_bimod"], sizes := [64],
        families := ["gshare"] }
    let j := setup.describe "x_comb_bimod" { family := "gshare", size := 64, width := 3 }
    let jobs := [setup.describe "x_comb_bimod" { family := "nottaken" },
      setup.describe "x_comb_bimod" { family := "taken" }, j]
    setup.plan = .ok jobs ∧ (∀ b ∈ setup.benchmarks, '/' ∉ b.toList ∧ '\n' ∉ b.toList) ∧
      (∀ size ∈ setup.sizes, size < Int.pow 2 63) ∧ j ∈ jobs ∧
      keyOfLogName (Path.base j.logPath) ≠ .ok j.key := by
  intro setup j jobs
  have hplan : setup.plan = .ok jobs := by rfl
  have hbench : ∀ b ∈ setup.benchmarks, '/' ∉ b.toList ∧ '\n' ∉ b.toList := by decide
  have hsizes : ∀ size ∈ setup.sizes, size < Int.pow 2 63 := by decide
  have hj : j ∈ jobs := .tail _ (.tail _ (.head _))
  refine ⟨hplan, hbench, hsizes, hj, ?_⟩
  rw [Ne, keyOfLogName_base_logPath_iff hplan hbench hsizes hj, not_not]
  exact ⟨.inl rfl, "x", by decide, by decide⟩

end PredictorSweep
