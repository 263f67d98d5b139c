import Mathlib
import PredictorSweep.Yaml.Compose
import PredictorSweep.Yaml.Write
/-!
# Scalars as the writer writes them and the reader resolves them

The writer writes text plain only when the reader would resolve it as a string again, and
quotes it otherwise; either way the reader tags what the writer wrote as a string. An integer is
written in decimal: its text is never quoted, is none of the fixed words, is no date, and reads
back as the integer when it is in the signed 64-bit range.

Main statements:

- `scalarTag_ofString`: written text is tagged `!!str`, as a key or as a value;
- `readIntAnyBase_toString`: the decimal text of a 64-bit integer reads back as it;
- `chooseStyle_toString_int`: an integer is written plain;
- `resolve_int`: an integer's text resolves to it, untagged or tagged `!!int`.
-/

namespace PredictorSweep.Yaml

/-! ### Text -/

theorem style_ofString_plain {s : String} (h : (Value.ofString s).style = .plain) :
    ∃ r, resolve "" s = .ok ("!!str", r) := by
  cases hr : resolve "" s with
  | error e =>
    simp only [Value.ofString, hr, Bool.false_and] at h
    split at h <;> simp [Value.style] at h
  | ok p =>
    obtain ⟨t, r⟩ := p
    by_cases ht : t = "!!str"
    · exact ⟨r, by rw [ht]⟩
    · simp only [Value.ofString, hr] at h
      split at h
      · simp [Value.style] at h
      · split at h
        case isTrue hok => simp [ht] at hok
        case isFalse => simp [Value.style] at h

theorem Value.ofString_scalar (s : String) : Value.ofString s = .scalar s (Value.ofString s).style := by
  unfold Value.ofString
  dsimp only
  split
  · rfl
  · split <;> split <;> rfl

theorem ScalarStyle.beq_eq_true {a b : ScalarStyle} : (a == b) = true ↔ a = b := by
  cases a <;> cases b <;> constructor <;> intro h <;> first | rfl | cases h

theorem ite_ne_plain {c : Prop} [Decidable c] {x y : ScalarStyle} (hx : x ≠ .plain)
    (hy : y ≠ .plain) : (if c then x else y) ≠ .plain := by
  split
  · exact hx
  · exact hy

/-- Only a plain style asked for can be written plain: every other choice quotes. -/
theorem chooseStyle_eq_plain {s : String} {asked : ScalarStyle} {key : Bool}
    (h : chooseStyle s asked key = .plain) : asked = .plain := by
  cases asked
  case plain => rfl
  all_goals
    exfalso
    revert h
    dsimp only [chooseStyle]
    repeat' apply ite_ne_plain
    all_goals intro h; cases h

theorem ScalarStyle.bne_plain {st : ScalarStyle} (h : st ≠ .plain) : (st != .plain) = true := by
  cases st <;> first | exact absurd rfl h | rfl

theorem resolve_merge : resolve "" "<<" = .ok ("!!merge", .str "<<") := rfl

/-- Text written by the writer, plain or quoted, key or value, is tagged as a string. -/
theorem scalarTag_ofString (s : String) (key : Bool) :
    scalarTag "" s (chooseStyle s (Value.ofString s).style key) = "!!str" := by
  by_cases hp : chooseStyle s (Value.ofString s).style key = .plain
  case pos =>
    -- plain only when the text resolves to a string, so it is not the merge key
    obtain ⟨r, hr⟩ := style_ofString_plain (chooseStyle_eq_plain hp)
    have hmerge : s ≠ "<<" := by
      rintro rfl
      rw [resolve_merge] at hr
      have htag : "!!merge" = "!!str" := congrArg Prod.fst (Except.ok.inj hr)
      exact absurd htag (by decide)
    simp [scalarTag, hp, hmerge, plainTag, hr]
  case neg => simp [scalarTag, ScalarStyle.bne_plain hp]

/-! ### The decimal text of an integer -/

theorem toList_toString_int (i : Int) :
    (toString i).toList = (if i < 0 then ['-'] else []) ++ Nat.toDigits 10 i.natAbs := by
  rw [Int.toString_eq_repr, Int.repr_eq_if]
  by_cases h : 0 ≤ i
  case pos =>
    have : i.toNat = i.natAbs := by omega
    simp [h, Int.not_lt.mpr h, this]
  case neg =>
    have : (-i).toNat = i.natAbs := by omega
    simp [h, Int.lt_of_not_ge h, this]

theorem isDigit_toNat_sub {c : Char} (h : c.isDigit = true) : c.toNat - 48 < 10 := by
  simp only [Char.isDigit, Bool.and_eq_true, decide_eq_true_eq, UInt32.le_iff_toNat_le] at h
  change c.val.toNat - 48 < 10
  have : c.val.toNat ≤ 57 := h.2
  omega

theorem foldlM_readDigits {ds : List Char} (hd : ∀ c ∈ ds, c.isDigit = true) (acc : Nat) :
    ds.foldlM (fun acc c => match digitValue c with
      | some d => if d < 10 then some (acc * 10 + d) else none
      | none => none) acc = some (Nat.ofDigitChars 10 ds acc) := by
  induction ds generalizing acc with
  | nil => rfl
  | cons c cs ih =>
    have hc := hd c List.mem_cons_self
    have hv : digitValue c = some (c.toNat - '0'.toNat) := by simp [digitValue, hc]
    have h10 : c.toNat - '0'.toNat < 10 := isDigit_toNat_sub hc
    rw [List.foldlM_cons, hv]
    simp only [h10, ↓reduceIte, Option.bind_eq_bind, Option.bind_some]
    rw [ih (fun c' hc' => hd c' (List.mem_cons_of_mem c hc')), Nat.ofDigitChars_cons, Nat.mul_comm]

theorem readDigits_ten {ds : List Char} (hd : ∀ c ∈ ds, c.isDigit = true) :
    readDigits 10 ds = some (Nat.ofDigitChars 10 ds 0) :=
  foldlM_readDigits hd 0

theorem ofDigitChars_lt {l : List Char} (hl : ∀ c ∈ l, c.isDigit = true) :
    Nat.ofDigitChars 10 l 0 < 10 ^ l.length := by
  induction l with
  | nil => simp [Nat.ofDigitChars_nil]
  | cons c cs ih =>
    have hc := isDigit_toNat_sub (hl c List.mem_cons_self)
    have hcs := ih (fun c' hc' => hl c' (List.mem_cons_of_mem c hc'))
    have h48 : '0'.toNat = 48 := rfl
    rw [Nat.ofDigitChars_cons, Nat.ofDigitChars_eq_ofDigitChars_zero, List.length_cons,
      Nat.pow_succ]
    have hd : 10 * 0 + (c.toNat - '0'.toNat) ≤ 9 := by omega
    calc 10 ^ cs.length * (10 * 0 + (c.toNat - '0'.toNat)) + Nat.ofDigitChars 10 cs 0
        < 10 ^ cs.length * 9 + 10 ^ cs.length :=
          Nat.add_lt_add_of_le_of_lt (Nat.mul_le_mul_left _ hd) hcs
      _ = 10 ^ cs.length * 10 := by omega

/-- The decimal digits of a positive number do not start with zero. -/
theorem toDigits_ne_zero_cons {n : Nat} (hn : 0 < n) (rest : List Char) :
    Nat.toDigits 10 n ≠ '0' :: rest := by
  intro h
  have hval : n = Nat.ofDigitChars 10 rest 0 := by
    rw [← Nat.ofDigitChars_ten_toDigits (n := n), h, Nat.ofDigitChars_cons]
    rfl
  have hd : ∀ c ∈ rest, c.isDigit = true := fun c hc =>
    Nat.isDigit_of_mem_toDigits (by decide) (by decide) (h ▸ List.mem_cons_of_mem '0' hc)
  have hlt := ofDigitChars_lt hd
  cases rest with
  | nil => simp [Nat.ofDigitChars_nil] at hval; omega
  | cons c cs =>
    have hlen : ¬ (Nat.toDigits 10 n).length ≤ (c :: cs).length := by simp [h]
    rw [Nat.length_toDigits_le_iff (by decide) (by simp)] at hlen
    omega

theorem readNatAnyBase_toDigits (n : Nat) :
    readNatAnyBase (String.ofList (Nat.toDigits 10 n)) = some n := by
  have hd : ∀ c ∈ Nat.toDigits 10 n, c.isDigit = true := fun c hc =>
    Nat.isDigit_of_mem_toDigits (by decide) (by decide) hc
  unfold readNatAnyBase
  rw [String.toList_ofList]
  split
  case h_1 h => exact absurd h Nat.toDigits_ne_nil
  case h_2 rest h =>
    -- only zero is written with a leading zero
    have hn : n = 0 := by
      rcases Nat.eq_zero_or_pos n with hn | hn
      · exact hn
      · exact absurd h (toDigits_ne_zero_cons hn rest)
    subst hn
    simp [Nat.toDigits_zero] at h
    subst h
    rfl
  case h_3 cs hz hnil =>
    rw [readDigits_ten hd, Nat.ofDigitChars_ten_toDigits]

theorem toDigits_ne_cons_of_not_digit {n : Nat} {c : Char} (hc : c.isDigit = false)
    (rest : List Char) : Nat.toDigits 10 n ≠ c :: rest := by
  intro h
  have := Nat.isDigit_of_mem_toDigits (b := 10) (n := n) (by decide) (by decide)
    (h ▸ List.mem_cons_self)
  rw [hc] at this
  cases this

/-- The decimal text of an integer in the signed 64-bit range reads back as it. -/
theorem readIntAnyBase_toString {i : Int} (hlo : -(Nat.pow 2 63 : Int) ≤ i)
    (hhi : i < Nat.pow 2 63) : readIntAnyBase (toString i) = some i := by
  have hlist := toList_toString_int i
  unfold readIntAnyBase
  by_cases hneg : i < 0
  case pos =>
    rw [hlist, if_pos hneg, List.singleton_append]
    simp only [readNatAnyBase_toDigits, ↓reduceIte]
    have hle : i.natAbs ≤ Nat.pow 2 63 := by
      have : Nat.pow 2 63 = 9223372036854775808 := rfl
      rw [this] at hlo ⊢
      omega
    rw [if_pos hle]
    congr 1
    omega
  case neg =>
    have htext : toString i = String.ofList (Nat.toDigits 10 i.natAbs) := by
      apply String.toList_injective
      rw [hlist, if_neg hneg, List.nil_append, String.toList_ofList]
    rw [hlist, if_neg hneg, List.nil_append]
    -- the text starts with a digit, so it has no sign to take off
    split
    next neg body hsign =>
      split at hsign
      case h_1 rest h => exact absurd h (toDigits_ne_cons_of_not_digit (by decide) rest)
      case h_2 rest h => exact absurd h (toDigits_ne_cons_of_not_digit (by decide) rest)
      case h_3 =>
        simp only [Prod.mk.injEq] at hsign
        obtain ⟨rfl, rfl⟩ := hsign
        have hlt : i.natAbs < Nat.pow 2 63 := by omega
        simp only [htext, readNatAnyBase_toDigits, Bool.false_eq_true, ↓reduceIte, hlt]
        congr 1
        omega

/-! ### An integer is written plain -/

/-- None of the facts that keep a text from being written plain. -/
def Scan.quiet (sc : Scan) : Bool :=
  !(sc.blockIndicators || sc.lineBreaks || sc.special || sc.tabs || sc.leadingSpace ||
    sc.leadingBreak || sc.trailingSpace || sc.trailingBreak || sc.breakSpace || sc.spaceBreak)

theorem not_contains_of_isDigit {c : Char} (hc : c.isDigit = true) {l : List Char}
    (hl : (l.all fun x => !x.isDigit) = true) : l.contains c = false := by
  rcases h : l.contains c
  · rfl
  · have := List.all_eq_true.mp hl c (List.elem_iff.mp h)
    rw [hc] at this
    cases this

theorem beq_false_of_isDigit {c x : Char} (hc : c.isDigit = true) (hx : x.isDigit = false) :
    (c == x) = false := by
  rcases h : c == x
  · rfl
  · rw [beq_iff_eq.mp h, hx] at hc
    cases hc

theorem isPrintable_of_isDigit {c : Char} (hc : c.isDigit = true) : isPrintable c = true := by
  simp only [Char.isDigit, Bool.and_eq_true, decide_eq_true_eq, UInt32.le_iff_toNat_le] at hc
  have h1 : 48 ≤ c.toNat := hc.1
  have h2 : c.toNat ≤ 57 := hc.2
  simp only [isPrintable, Bool.or_eq_true, Bool.and_eq_true, decide_eq_true_eq, beq_iff_eq]
  omega

/-- A digit changes none of the facts a scan gathers but the ones about the last character. -/
theorem scanText_digit {c : Char} (hc : c.isDigit = true) (i : Nat) (rest : List Char)
    (sc : Scan) :
    scanText i (c :: rest) sc = scanText (i + 1) rest
      { sc with afterSpace := false, afterBreak := false, afterBlank := false } := by
  have h1 : "#,[]\x7b\x7d&*!|>'\"%@`".toList.contains c = false :=
    not_contains_of_isDigit hc rfl
  have h2 : ",?[]\x7b\x7d".toList.contains c = false := not_contains_of_isDigit hc rfl
  simp (disch := decide) only [scanText, h1, h2, beq_false_of_isDigit hc,
    isPrintable_of_isDigit hc, isBreak, isBlank, Bool.false_and, Bool.or_false,
    Bool.not_true, Bool.false_eq_true, ↓reduceIte, ite_self]

/-- A leading minus before a digit is no indicator. -/
theorem scanText_minus {d : Char} (hd : d.isDigit = true) (rest : List Char) (sc : Scan) :
    scanText 0 ('-' :: d :: rest) sc = scanText 1 (d :: rest)
      { sc with afterSpace := false, afterBreak := false, afterBlank := false } := by
  have hblank : isBlank d = false := by
    simp [isBlank, beq_false_of_isDigit hd (x := ' ') (by decide),
      beq_false_of_isDigit hd (x := '\t') (by decide)]
  rw [scanText.eq_2]
  simp only [List.head?_cons, Option.all_some, hblank]
  rfl

theorem quiet_scanText_digits {ds : List Char} (hd : ∀ c ∈ ds, c.isDigit = true) (i : Nat)
    {sc : Scan} (hq : sc.quiet = true) : (scanText i ds sc).quiet = true := by
  induction ds generalizing i sc with
  | nil => exact hq
  | cons c cs ih =>
    rw [scanText_digit (hd c List.mem_cons_self)]
    exact ih (fun c' hc' => hd c' (List.mem_cons_of_mem c hc')) (i + 1) hq

/-- A text whose scan finds nothing against it, and that does not start like a document
marker, may be written plain in a block. -/
theorem blockPlain_of_quiet {s : String} (hs : s.isEmpty = false)
    (hm : (s.toList.take 3 == ['-', '-', '-'] || s.toList.take 3 == ['.', '.', '.']) = false)
    (hq : (scanText 0 s.toList {}).quiet = true) : (analyze s).blockPlain = true := by
  simp only [Scan.quiet, Bool.not_eq_true', Bool.or_eq_false_iff] at hq
  simp only [analyze, hs, hm, Bool.false_eq_true, ↓reduceIte]
  simp [hq]

theorem isEmpty_toString_int (i : Int) : (toString i).isEmpty = false := by
  rcases h : (toString i).isEmpty
  · rfl
  · have := congrArg String.toList (String.isEmpty_iff.mp h)
    rw [toList_toString_int] at this
    simp [Nat.toDigits_ne_nil] at this

/-- An integer's decimal text may be written plain. -/
theorem blockPlain_toString_int (i : Int) : (analyze (toString i)).blockPlain = true := by
  have hlist := toList_toString_int i
  obtain ⟨d, ds, hd⟩ :=
    List.exists_cons_of_ne_nil (Nat.toDigits_ne_nil (b := 10) (n := i.natAbs))
  have hdig : ∀ c ∈ d :: ds, c.isDigit = true := fun c hc =>
    Nat.isDigit_of_mem_toDigits (by decide) (by decide) (hd ▸ hc)
  have hd0 := hdig d List.mem_cons_self
  have hminus : (d == '-') = false := beq_false_of_isDigit hd0 (by decide)
  have hdot : (d == '.') = false := beq_false_of_isDigit hd0 (by decide)
  rw [hd] at hlist
  apply blockPlain_of_quiet (isEmpty_toString_int i)
  · rw [hlist]
    by_cases hneg : i < 0 <;> simp [hneg, hminus, hdot]
  · by_cases hneg : i < 0
    case pos =>
      rw [hlist, if_pos hneg, List.singleton_append, scanText_minus hd0]
      exact quiet_scanText_digits hdig 1 rfl
    case neg =>
      rw [hlist, if_neg hneg, List.nil_append]
      exact quiet_scanText_digits hdig 0 rfl

theorem chooseStyle_toString_int (i : Int) : chooseStyle (toString i) .plain false = .plain := by
  dsimp only [chooseStyle]
  rw [blockPlain_toString_int i]
  simp [ScalarStyle.beq_eq_true]

/-! ### An integer's text resolves to it -/

theorem mem_toString_int {i : Int} {c : Char} (hc : c ∈ (toString i).toList) :
    c = '-' ∨ c.isDigit = true := by
  rw [toList_toString_int, List.mem_append] at hc
  rcases hc with hc | hc
  · left
    split at hc <;> simp_all
  · exact Or.inr (Nat.isDigit_of_mem_toDigits (by decide) (by decide) hc)

/-- An integer's text is none of the fixed words. -/
theorem find_fixedWords_int (i : Int) : fixedWords.find? (·.1 == toString i) = none := by
  -- every fixed word is empty or holds a character that is neither a minus nor a digit
  have hcheck : (fixedWords.all fun w =>
      w.1.toList.isEmpty || w.1.toList.any fun c => c != '-' && !c.isDigit) = true := by rfl
  have hwords : ∀ w ∈ fixedWords, w.1.toList = [] ∨ ∃ c ∈ w.1.toList, c ≠ '-' ∧ c.isDigit = false := by
    intro w hw
    have := List.all_eq_true.mp hcheck w hw
    simpa [List.any_eq_true] using this
  rw [List.find?_eq_none]
  intro w hw heq
  rw [beq_iff_eq] at heq
  rcases hwords w hw with hnil | ⟨c, hc, hminus, hdigit⟩
  · rw [heq, toList_toString_int] at hnil
    simp [Nat.toDigits_ne_nil] at hnil
  · rw [heq] at hc
    rcases mem_toString_int hc with h | h
    · exact hminus h
    · rw [hdigit] at h
      cases h

theorem hintOf_toString_int (i : Int) : hintOf (toString i) = if i < 0 then .sign else .digit := by
  obtain ⟨d, ds, hd⟩ :=
    List.exists_cons_of_ne_nil (Nat.toDigits_ne_nil (b := 10) (n := i.natAbs))
  have hd0 : d.isDigit = true :=
    Nat.isDigit_of_mem_toDigits (by decide) (by decide) (hd ▸ List.mem_cons_self)
  unfold hintOf
  rw [toList_toString_int, hd]
  by_cases hneg : i < 0
  · simp [hneg]
  · simp [hneg, hd0, beq_false_of_isDigit hd0 (x := '+') (by decide),
      beq_false_of_isDigit hd0 (x := '-') (by decide)]

/-- An integer's text is no date: a date has four digits and then a dash. -/
theorem isTimestamp_toString_int (i : Int) : isTimestamp (toString i) = false := by
  unfold isTimestamp
  rw [toList_toString_int]
  by_cases hneg : i < 0
  case pos => simp [hneg]
  case neg =>
    have h4 : (Nat.toDigits 10 i.natAbs)[4]? ≠ some '-' := by
      intro h
      have := Nat.isDigit_of_mem_toDigits (by decide) (by decide) (List.mem_of_getElem? h)
      cases this
    simp [hneg, h4]

theorem filter_toString_int (i : Int) :
    String.ofList ((toString i).toList.filter (· != '_')) = toString i := by
  rw [List.filter_eq_self.mpr, String.ofList_toList]
  intro c hc
  rcases mem_toString_int hc with h | h
  · simp [h]
  · rw [bne_iff_ne]
    rintro rfl
    cases h

section Int64

variable {i : Int} (hlo : -(Nat.pow 2 63 : Int) ≤ i) (hhi : i < Nat.pow 2 63)
include hlo hhi

theorem resolvePlain_int (tag : String) : resolvePlain tag (toString i) = ("!!int", .int i) := by
  unfold resolvePlain
  rw [find_fixedWords_int, hintOf_toString_int]
  -- a sign or a digit first; no date, no underscores, and the integer reads back
  by_cases hneg : i < 0 <;>
    simp only [hneg, ↓reduceIte, isTimestamp_toString_int, Bool.and_false, Bool.false_eq_true,
      filter_toString_int, readIntAnyBase_toString hlo hhi]

/-- An integer's text in the signed 64-bit range resolves to it, untagged or tagged `!!int`. -/
theorem resolve_int {tag : String} (htag : tag = "" ∨ tag = "!!int") :
    resolve tag (toString i) = .ok ("!!int", .int i) := by
  have hnone : (hintOf (toString i) == .none) = false := by
    rw [hintOf_toString_int]
    split <;> rfl
  have hshort : shortTag tag = tag := by rcases htag with rfl | rfl <;> decide
  have hknown : resolvableTags.contains tag = true := by rcases htag with rfl | rfl <;> decide
  have hstr : (tag == "!!str") = false := by rcases htag with rfl | rfl <;> decide
  unfold resolve
  simp only [hshort, hknown, hnone, hstr, Bool.not_true, Bool.false_eq_true, ↓reduceIte,
    Bool.or_false, resolvePlain_int hlo hhi]
  rcases htag with rfl | rfl <;> rfl

end Int64

end PredictorSweep.Yaml
