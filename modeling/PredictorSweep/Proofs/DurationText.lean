import PredictorSweep.Proofs.FloatNat
import PredictorSweep.Time.Duration
/-!
# Durations read back from their written form

The written form of a duration is a sign and one to three terms: whole hours, whole minutes, and
seconds with a fraction, or a single sub-second unit with a fraction. Reading a duration text adds
the values of its terms one after another, so the round trip splits into a step and a run.

A term reads back as its value when it is `Readable`: its unit is known, its fraction digits are
below the reader's limits, and the fraction scaled to the unit in double precision is a whole
number of nanoseconds held exactly (the float facts are those of `FloatNat`). One such term reads
as its value (the step); terms one after another read as their sum (the run). Every term the
writer produces is readable, and the terms of a written duration add up to its magnitude, so a
duration within the 64-bit range reads back as itself.

Main statements:

- `DurationTerm.readTerm_text`: one readable term reads as its value;
- `readTerms_texts`: readable terms one after another read as their sum;
- `ofDigitChars_fractionDigits`: the written fraction digits carry the nanoseconds below a unit;
- `render_terms`: a written duration is its sign and readable terms adding up to it;
- `parse_render`: a duration in range reads back from its written form.
-/

namespace PredictorSweep

/-! ## Digits and unit names -/

theorem isDigit_iff_le {c : Char} : c.isDigit = true ↔ '0' ≤ c ∧ c ≤ '9' := by
  simp [Char.isDigit, Char.le_def, UInt32.le_iff_toNat_le]

/-- The reader's test for a digit is `Char.isDigit`. -/
theorem decide_digit (c : Char) : decide ('0' ≤ c ∧ c ≤ '9') = c.isDigit := by
  rw [Bool.eq_iff_iff, decide_eq_true_iff, isDigit_iff_le]

theorem decide_dot_or_digit (c : Char) :
    decide (c = '.' ∨ ('0' ≤ c ∧ c ≤ '9')) = (c == '.' || c.isDigit) := by
  rw [Bool.eq_iff_iff]
  simp [isDigit_iff_le]

theorem le_ofDigitChars (l : List Char) (init : Nat) : init ≤ Nat.ofDigitChars 10 l init := by
  rw [Nat.ofDigitChars_eq_ofDigitChars_zero]
  have := Nat.one_le_two_pow (n := l.length)
  have h10 : 1 ≤ 10 ^ l.length := Nat.one_le_pow _ _ (by decide)
  calc init ≤ 10 ^ l.length * init := Nat.le_mul_of_pos_left init h10
    _ ≤ _ := Nat.le_add_right _ _

theorem takeWhile_digits_append {ds rest : List Char} (hd : ∀ c ∈ ds, c.isDigit = true)
    (hrest : ∀ c ∈ rest.head?, c.isDigit = false) :
    (ds ++ rest).takeWhile (fun c => decide ('0' ≤ c ∧ c ≤ '9')) = ds := by
  simp only [decide_digit]
  rw [List.takeWhile_append_of_pos hd]
  cases rest with
  | nil => simp
  | cons r rs =>
    have := hrest r rfl
    simp [this]

theorem takeWhile_unit_append {name rest : List Char}
    (hname : ∀ c ∈ name, c ≠ '.' ∧ c.isDigit = false)
    (hrest : ∀ c ∈ rest.head?, c = '.' ∨ c.isDigit = true) :
    (name ++ rest).takeWhile (fun c => !decide (c = '.' ∨ ('0' ≤ c ∧ c ≤ '9'))) = name := by
  simp only [decide_dot_or_digit]
  have hp : ∀ c ∈ name, (!(c == '.' || c.isDigit)) = true := by
    intro c hc
    obtain ⟨h1, h2⟩ := hname c hc
    simp [h1, h2]
  rw [List.takeWhile_append_of_pos hp]
  cases rest with
  | nil => simp
  | cons r rs =>
    rcases hrest r rfl with h | h <;> simp [h]

/-- The facts about a unit name's characters, from a check that runs. -/
theorem unitChars_of_check {name : String}
    (h : (!name.toList.isEmpty && name.toList.all fun c => c != '.' && !c.isDigit) = true) :
    name.toList ≠ [] ∧ ∀ c ∈ name.toList, c ≠ '.' ∧ c.isDigit = false := by
  rw [Bool.and_eq_true, Bool.not_eq_true', List.isEmpty_eq_false_iff, List.all_eq_true] at h
  exact ⟨h.1, fun c hc => by simpa using h.2 c hc⟩

theorem unitNanos_chars {name : String} {k : Nat} (h : unitNanos name = some k) :
    name.toList ≠ [] ∧ ∀ c ∈ name.toList, c ≠ '.' ∧ c.isDigit = false := by
  unfold unitNanos at h
  split at h
  all_goals first | (cases h; exact unitChars_of_check rfl) | cases h

theorem unitNanos_pos {name : String} {k : Nat} (h : unitNanos name = some k) : 0 < k := by
  unfold unitNanos at h
  split at h
  all_goals first | (cases h; decide) | cases h

/-! ## A whole part and a fraction -/

theorem foldl_wholeStep {ds : List Char} {x : Nat} (hd : ∀ c ∈ ds, c.isDigit = true)
    (hle : Nat.ofDigitChars 10 ds x ≤ durationLimit) :
    ds.foldl wholeStep (some x) = some (Nat.ofDigitChars 10 ds x) := by
  induction ds generalizing x with
  | nil => rfl
  | cons c cs ih =>
    rw [Nat.ofDigitChars_cons] at hle ⊢
    have hy := le_ofDigitChars cs (10 * x + (c.toNat - '0'.toNat))
    have h48 : '0'.toNat = 48 := rfl
    have hstep : wholeStep (some x) c = some (10 * x + (c.toNat - '0'.toNat)) := by
      simp only [wholeStep, Option.bind_some]
      rw [if_neg (by omega), if_neg (by simp; omega)]
      simp [Nat.mul_comm]
    rw [List.foldl_cons, hstep]
    exact ih (fun c' hc' => hd c' (List.mem_cons_of_mem c hc')) hle

theorem leadingInt_toDigits {w : Nat} {rest : List Char} (hw : w ≤ durationLimit)
    (hrest : ∀ c ∈ rest.head?, c.isDigit = false) :
    leadingInt (Nat.toDigits 10 w ++ rest) = some (w, rest) := by
  have hd : ∀ c ∈ Nat.toDigits 10 w, c.isDigit = true := fun c hc =>
    Nat.isDigit_of_mem_toDigits (by decide) (by decide) hc
  simp only [leadingInt, takeWhile_digits_append hd hrest]
  rw [foldl_wholeStep hd (by rwa [Nat.ofDigitChars_ten_toDigits]), Nat.ofDigitChars_ten_toDigits]
  simp

/-- A scale multiplied by ten `k` times, one digit at a time. -/
def timesTen : Nat → Float → Float
  | 0, s => s
  | k + 1, s => timesTen k (s * 10)

theorem foldl_fractionStep {ds : List Char} {x : Nat} {s : Float}
    (hd : ∀ c ∈ ds, c.isDigit = true)
    (hle : Nat.ofDigitChars 10 ds x < Nat.pow 10 9) :
    ds.foldl fractionStep (x, s, false) =
      (Nat.ofDigitChars 10 ds x, timesTen ds.length s, false) := by
  induction ds generalizing x s with
  | nil => rfl
  | cons c cs ih =>
    rw [Nat.ofDigitChars_cons] at hle ⊢
    have hy := le_ofDigitChars cs (10 * x + (c.toNat - '0'.toNat))
    have h48 : '0'.toNat = 48 := rfl
    have h9 : Nat.pow 10 9 = 1000000000 := rfl
    have hstep :
        fractionStep (x, s, false) c = (10 * x + (c.toNat - '0'.toNat), s * 10, false) := by
      simp only [fractionStep]
      rw [if_neg (by simp), if_neg (by simp [durationLimit]; omega),
        if_neg (by simp [durationLimit]; omega)]
      simp [Nat.mul_comm]
    rw [List.foldl_cons, hstep, ih (fun c' hc' => hd c' (List.mem_cons_of_mem c hc')) hle]
    rfl

theorem leadingFraction_digits {ds rest : List Char} (hd : ∀ c ∈ ds, c.isDigit = true)
    (hrest : ∀ c ∈ rest.head?, c.isDigit = false)
    (hle : Nat.ofDigitChars 10 ds 0 < Nat.pow 10 9) :
    leadingFraction (ds ++ rest) = (Nat.ofDigitChars 10 ds 0, timesTen ds.length 1, rest) := by
  simp only [leadingFraction, takeWhile_digits_append hd hrest]
  rw [foldl_fractionStep hd hle]
  simp

theorem fractionPart_dot {r r' : List Char} {f : Nat} {s : Float}
    (h : leadingFraction r = (f, s, r')) :
    fractionPart ('.' :: r) = (f, s, decide (r'.length ≠ r.length), r') := by
  simp [fractionPart, h]

theorem fractionPart_of_not_dot {r : List Char} (h : ∀ c ∈ r.head?, c ≠ '.') :
    fractionPart r = (0, 1, false, r) := by
  unfold fractionPart
  split
  · simp at h
  · rfl

/-! ## One term -/

/-- One number of a duration text with its unit: a whole part, the digits of a fraction, and a
unit name with the nanoseconds it stands for. -/
structure DurationTerm where
  whole : Nat
  frac : List Char
  unit : String
  nanos : Nat

namespace DurationTerm

/-- The text of a term: the whole part, a point and the fraction when there are fraction digits,
and the unit. -/
def text (t : DurationTerm) : List Char :=
  Nat.toDigits 10 t.whole ++ ((if t.frac = [] then [] else '.' :: t.frac) ++ t.unit.toList)

/-- The nanoseconds a term stands for when its fraction scales exactly. -/
def value (t : DurationTerm) : Nat :=
  t.whole * t.nanos + Nat.ofDigitChars 10 t.frac 0 * (t.nanos / Nat.pow 10 t.frac.length)

/-- What reading a term back needs: a known unit, fraction digits whose scale to the unit is a
whole number held exactly in double precision, and a value in range. -/
structure Readable (t : DurationTerm) : Prop where
  known_unit : unitNanos t.unit = some t.nanos
  frac_digits : ∀ c ∈ t.frac, c.isDigit = true
  exact_scale : t.frac ≠ [] → 0 < t.nanos / Nat.pow 10 t.frac.length ∧
    (Nat.toFloat t.nanos / timesTen t.frac.length 1).toModel.unpack =
      FloatNat.exactNat (t.nanos / Nat.pow 10 t.frac.length)
  frac_lt : Nat.ofDigitChars 10 t.frac 0 * (t.nanos / Nat.pow 10 t.frac.length) < Nat.pow 10 9
  whole_le : t.whole ≤ durationLimit / t.nanos
  value_le : t.value ≤ durationLimit

theorem text_ne_nil (t : DurationTerm) : t.text ≠ [] := by
  simp [text, Nat.toDigits_ne_nil]

theorem two_le_length_text {t : DurationTerm} (ht : t.Readable) : 2 ≤ t.text.length := by
  have hw := List.length_pos_iff.mpr (Nat.toDigits_ne_nil (b := 10) (n := t.whole))
  have hu := List.length_pos_iff.mpr (unitNanos_chars ht.known_unit).1
  simp only [text, List.length_append]
  omega

theorem head_text (t : DurationTerm) : ∀ c ∈ t.text.head?, c.isDigit = true := by
  obtain ⟨c, ds, hcd⟩ :=
    List.exists_cons_of_ne_nil (Nat.toDigits_ne_nil (b := 10) (n := t.whole))
  intro c' hc'
  simp only [text, hcd, List.cons_append, List.head?_cons, Option.mem_def,
    Option.some.injEq] at hc'
  subst hc'
  exact Nat.isDigit_of_mem_toDigits (by decide) (by decide) (hcd ▸ List.mem_cons_self)

theorem head_flatMap_text (ts : List DurationTerm) :
    ∀ c ∈ (ts.flatMap DurationTerm.text).head?, c.isDigit = true := by
  cases ts with
  | nil => simp
  | cons t ts =>
    obtain ⟨c, cs, hcs⟩ := List.exists_cons_of_ne_nil (text_ne_nil t)
    have hc := head_text t
    rw [hcs] at hc
    rw [List.flatMap_cons, hcs, List.cons_append]
    exact hc

/-- The scaled fraction of a readable term, computed in double precision, is exact. -/
theorem add_fraction_nanos {t : DurationTerm} (ht : t.Readable) (v : Nat) :
    (if Nat.ofDigitChars 10 t.frac 0 > 0 then
      v + (Nat.toFloat (Nat.ofDigitChars 10 t.frac 0) *
        (Nat.toFloat t.nanos / timesTen t.frac.length 1)).toUInt64.toNat else v) =
      v + Nat.ofDigitChars 10 t.frac 0 * (t.nanos / Nat.pow 10 t.frac.length) := by
  split
  case isFalse h => simp [Nat.eq_zero_of_not_pos h]
  case isTrue h =>
    have hne : t.frac ≠ [] := by rintro hf; simp [hf] at h
    obtain ⟨hpos, hexact⟩ := ht.exact_scale hne
    have h9 : Nat.pow 10 9 < Nat.pow 2 53 := by decide
    rw [FloatNat.toUInt64_ofNat_mul hexact hpos (Nat.lt_trans ht.frac_lt h9)]

/-- The fraction of a readable term, after its whole part, reads as its digits and leaves the
unit. -/
theorem fractionPart_text {t : DurationTerm} (ht : t.Readable) (rest : List Char) :
    ∃ post,
      fractionPart ((if t.frac = [] then [] else '.' :: t.frac) ++ (t.unit.toList ++ rest)) =
      (Nat.ofDigitChars 10 t.frac 0, timesTen t.frac.length 1, post, t.unit.toList ++ rest) := by
  obtain ⟨hne, hchars⟩ := unitNanos_chars ht.known_unit
  obtain ⟨u, us, hu⟩ := List.exists_cons_of_ne_nil hne
  have hu0 := hchars u (hu ▸ List.mem_cons_self)
  by_cases hf : t.frac = []
  case pos =>
    refine ⟨false, ?_⟩
    rw [if_pos hf, List.nil_append, fractionPart_of_not_dot (by simp [hu, hu0.1]), hf]
    rfl
  case neg =>
    have hle : Nat.ofDigitChars 10 t.frac 0 < Nat.pow 10 9 := by
      obtain ⟨hpos, -⟩ := ht.exact_scale hf
      exact Nat.lt_of_le_of_lt (Nat.le_mul_of_pos_right _ hpos) ht.frac_lt
    have hlead := @leadingFraction_digits t.frac (t.unit.toList ++ rest) ht.frac_digits
      (by simp [hu, hu0.2]) hle
    exact ⟨_, by rw [if_neg hf, List.cons_append, fractionPart_dot hlead]⟩

/-- A readable term followed by the text of further terms reads as its value and leaves them. -/
theorem readTerm_text {orig : String} {t : DurationTerm} {rest : List Char} (ht : t.Readable)
    (hrest : ∀ c ∈ rest.head?, c.isDigit = true) :
    ∃ c cs, t.text ++ rest = c :: cs ∧ readTerm orig c cs = .ok (t.value, rest) := by
  obtain ⟨c, ds, hcd⟩ :=
    List.exists_cons_of_ne_nil (Nat.toDigits_ne_nil (b := 10) (n := t.whole))
  obtain ⟨hne, hchars⟩ := unitNanos_chars ht.known_unit
  obtain ⟨u, us, hu⟩ := List.exists_cons_of_ne_nil hne
  have hu0 := hchars u (hu ▸ List.mem_cons_self)
  -- what follows the whole part: the fraction, the unit and the rest
  let after := (if t.frac = [] then [] else '.' :: t.frac) ++ (t.unit.toList ++ rest)
  refine ⟨c, ds ++ after, by simp [text, hcd, after], ?_⟩
  have hc : c.isDigit = true :=
    Nat.isDigit_of_mem_toDigits (by decide) (by decide) (hcd ▸ List.mem_cons_self)
  have hafter : ∀ c ∈ after.head?, c.isDigit = false := by
    by_cases hf : t.frac = [] <;> simp [after, hf, hu, hu0.2]
  have hwhole : leadingInt (c :: (ds ++ after)) = some (t.whole, after) := by
    rw [← List.cons_append, ← hcd]
    exact leadingInt_toDigits (Nat.le_trans ht.whole_le (Nat.div_le_self _ _)) hafter
  obtain ⟨post, hfrac⟩ := fractionPart_text ht rest
  replace hfrac : fractionPart after = _ := hfrac
  have hunit := takeWhile_unit_append hchars (fun c hc => Or.inr (hrest c hc))
  simp only [decide_dot_or_digit] at hunit
  -- the whole part is not empty, so a missing fraction is no error
  have hpre : ¬ ((!decide (after.length ≠ (c :: (ds ++ after)).length)) = true ∧
      (!post) = true) := by
    rintro ⟨h, -⟩
    have : after.length = ds.length + after.length + 1 := by simpa using h
    omega
  have hunit_ne : (t.unit.toList).isEmpty = false := List.isEmpty_eq_false_iff.mpr hne
  have hwhole_le : ¬ t.whole > durationLimit / t.nanos := Nat.not_lt.mpr ht.whole_le
  have hvalue : ¬ t.whole * t.nanos + Nat.ofDigitChars 10 t.frac 0 *
      (t.nanos / Nat.pow 10 t.frac.length) > durationLimit := Nat.not_lt.mpr ht.value_le
  simp only [readTerm, decide_dot_or_digit, hc, Bool.or_true, Bool.not_true, Bool.false_eq_true,
    ↓reduceIte, hwhole, hfrac, hpre, hunit, hunit_ne, String.ofList_toList, ht.known_unit,
    hwhole_le,     add_fraction_nanos ht, hvalue, List.drop_left]
  rfl

end DurationTerm

/-! ## Terms one after another -/

theorem readTerms_nil (orig : String) (total fuel : Nat) :
    readTerms orig total fuel [] = .ok total := by
  cases fuel <;> rfl

/-- Readable terms written one after another read back as the sum of their values, given fuel
for each term and a sum in range. -/
theorem readTerms_texts {orig : String} {ts : List DurationTerm} {total fuel : Nat}
    (hts : ∀ t ∈ ts, t.Readable) (hfuel : ts.length ≤ fuel)
    (hsum : total + (ts.map DurationTerm.value).sum ≤ durationLimit) :
    readTerms orig total fuel (ts.flatMap DurationTerm.text) =
      .ok (total + (ts.map DurationTerm.value).sum) := by
  -- one term is read per step, the running total staying below the final sum
  induction ts generalizing total fuel with
  | nil => simpa using readTerms_nil orig total fuel
  | cons t ts ih =>
    cases fuel with
    | zero => simp at hfuel
    | succ fuel =>
      obtain ⟨c, cs, hcs, hread⟩ :=
        @DurationTerm.readTerm_text orig t _ (hts t List.mem_cons_self)
          (DurationTerm.head_flatMap_text ts)
      simp only [List.map_cons, List.sum_cons] at hsum
      have hle : ¬ total + t.value > durationLimit := by omega
      have hrest := @ih (total + t.value) fuel
        (fun t' ht' => hts t' (List.mem_cons_of_mem t ht')) (by simpa using hfuel)
        (by omega)
      rw [List.flatMap_cons, hcs]
      simp only [readTerms, hread, hle, ↓reduceIte, hrest, List.map_cons, List.sum_cons,
        Nat.add_assoc]

theorem length_le_length_flatMap_text (ts : List DurationTerm) :
    ts.length ≤ (ts.flatMap DurationTerm.text).length := by
  induction ts with
  | nil => simp
  | cons t ts ih =>
    have := List.length_pos_iff.mpr (DurationTerm.text_ne_nil t)
    simp only [List.flatMap_cons, List.length_append, List.length_cons]
    omega

/-! ## The written fraction -/

/-- The character the fraction writer gives a digit. -/
theorem ofNat_digit {d : Nat} (hd : d < 10) : Char.ofNat (48 + d) = d.digitChar := by
  have : ∀ d < 10, Char.ofNat (48 + d) = d.digitChar := by decide
  exact this d hd

/-- The digits of `v` below the `p`-th, least significant first, as the fraction writer takes
them. -/
def lowDigits (v p : Nat) : List Nat := (List.range p).map fun i => v / Nat.pow 10 i % 10

/-- The fraction digits written for `v / 10^p`: the low digits without their trailing zeros. -/
def fractionDigits (v p : Nat) : List Char :=
  (((lowDigits v p).dropWhile (· = 0)).reverse).map fun d => Char.ofNat (48 + d)

theorem fraction_text (v p : Nat) :
    (Duration.fraction v p).1.toList =
      if fractionDigits v p = [] then [] else '.' :: fractionDigits v p := by
  simp only [Duration.fraction, fractionDigits, lowDigits]
  split <;> simp_all

theorem fraction_whole (v p : Nat) : (Duration.fraction v p).2 = v / Nat.pow 10 p := rfl

theorem lt_ten_of_mem_lowDigits {v p d : Nat} (h : d ∈ lowDigits v p) : d < 10 := by
  obtain ⟨i, -, rfl⟩ := List.mem_map.mp h
  exact Nat.mod_lt _ (by decide)

theorem lowDigits_succ (v p : Nat) :
    lowDigits v (p + 1) = lowDigits v p ++ [v / 10 ^ p % 10] := by
  simp [lowDigits, List.range_succ, Nat.pow_eq]

@[simp] theorem length_lowDigits (v p : Nat) : (lowDigits v p).length = p := by
  simp [lowDigits]

/-- All of the low digits, most significant first, read as the number below `10^p`. -/
theorem ofDigitChars_lowDigits (v p : Nat) :
    Nat.ofDigitChars 10 ((lowDigits v p).reverse.map fun d => Char.ofNat (48 + d)) 0 =
      v % 10 ^ p := by
  induction p with
  | zero => simp [lowDigits, Nat.ofDigitChars_nil, Nat.mod_one]
  | succ p ih =>
    have hd : v / 10 ^ p % 10 < 10 := Nat.mod_lt _ (by decide)
    rw [lowDigits_succ, List.reverse_append, List.reverse_singleton, List.singleton_append,
      List.map_cons, ofNat_digit hd, Nat.ofDigitChars_cons_digitChar_of_lt_ten hd,
      Nat.ofDigitChars_eq_ofDigitChars_zero, ih, Nat.mod_pow_succ]
    simp only [List.length_map, List.length_reverse, length_lowDigits, Nat.mul_zero,
      Nat.zero_add]
    exact Nat.add_comm _ _

theorem length_fractionDigits (v p : Nat) :
    (fractionDigits v p).length = ((lowDigits v p).dropWhile (· = 0)).length := by
  simp [fractionDigits]

theorem length_fractionDigits_le (v p : Nat) : (fractionDigits v p).length ≤ p := by
  rw [length_fractionDigits]
  calc _ ≤ (lowDigits v p).length := (List.dropWhile_suffix _).length_le
    _ = p := length_lowDigits v p

theorem isDigit_of_mem_fractionDigits {v p : Nat} {c : Char} (h : c ∈ fractionDigits v p) :
    c.isDigit = true := by
  obtain ⟨d, hd, rfl⟩ := List.mem_map.mp h
  have hd10 : d < 10 :=
    lt_ten_of_mem_lowDigits ((List.dropWhile_suffix _).subset (List.mem_reverse.mp hd))
  have : ∀ d < 10, (Char.ofNat (48 + d)).isDigit = true := by decide
  exact this d hd10

/-- Zeros at the low end of a digit list, dropped, are a power of ten taken out of its value. -/
theorem ofDigitChars_dropWhile_zero (L : List Nat) :
    Nat.ofDigitChars 10 (L.reverse.map fun d => Char.ofNat (48 + d)) 0 =
      Nat.ofDigitChars 10 ((L.dropWhile (· = 0)).reverse.map fun d => Char.ofNat (48 + d)) 0 *
        10 ^ (L.length - (L.dropWhile (· = 0)).length) := by
  have hzeros : L.takeWhile (· = 0) = List.replicate (L.takeWhile (· = 0)).length 0 :=
    List.eq_replicate_iff.mpr
      ⟨rfl, fun d hd => by simpa using List.all_eq_true.mp List.all_takeWhile d hd⟩
  have hlen : L.length - (L.dropWhile (· = 0)).length = (L.takeWhile (· = 0)).length := by
    have := congrArg List.length (List.takeWhile_append_dropWhile (p := (· = 0)) (l := L))
    rw [List.length_append] at this
    omega
  conv => lhs; rw [← List.takeWhile_append_dropWhile (p := (· = 0)) (l := L), hzeros]
  rw [hlen, List.reverse_append, List.map_append, List.reverse_replicate, List.map_replicate,
    Nat.ofDigitChars_append, Nat.mul_comm]
  exact Nat.ofDigitChars_replicate_zero

/-- The written fraction digits, padded back with the zeros dropped after them, are the number
below `10^p`. -/
theorem ofDigitChars_fractionDigits (v p : Nat) :
    Nat.ofDigitChars 10 (fractionDigits v p) 0 * 10 ^ (p - (fractionDigits v p).length) =
      v % 10 ^ p := by
  rw [← ofDigitChars_lowDigits, ofDigitChars_dropWhile_zero, length_fractionDigits,
    length_lowDigits]
  rfl

/-- Ten to a power up to nine, divided in double precision by ten to a smaller power one digit at
a time, is exact. -/
theorem scale_exact {p len : Nat} (hp : p ≤ 9) (hlen : len ≤ p) :
    (Nat.toFloat (Nat.pow 10 p) / timesTen len 1).toModel.unpack =
      FloatNat.exactNat (Nat.pow 10 p / Nat.pow 10 len) := by
  have table : ∀ p ≤ 9, ∀ len ≤ p, (Nat.toFloat (Nat.pow 10 p) / timesTen len 1).toModel =
      (Float.ofNat (Nat.pow 10 p / Nat.pow 10 len)).toModel := by decide +kernel
  have hsmall : Nat.pow 10 p / Nat.pow 10 len < Nat.pow 2 53 := by
    have h9 : Nat.pow 10 p ≤ Nat.pow 10 9 := Nat.pow_le_pow_right (by decide) hp
    have h53 : Nat.pow 10 9 < Nat.pow 2 53 := by decide
    exact Nat.lt_of_le_of_lt (Nat.div_le_self _ _) (Nat.lt_of_le_of_lt h9 h53)
  rw [table p hp len hlen]
  exact FloatNat.ofNat_exactNat hsmall

/-! ## The terms of a written duration -/

namespace DurationTerm

theorem value_fraction (w v p : Nat) (name : String) :
    (⟨w, fractionDigits v p, name, Nat.pow 10 p⟩ : DurationTerm).value =
      w * 10 ^ p + v % 10 ^ p := by
  have hlen := length_fractionDigits_le v p
  simp only [value, Nat.pow_eq]
  rw [Nat.pow_div hlen (by decide), ofDigitChars_fractionDigits]

theorem value_whole (w k : Nat) (name : String) :
    (⟨w, [], name, k⟩ : DurationTerm).value = w * k := by
  simp [value, Nat.ofDigitChars_nil]

/-- A whole number in a unit is readable when its value is in range. -/
theorem readable_whole {w k : Nat} {name : String} (hunit : unitNanos name = some k)
    (hw : w * k ≤ durationLimit) : Readable ⟨w, [], name, k⟩ where
  known_unit := hunit
  frac_digits := by simp
  exact_scale := by simp
  frac_lt := by simp [Nat.ofDigitChars_nil]
  whole_le := (Nat.le_div_iff_mul_le (unitNanos_pos hunit)).mpr hw
  value_le := by rw [value_whole]; exact hw

/-- A whole number with the fraction digits of `v` below `10^p`, in a unit of `10^p`
nanoseconds, is readable when its value is in range. -/
theorem readable_fraction {w v p : Nat} {name : String}
    (hunit : unitNanos name = some (Nat.pow 10 p)) (hp : p ≤ 9)
    (hw : w * 10 ^ p + v % 10 ^ p ≤ durationLimit) :
    Readable ⟨w, fractionDigits v p, name, Nat.pow 10 p⟩ where
  known_unit := hunit
  frac_digits := fun _ hc => isDigit_of_mem_fractionDigits hc
  exact_scale := fun _ => by
    refine ⟨Nat.div_pos (Nat.pow_le_pow_right (by decide) (length_fractionDigits_le v p))
      (Nat.pow_pos (by decide)), scale_exact hp (length_fractionDigits_le v p)⟩
  frac_lt := by
    have hlen := length_fractionDigits_le v p
    have h9 : 10 ^ p ≤ 10 ^ 9 := Nat.pow_le_pow_right (by decide) hp
    simp only [Nat.pow_eq]
    rw [Nat.pow_div hlen (by decide), ofDigitChars_fractionDigits]
    exact Nat.lt_of_lt_of_le (Nat.mod_lt _ (Nat.pow_pos (by decide))) h9
  whole_le := by
    show w ≤ durationLimit / Nat.pow 10 p
    rw [Nat.pow_eq, Nat.le_div_iff_mul_le (Nat.pow_pos (by decide))]
    exact Nat.le_trans (Nat.le_add_right _ _) hw
  value_le := by rw [value_fraction]; exact hw

end DurationTerm

/-- The terms written for the seconds of a magnitude of at least a second: whole hours and
minutes when there are any, and seconds with the fraction. -/
def secondsTerms (u : Nat) : List DurationTerm :=
  let s : DurationTerm := ⟨u / 1000000000 % 60, fractionDigits u 9, "s", Nat.pow 10 9⟩
  if u / 1000000000 / 60 = 0 then [s]
  else if u / 1000000000 / 60 / 60 = 0 then
    [⟨u / 1000000000 / 60 % 60, [], "m", 60000000000⟩, s]
  else
    [⟨u / 1000000000 / 60 / 60, [], "h", 3600000000000⟩,
      ⟨u / 1000000000 / 60 % 60, [], "m", 60000000000⟩, s]

/-- The unit and precision of a magnitude below a second. -/
def subsecondUnit (u : Nat) : String × Nat :=
  if u < 1000 then ("ns", 0) else if u < 1000000 then ("µs", 3) else ("ms", 6)

/-- The terms written for a magnitude of `u` nanoseconds. -/
def writtenTerms (u : Nat) : List DurationTerm :=
  if u = 0 then [⟨0, [], "s", 1000000000⟩]
  else if u < Duration.second then
    [⟨u / Nat.pow 10 (subsecondUnit u).2, fractionDigits u (subsecondUnit u).2,
      (subsecondUnit u).1, Nat.pow 10 (subsecondUnit u).2⟩]
  else secondsTerms u

theorem subsecondUnit_known (u : Nat) :
    (subsecondUnit u).2 ≤ 9 ∧
      unitNanos (subsecondUnit u).1 = some (Nat.pow 10 (subsecondUnit u).2) := by
  unfold subsecondUnit
  split
  · decide
  · split <;> decide

theorem writtenTerms_ne_nil (u : Nat) : writtenTerms u ≠ [] := by
  unfold writtenTerms secondsTerms
  split
  · simp
  · split
    · simp
    · simp only
      split
      · simp
      · split <;> simp

theorem text_fraction (w v p : Nat) (name : String) :
    (toString w).toList ++ ((Duration.fraction v p).1.toList ++ name.toList) =
      DurationTerm.text ⟨w, fractionDigits v p, name, Nat.pow 10 p⟩ := by
  simp [DurationTerm.text, fraction_text]

/-- The written form of a duration is its sign and the text of its written terms. -/
theorem render_toList (d : Duration) :
    d.render.toList =
      (if d.nanos < 0 then ['-'] else []) ++
        (writtenTerms d.nanos.natAbs).flatMap DurationTerm.text := by
  have hsign : (if d.nanos < 0 then "-" else "").toList = if d.nanos < 0 then ['-'] else [] := by
    split <;> rfl
  simp only [Duration.render, writtenTerms]
  split
  case isTrue h0 => simp [Int.natAbs_eq_zero.mp h0, DurationTerm.text]
  case isFalse h0 =>
    split
    case isTrue hsec =>
      simp only [String.toList_append, hsign, List.append_assoc, fraction_whole, text_fraction,
        List.flatMap_cons, List.flatMap_nil, List.append_nil, subsecondUnit]
    case isFalse hsec =>
      simp only [secondsTerms, fraction_whole]
      have h9 : Nat.pow 10 9 = 1000000000 := rfl
      simp only [h9]
      split
      · simp [DurationTerm.text, fraction_text, hsign]
      · split <;> simp [DurationTerm.text, fraction_text, hsign]

/-- Whole hours, minutes and seconds and the nanoseconds left add back to the magnitude. -/
theorem hours_minutes_seconds (u : Nat) :
    u / 1000000000 / 60 / 60 * 3600000000000 + (u / 1000000000 / 60 % 60 * 60000000000 +
      (u / 1000000000 % 60 * 1000000000 + u % 1000000000)) = u := by
  omega

/-- The terms written for the seconds add up to the magnitude. -/
theorem sum_secondsTerms (u : Nat) : ((secondsTerms u).map DurationTerm.value).sum = u := by
  have hsum := hours_minutes_seconds u
  have hsv := DurationTerm.value_fraction (u / 1000000000 % 60) u 9 "s"
  have h9 : 10 ^ 9 = 1000000000 := rfl
  rw [h9] at hsv
  -- the values are rewritten one by one: a `simp` over these literal units sends the kernel
  -- into unary arithmetic
  simp only [secondsTerms]
  split
  case isTrue hmin =>
    rw [show u / 1000000000 / 60 / 60 = 0 by rw [hmin], hmin] at hsum
    rw [List.map_cons, List.map_nil, List.sum_cons, List.sum_nil, Nat.add_zero, hsv]
    simpa using hsum
  case isFalse hmin =>
    split
    case isTrue hhour =>
      rw [hhour] at hsum
      rw [List.map_cons, List.map_cons, List.map_nil, List.sum_cons, List.sum_cons, List.sum_nil,
        Nat.add_zero, DurationTerm.value_whole, hsv]
      simpa using hsum
    case isFalse hhour =>
      rw [List.map_cons, List.map_cons, List.map_cons, List.map_nil, List.sum_cons, List.sum_cons,
        List.sum_cons, List.sum_nil, Nat.add_zero, DurationTerm.value_whole,
        DurationTerm.value_whole, hsv]
      exact hsum

/-- The written terms add up to the magnitude. -/
theorem sum_writtenTerms (u : Nat) : ((writtenTerms u).map DurationTerm.value).sum = u := by
  unfold writtenTerms
  split
  case isTrue h0 => simp [DurationTerm.value_whole, h0]
  case isFalse h0 =>
    split
    case isTrue hsec =>
      rw [List.map_cons, List.map_nil, List.sum_cons, List.sum_nil, Nat.add_zero,
        DurationTerm.value_fraction, Nat.pow_eq]
      exact Nat.div_add_mod' _ _
    case isFalse hsec => exact sum_secondsTerms u

/-- Every term written for a magnitude in range is readable. -/
theorem readable_writtenTerms {u : Nat} (hu : u ≤ durationLimit) :
    ∀ t ∈ writtenTerms u, t.Readable := by
  have h9 : 10 ^ 9 = 1000000000 := rfl
  have hlimit : durationLimit = 9223372036854775808 := rfl
  have hsr :
      DurationTerm.Readable ⟨u / 1000000000 % 60, fractionDigits u 9, "s", Nat.pow 10 9⟩ :=
    DurationTerm.readable_fraction (by decide) (Nat.le_refl 9) (by rw [h9]; omega)
  have hmr : DurationTerm.Readable ⟨u / 1000000000 / 60 % 60, [], "m", 60000000000⟩ :=
    DurationTerm.readable_whole (by decide) (by omega)
  have hhr : DurationTerm.Readable ⟨u / 1000000000 / 60 / 60, [], "h", 3600000000000⟩ :=
    DurationTerm.readable_whole (by decide) (by omega)
  intro t ht
  simp only [writtenTerms, secondsTerms] at ht
  split at ht
  case isTrue h0 =>
    rw [List.mem_singleton.mp ht]
    exact DurationTerm.readable_whole (by decide) (by decide)
  case isFalse h0 =>
    split at ht
    case isTrue hsec =>
      obtain ⟨hp, hunit⟩ := subsecondUnit_known u
      rw [List.mem_singleton.mp ht]
      exact DurationTerm.readable_fraction hunit hp (by rw [Nat.pow_eq, Nat.div_add_mod']; exact hu)
    case isFalse hsec =>
      split at ht
      · rw [List.mem_singleton.mp ht]
        exact hsr
      · split at ht
        · simp only [List.mem_cons, List.not_mem_nil, or_false] at ht
          rcases ht with rfl | rfl
          · exact hmr
          · exact hsr
        · simp only [List.mem_cons, List.not_mem_nil, or_false] at ht
          rcases ht with rfl | rfl | rfl
          · exact hhr
          · exact hmr
          · exact hsr

/-! ## Reading back -/

theorem splitSign_of_isDigit {c : Char} {r : List Char} (h : c.isDigit = true) :
    splitSign (c :: r) = (false, c :: r) := by
  unfold splitSign
  split
  · simp_all
  · simp_all
  · rfl

/-- The text of readable terms starts with a digit and is not the lone zero. -/
theorem DurationTerm.flatMap_text_cons {ts : List DurationTerm} (hne : ts ≠ [])
    (hts : ∀ t ∈ ts, t.Readable) :
    ∃ c cs,
      ts.flatMap DurationTerm.text = c :: cs ∧ c.isDigit = true ∧ c :: cs ≠ ['0'] := by
  obtain ⟨t, ts', rfl⟩ := List.exists_cons_of_ne_nil hne
  obtain ⟨c, cs, hcs⟩ := List.exists_cons_of_ne_nil (DurationTerm.text_ne_nil t)
  have hc := DurationTerm.head_text t
  rw [hcs] at hc
  refine ⟨c, cs ++ ts'.flatMap DurationTerm.text, by rw [List.flatMap_cons, hcs]; rfl,
    hc c rfl, ?_⟩
  -- the first term has a digit and a unit
  have h2 := DurationTerm.two_le_length_text (hts t List.mem_cons_self)
  rw [hcs] at h2
  intro h
  have := congrArg List.length h
  simp only [List.length_cons, List.length_append, List.length_nil] at this h2
  omega

/-- A duration in range reads back from its written form. -/
theorem parse_render (d : Duration) (hlo : -(durationLimit : Int) ≤ d.nanos)
    (hhi : d.nanos < durationLimit) : Duration.parse d.render = .ok d := by
  have hd : d.nanos.natAbs ≤ durationLimit := by omega
  have hts := readable_writtenTerms hd
  have hsum := sum_writtenTerms d.nanos.natAbs
  have htext := render_toList d
  have hne := writtenTerms_ne_nil d.nanos.natAbs
  generalize writtenTerms d.nanos.natAbs = ts at hts hsum htext hne
  -- the terms after the sign read back as the magnitude
  have hread : readTerms d.render 0 ((ts.flatMap DurationTerm.text).length + 1)
      (ts.flatMap DurationTerm.text) = .ok d.nanos.natAbs := by
    have := @readTerms_texts d.render _ 0 _ hts
      (Nat.le_succ_of_le (length_le_length_flatMap_text ts)) (by rw [hsum, Nat.zero_add]; exact hd)
    rwa [hsum, Nat.zero_add] at this
  obtain ⟨c, cs, hbody, hc, hzero⟩ := DurationTerm.flatMap_text_cons hne hts
  rw [hbody] at htext hread
  unfold Duration.parse
  rw [htext]
  by_cases hneg : d.nanos < 0
  case pos =>
    rw [if_pos hneg, List.singleton_append]
    simp only [splitSign, hzero, List.isEmpty_cons, Bool.false_eq_true, ↓reduceIte, hread]
    cases d
    simp only [Except.ok.injEq, Duration.mk.injEq] at hneg ⊢
    omega
  case neg =>
    rw [if_neg hneg, List.nil_append]
    simp only [splitSign_of_isDigit hc, hzero, List.isEmpty_cons, Bool.false_eq_true, ↓reduceIte,
      hread]
    have hlt : ¬ d.nanos.natAbs > durationLimit - 1 := by omega
    cases d
    simp only [hlt, ↓reduceIte, Except.ok.injEq, Duration.mk.injEq] at hneg ⊢
    omega

end PredictorSweep
