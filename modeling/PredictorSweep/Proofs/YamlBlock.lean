import PredictorSweep.Proofs.YamlScalars
/-!
# Block documents of words

The settings file is a block document of a particular shape: a mapping of sections, each a
mapping of entries whose values are scalars or sequences of scalars. When every scalar is a word,
of letters, digits and a few marks, each is written on its own line, plain or between double
quotes, with nothing to escape. This module describes such documents (`IsBlockDoc`) and
gives the writer's text of them line by line (`docChars`).

Main definitions and statements:

- `isBareChar`, `wordScalar`, `Value.isWordScalar`, `Value.isLeaf`, `isKey`, `IsBlockDoc`;
- `written`, `leafChars`, `entryChars`, `sectionChars`, `docChars`: the written lines;
- `render_blockDoc`: the writer writes a block document of words as `docChars` says.
-/

namespace PredictorSweep.Yaml

/-! ### The documents -/

/-- Characters that stand bare in a word: ASCII letters and digits, and `-`, `_`, `.`, `/`, `+`. -/
def isBareChar (c : Char) : Bool :=
  (c.isAlphanum && c.toNat < 128) || c == '-' || c == '_' || c == '.' || c == '/' || c == '+'

/-- A text of bare characters written in a style: plain and not empty, or in double quotes. -/
def wordScalar (t : String) (style : ScalarStyle) : Bool :=
  t.toList.all isBareChar && ((style == .plain && !t.isEmpty) || style == .doubleQuoted)

/-- A scalar the writer writes as a word, in the style it chooses for a value. -/
def Value.isWordScalar : Value → Bool
  | .scalar t asked => wordScalar t (chooseStyle t asked false)
  | _ => false

/-- A value of an entry: a word, or a sequence of at least one word. -/
def Value.isLeaf : Value → Bool
  | .scalar t asked => wordScalar t (chooseStyle t asked false)
  | .sequence items => !items.isEmpty && items.all Value.isWordScalar
  | .mapping _ => false

/-- A key the writer writes plain, a word of fewer than a thousand characters. -/
def isKey (k : String) : Bool :=
  k.toList.all isBareChar && !k.isEmpty && k.length < 1000 &&
    chooseStyle k (Value.ofString k).style true == .plain

/-- A section: a mapping of at least one entry, each under a key and of a leaf value. -/
def Value.isSection : Value → Bool
  | .mapping fs => !fs.isEmpty && fs.all fun (k, v) => isKey k && v.isLeaf
  | _ => false

/-- The sections of a block document of words: at least one, each under a key. -/
def IsBlockDoc (es : List (String × Value)) : Prop :=
  es ≠ [] ∧ ∀ e ∈ es, isKey e.1 = true ∧ e.2.isSection = true

/-! ### The written lines -/

/-- A word as written: as it is, or between double quotes. -/
def written (t : String) (style : ScalarStyle) : List Char :=
  if style == .plain then t.toList else '"' :: (t.toList ++ ['"'])

/-- A scalar value as written. -/
def scalarChars : Value → List Char
  | .scalar t asked => written t (chooseStyle t asked false)
  | _ => []

/-- An item of a sequence, on a line of its own eight columns in. -/
def itemChars (v : Value) : List Char :=
  '\n' :: (List.replicate 8 ' ' ++ '-' :: ' ' :: scalarChars v)

/-- What follows an entry's key and colon: a space and the word, or the items. -/
def leafChars : Value → List Char
  | .sequence items => items.flatMap itemChars
  | v => ' ' :: scalarChars v

/-- An entry of a section, on a line of its own four columns in. -/
def entryChars (e : String × Value) : List Char :=
  '\n' :: (List.replicate 4 ' ' ++ e.1.toList ++ ':' :: leafChars e.2)

/-- A section: its key and colon, then its entries. -/
def sectionChars (e : String × Value) : List Char :=
  e.1.toList ++ ':' ::
    match e.2 with
    | .mapping fs => fs.flatMap entryChars
    | _ => []

/-- A block document as written: its sections, each after a line break but the first, and a
final line break. -/
def docChars (es : List (String × Value)) : List Char :=
  match es with
  | [] => ['\n']
  | e :: rest => sectionChars e ++ rest.flatMap (fun e => '\n' :: sectionChars e) ++ ['\n']

/-! ### Bare characters -/

theorem isBareChar_lt {c : Char} (h : isBareChar c = true) : c.toNat < 128 := by
  simp only [isBareChar, Bool.or_eq_true, Bool.and_eq_true, beq_iff_eq, decide_eq_true_eq] at h
  rcases h with ((((⟨-, h⟩ | rfl) | rfl) | rfl) | rfl) | rfl
  all_goals first | exact h | decide

/-- What a bare character is not, checked over the ASCII characters. -/
theorem bare_ascii : ∀ n : Fin 128, isBareChar (Char.ofNat n) = true →
    isBreak (Char.ofNat n) = false ∧ isBlank (Char.ofNat n) = false ∧
      isPrintable (Char.ofNat n) = true ∧ isAllowedChar (Char.ofNat n) = true ∧
      Char.ofNat n ≠ '"' ∧ Char.ofNat n ≠ '\\' ∧ Char.ofNat n ≠ ':' ∧ Char.ofNat n ≠ '#' ∧
      (Char.ofNat n).toNat ≠ 0xFEFF := by
  decide

/-- A bare character is printable and allowed, and no break, blank, quote, backslash, colon or
hash. -/
theorem bare_spec {c : Char} (h : isBareChar c = true) :
    isBreak c = false ∧ isBlank c = false ∧ isPrintable c = true ∧ isAllowedChar c = true ∧
      c ≠ '"' ∧ c ≠ '\\' ∧ c ≠ ':' ∧ c ≠ '#' ∧ c.toNat ≠ 0xFEFF := by
  have hlt := isBareChar_lt h
  have hc : Char.ofNat (⟨c.toNat, hlt⟩ : Fin 128) = c := Char.ofNat_toNat c
  rw [← hc] at h ⊢
  exact bare_ascii ⟨c.toNat, hlt⟩ h

/-! ### What the pen writes -/

namespace Pen

/-- A pen whose line holds more than indentation, after something other than a blank. -/
def Closed (p : Pen) : Prop := p.whitespace = false ∧ p.indention = false

@[simp] theorem put_out (p : Pen) (c : Char) : (p.put c).out.toList = p.out.toList ++ [c] := by
  simp [put]

@[simp] theorem put_column (p : Pen) (c : Char) : (p.put c).column = p.column + 1 := rfl

@[simp] theorem put_whitespace (p : Pen) (c : Char) : (p.put c).whitespace = p.whitespace := rfl

@[simp] theorem put_indention (p : Pen) (c : Char) : (p.put c).indention = p.indention := rfl

theorem foldl_put_out (p : Pen) (cs : List Char) :
    (cs.foldl put p).out.toList = p.out.toList ++ cs ∧
      (cs.foldl put p).whitespace = p.whitespace ∧ (cs.foldl put p).indention = p.indention := by
  induction cs generalizing p with
  | nil => simp
  | cons c cs ih =>
    obtain ⟨h1, h2, h3⟩ := ih (p.put c)
    simp only [List.foldl_cons, h1, h2, h3]
    simp

theorem foldl_spaces (p : Pen) (n : Nat) :
    ((List.range n).foldl (fun p _ => p.put ' ') p).out.toList =
        p.out.toList ++ List.replicate n ' ' ∧
      ((List.range n).foldl (fun p _ => p.put ' ') p).column = p.column + n := by
  induction n generalizing p with
  | zero => simp
  | succ n ih =>
    rw [List.range_succ, List.foldl_append]
    obtain ⟨h1, h2⟩ := ih p
    simp only [List.foldl_cons, List.foldl_nil, put_out, put_column, h1, h2,
      List.replicate_succ', List.append_assoc]
    exact ⟨trivial, by omega⟩

/-- Going to an indentation from a closed line starts a new line and pads it. -/
theorem indentTo_closed {p : Pen} (hp : p.indention = false) (t : Int) :
    (p.indentTo t).out.toList = p.out.toList ++ '\n' :: List.replicate t.toNat ' ' ∧
      (p.indentTo t).whitespace = true ∧ (p.indentTo t).indention = true := by
  obtain ⟨hout, hcol⟩ := foldl_spaces p.newline (t.toNat - p.newline.column)
  simp only [indentTo, hp, Bool.not_false, Bool.true_or, ↓reduceIte]
  refine ⟨?_, trivial, trivial⟩
  rw [hout]
  simp [newline]

/-- The empty pen is at the first indentation already. -/
theorem indentTo_empty : ({} : Pen).indentTo 0 = {} := rfl

theorem indicator_out (p : Pen) (s : String) (needSpace isSpace isIndention : Bool) :
    (p.indicator s needSpace isSpace isIndention).out.toList =
        p.out.toList ++ (if needSpace && !p.whitespace then [' '] else []) ++ s.toList ∧
      (p.indicator s needSpace isSpace isIndention).whitespace = isSpace ∧
      (p.indicator s needSpace isSpace isIndention).indention =
        (p.indention && isIndention) := by
  unfold indicator
  by_cases hs : (needSpace && !p.whitespace) = true
  · obtain ⟨h1, -, h3⟩ := foldl_put_out (p.put ' ') s.toList
    simp only [hs, ↓reduceIte, h1, h3]
    simp
  · obtain ⟨h1, -, h3⟩ := foldl_put_out p s.toList
    simp only [hs, Bool.false_eq_true, ↓reduceIte, h1, h3]
    simp

/-- A character that is not a line break adds itself to a scalar's characters. -/
theorem scalarChars_cons (p : Pen) (indent : Int) {c : Char} (cs : List Char)
    (hc : isBreak c = false) :
    p.scalarChars indent false (c :: cs) =
      Pen.scalarChars { p.put c with indention := false } indent false cs := by
  simp [scalarChars, hc]

/-- Characters without line breaks are written as they are. -/
theorem scalarChars_unbroken (p : Pen) (indent : Int) (cs : List Char)
    (hcs : ∀ c ∈ cs, isBreak c = false) :
    (p.scalarChars indent false cs).out.toList = p.out.toList ++ cs ∧
      (p.scalarChars indent false cs).whitespace = p.whitespace ∧
      (p.scalarChars indent false cs).indention = (p.indention && cs.isEmpty) := by
  induction cs generalizing p with
  | nil => simp [scalarChars]
  | cons c cs ih =>
    rw [scalarChars_cons p indent cs (hcs c List.mem_cons_self)]
    obtain ⟨h1, h2, h3⟩ := ih { p.put c with indention := false }
      fun c' hc' => hcs c' (List.mem_cons_of_mem _ hc')
    refine ⟨?_, ?_, ?_⟩
    · rw [h1]
      simp
    · rw [h2]
      rfl
    · rw [h3]
      simp

/-- Double quotes need no escape for a bare character. -/
theorem escaped_bare (p : Pen) {c : Char} (hc : isBareChar c = true) : p.escaped c = p.put c := by
  obtain ⟨hbreak, -, hprint, -, hquote, hslash, -, -, hbom⟩ := bare_spec hc
  have hnl : c ≠ '\n' := fun h => by rw [h] at hbreak; exact absurd hbreak (by decide)
  simp [escaped, hprint, hbreak, hquote, hslash, hbom, hnl]

/-- Bare characters are written between double quotes as they are. -/
theorem foldl_escaped_bare (cs : List Char) (hcs : ∀ c ∈ cs, isBareChar c = true) (q : Pen) :
    cs.foldl escaped q = cs.foldl put q := by
  induction cs generalizing q with
  | nil => rfl
  | cons c cs ih =>
    rw [List.foldl_cons, List.foldl_cons, escaped_bare q (hcs c List.mem_cons_self)]
    exact ih (fun c' hc' => hcs c' (List.mem_cons_of_mem _ hc')) _

/-- A word is written after a space unless a blank precedes it: plain, or between double quotes.
-/
theorem scalar_word (p : Pen) {t : String} {style : ScalarStyle} (h : wordScalar t style = true)
    (indent : Int) (best : Nat) :
    (p.scalar t style indent best).out.toList =
        p.out.toList ++ (if p.whitespace then [] else [' ']) ++ written t style ∧
      (p.scalar t style indent best).Closed := by
  simp only [wordScalar, Bool.and_eq_true, List.all_eq_true, Bool.or_eq_true,
    ScalarStyle.beq_eq_true, Bool.not_eq_true'] at h
  obtain ⟨hbare, (⟨rfl, hne⟩ | rfl)⟩ := h
  · -- a plain word: its characters, after a space
    have hunbroken : ∀ c ∈ t.toList, isBreak c = false := fun c hc => (bare_spec (hbare c hc)).1
    refine ⟨?_, by simp [scalar, hne, Closed]⟩
    cases hw : p.whitespace
    · obtain ⟨h1, -, -⟩ := scalarChars_unbroken (p.put ' ') indent t.toList hunbroken
      simp [scalar, hne, hw, h1, written, ScalarStyle.beq_eq_true]
    · obtain ⟨h1, -, -⟩ := scalarChars_unbroken p indent t.toList hunbroken
      simp [scalar, hne, hw, h1, written, ScalarStyle.beq_eq_true]
  · -- a word between double quotes: nothing in it needs an escape
    obtain ⟨h1, h2, -⟩ := indicator_out p "\"" true false false
    obtain ⟨h3, h4, -⟩ := foldl_put_out (p.indicator "\"" true false false) t.toList
    obtain ⟨h5, -, -⟩ := indicator_out
      (t.toList.foldl put (p.indicator "\"" true false false)) "\"" false false false
    refine ⟨?_, ?_⟩
    · simp only [scalar, foldl_escaped_bare t.toList hbare, h5, h3, h1]
      cases p.whitespace <;> simp [written, ScalarStyle.beq_eq_true]
    · simp [scalar, Closed]

end Pen

/-! ### What the writer writes -/

section Write

open Pen

theorem nestedIndent_item : nestedIndent 4 8 true true = 10 := by decide
theorem nestedIndent_items : nestedIndent 4 4 false false = 8 := by decide
theorem nestedIndent_entries : nestedIndent 4 0 false false = 4 := by decide
theorem nestedIndent_top : nestedIndent 4 (-1) false false = 0 := by decide

theorem write_word (p : Pen) (indent : Int) (inItem : Bool) {v : Value} (hv : v.isWordScalar = true) :
    (Value.write 4 indent inItem p v).out.toList =
        p.out.toList ++ (if p.whitespace then [] else [' ']) ++ scalarChars v ∧
      (Value.write 4 indent inItem p v).Closed := by
  cases v with
  | scalar t asked =>
    rw [Value.write]
    exact scalar_word p hv _ 4
  | sequence items => simp [Value.isWordScalar] at hv
  | mapping entries => simp [Value.isWordScalar] at hv

/-- Items are written one a line, eight columns in, after `- `. -/
theorem writeItems_words (p : Pen) (hp : p.indention = false) (items : List Value)
    (h : ∀ x ∈ items, x.isWordScalar = true) :
    (Value.writeItems 4 8 p items).out.toList = p.out.toList ++ items.flatMap itemChars ∧
      (Value.writeItems 4 8 p items).indention = false ∧
      (items ≠ [] → (Value.writeItems 4 8 p items).Closed) := by
  induction items generalizing p with
  | nil => simp [Value.writeItems, hp]
  | cons x xs ih =>
    -- the dash at the indentation, then the word after a space
    obtain ⟨hi1, hi2, hi3⟩ := indentTo_closed hp 8
    obtain ⟨hd1, hd2, -⟩ := indicator_out (p.indentTo 8) "-" true false true
    obtain ⟨hw1, hw2⟩ := write_word ((p.indentTo 8).indicator "-" true false true) 8 true
      (h x List.mem_cons_self)
    obtain ⟨ih1, ih2, ih3⟩ := ih _ hw2.2 fun y hy => h y (List.mem_cons_of_mem _ hy)
    rw [Value.writeItems]
    refine ⟨?_, ih2, fun _ => ?_⟩
    · rw [ih1, hw1, hd1, hd2, hi1, hi2]
      simp [itemChars]
    · cases xs with
      | nil => simpa [Value.writeItems] using hw2
      | cons y ys => exact ih3 (List.cons_ne_nil y ys)

/-- An entry's value after its colon: a space and the word, or its items on lines of their own. -/
theorem write_leaf (p : Pen) (hp : p.Closed) {v : Value} (hv : v.isLeaf = true) :
    (Value.write 4 4 false p v).out.toList = p.out.toList ++ leafChars v ∧
      (Value.write 4 4 false p v).Closed := by
  cases v with
  | scalar t asked =>
    obtain ⟨h1, h2⟩ := write_word p 4 false (v := .scalar t asked) hv
    refine ⟨?_, h2⟩
    rw [h1, hp.1]
    simp [leafChars]
  | sequence items =>
    simp only [Value.isLeaf, Bool.and_eq_true, Bool.not_eq_true', List.isEmpty_eq_false_iff,
      List.all_eq_true] at hv
    obtain ⟨hne, hwords⟩ := hv
    obtain ⟨x, xs, rfl⟩ := List.exists_cons_of_ne_nil hne
    obtain ⟨h1, -, h3⟩ := writeItems_words p hp.2 (x :: xs) hwords
    rw [Value.write, nestedIndent_items]
    exact ⟨by rw [h1]; rfl, h3 (List.cons_ne_nil x xs)⟩
  | mapping entries => simp [Value.isLeaf] at hv

/-- A key is written plain at the start of its line's content. -/
theorem scalar_key (p : Pen) (hp : p.whitespace = true) {k : String} (hk : isKey k = true)
    (indent : Int) :
    (p.scalar k (chooseStyle k (Value.ofString k).style true) indent 4).out.toList =
      p.out.toList ++ k.toList ∧
      (p.scalar k (chooseStyle k (Value.ofString k).style true) indent 4).Closed := by
  simp only [isKey, Bool.and_eq_true, ScalarStyle.beq_eq_true] at hk
  obtain ⟨⟨⟨hbare, hne⟩, -⟩, hplain⟩ := hk
  have hword : wordScalar k .plain = true := by
    simp [wordScalar, hbare, hne, ScalarStyle.beq_eq_true]
  obtain ⟨h1, h2⟩ := scalar_word p hword indent 4
  rw [hplain, h1, hp]
  exact ⟨by simp [written, ScalarStyle.beq_eq_true], h2⟩

/-- The entries of a section, one a line, four columns in. -/
theorem writeEntries_section (p : Pen) (hp : p.indention = false) (fs : List (String × Value))
    (h : ∀ f ∈ fs, isKey f.1 = true ∧ f.2.isLeaf = true) :
    (Value.writeEntries 4 4 p fs).out.toList = p.out.toList ++ fs.flatMap entryChars ∧
      (Value.writeEntries 4 4 p fs).indention = false ∧
      (fs ≠ [] → (Value.writeEntries 4 4 p fs).Closed) := by
  induction fs generalizing p with
  | nil => simp [Value.writeEntries, hp]
  | cons f fs ih =>
    obtain ⟨k, v⟩ := f
    obtain ⟨hk, hv⟩ := h (k, v) List.mem_cons_self
    -- the key at the indentation, its colon, then its value
    obtain ⟨hi1, hi2, -⟩ := indentTo_closed hp 4
    obtain ⟨hk1, hk2⟩ := scalar_key (p.indentTo 4) hi2 hk (nestedIndent 4 4 true false)
    obtain ⟨hc1, hc2, hc3⟩ := indicator_out
      ((p.indentTo 4).scalar k (chooseStyle k (Value.ofString k).style true)
        (nestedIndent 4 4 true false) 4) ":" false false false
    obtain ⟨hv1, hv2⟩ := write_leaf _ ⟨hc2, by rw [hc3, hk2.2]; rfl⟩ hv
    obtain ⟨ih1, ih2, ih3⟩ := ih _ hv2.2 fun g hg => h g (List.mem_cons_of_mem _ hg)
    rw [Value.writeEntries]
    refine ⟨?_, ih2, fun _ => ?_⟩
    · rw [ih1, hv1, hc1, hk1, hi1]
      simp [entryChars]
    · cases fs with
      | nil => simpa [Value.writeEntries] using hv2
      | cons g gs => exact ih3 (List.cons_ne_nil g gs)

/-- A section from the start of its line: its key, its colon, then its entries. -/
theorem write_section (q : Pen) (hq : q.whitespace = true) {k : String} {v : Value}
    (hk : isKey k = true) (hv : v.isSection = true) :
    (Value.write 4 0 false ((q.scalar k (chooseStyle k (Value.ofString k).style true)
        (nestedIndent 4 0 true false) 4).indicator ":" false false false) v).out.toList =
        q.out.toList ++ sectionChars (k, v) ∧
      (Value.write 4 0 false ((q.scalar k (chooseStyle k (Value.ofString k).style true)
        (nestedIndent 4 0 true false) 4).indicator ":" false false false) v).Closed := by
  cases v with
  | mapping fs =>
    simp only [Value.isSection, Bool.and_eq_true, Bool.not_eq_true', List.isEmpty_eq_false_iff,
      List.all_eq_true] at hv
    obtain ⟨hne, hfs⟩ := hv
    obtain ⟨f, fs', rfl⟩ := List.exists_cons_of_ne_nil hne
    obtain ⟨hk1, hk2⟩ := scalar_key q hq hk (nestedIndent 4 0 true false)
    obtain ⟨hc1, -, hc3⟩ := indicator_out
      (q.scalar k (chooseStyle k (Value.ofString k).style true) (nestedIndent 4 0 true false) 4)
      ":" false false false
    obtain ⟨h1, -, h3⟩ := writeEntries_section _ (by rw [hc3, hk2.2]; rfl) (f :: fs')
      fun g hg => by simpa using hfs g hg
    rw [Value.write, nestedIndent_entries]
    refine ⟨?_, h3 (List.cons_ne_nil f fs')⟩
    rw [h1, hc1, hk1]
    simp [sectionChars]
  | scalar t asked => simp [Value.isSection] at hv
  | sequence items => simp [Value.isSection] at hv

/-- Sections after the first, each on a line of its own. -/
theorem writeEntries_sections (p : Pen) (hp : p.indention = false) (es : List (String × Value))
    (h : ∀ e ∈ es, isKey e.1 = true ∧ e.2.isSection = true) :
    (Value.writeEntries 4 0 p es).out.toList =
        p.out.toList ++ es.flatMap (fun e => '\n' :: sectionChars e) ∧
      (Value.writeEntries 4 0 p es).indention = false := by
  induction es generalizing p with
  | nil => simp [Value.writeEntries, hp]
  | cons e es ih =>
    obtain ⟨k, v⟩ := e
    obtain ⟨hk, hv⟩ := h (k, v) List.mem_cons_self
    obtain ⟨hi1, hi2, -⟩ := indentTo_closed hp 0
    obtain ⟨hs1, hs2⟩ := write_section (p.indentTo 0) hi2 hk hv
    obtain ⟨ih1, ih2⟩ := ih _ hs2.2 fun g hg => h g (List.mem_cons_of_mem _ hg)
    rw [Value.writeEntries]
    refine ⟨?_, ih2⟩
    rw [ih1, hs1, hi1]
    simp

/-- The writer writes a block document of words as `docChars` says: its sections one after
another, each entry and item on a line of its own, and a final line break. -/
theorem render_blockDoc {es : List (String × Value)} (h : IsBlockDoc es) :
    ((Value.mapping es).render 4).toList = docChars es := by
  obtain ⟨hne, hes⟩ := h
  obtain ⟨⟨k, sv⟩, rest, rfl⟩ := List.exists_cons_of_ne_nil hne
  obtain ⟨hk, hv⟩ := hes (k, sv) List.mem_cons_self
  -- the first section from the empty pen, the others each on a new line
  obtain ⟨hs1, hs2⟩ := write_section ({} : Pen) rfl hk hv
  obtain ⟨h1, h2⟩ := writeEntries_sections _ hs2.2 rest
    fun g hg => hes g (List.mem_cons_of_mem _ hg)
  obtain ⟨hf1, -, -⟩ := indentTo_closed h2 0
  simp only [Value.render, Value.write, nestedIndent_top, Value.writeEntries, indentTo_empty]
  rw [hf1, h1, hs1]
  simp [docChars]

end Write

end PredictorSweep.Yaml
