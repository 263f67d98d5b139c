import PredictorSweep.Sweep.Job
import PredictorSweep.Proofs.Utf8
/-!
# Command lines read back

A job's command line writes each argument as one shell word and joins the words by single
spaces, all as bytes. The words can be read back. A word that stands as it is holds no space and
no double quote. A quoted word starts with a double quote, and inside it every rune is written in
a form that reads back as the bytes it was read from, a byte that starts no character included;
a quote or a backslash is always escaped, so the word ends at the first quote that is not. The
empty argument is written as the quoted empty text. So a command line determines the arguments it
was written from, whatever bytes they hold, and a stored result that is reused only for a job with
the stored command line is never reused for other arguments.

The written form is read back from bytes: an ASCII byte of the UTF-8 form of a text is an ASCII
character of the text, so a backslash or a quote in the bytes is one in the text.

Main statements:

* `Text.readUnit_escapeRune`: the written form of a rune, whatever follows it, reads back as the
  rune's bytes;
* `Text.quoted_append_inj`: the written runes of a byte string up to the closing quote determine
  the byte string and what follows the quote;
* `shellWord_append_inj`: a shell word followed by the end of the line or by a space determines
  its argument and what follows;
* `Job.commandLine_eq_iff`: two jobs have the same command line exactly when they have the same
  command.
-/

namespace PredictorSweep

namespace Text

/-! ## Reading written runes back -/

/-- The value of a lower-case hexadecimal digit, by its byte. -/
def hexValue (b : UInt8) : Nat :=
  if b.toNat < 0x3A then b.toNat - 0x30 else b.toNat - 0x57

/-- The value of `w` hexadecimal digits at the front of some bytes, high digits first, and the
bytes after them. -/
def readHex : Nat → List UInt8 → Option (Nat × List UInt8)
  | 0, bs => some (0, bs)
  | w + 1, bs =>
    match readHex w bs with
    | some (v, d :: rest) => some (16 * v + hexValue d, rest)
    | _ => none

/-- The character a letter escape stands for; a quote or a backslash stands for itself. -/
def letterEscape (e : Char) : Char :=
  if e = 'a' then '\x07' else if e = 'b' then '\x08' else if e = 'f' then '\x0c'
  else if e = 'n' then '\n' else if e = 'r' then '\r' else if e = 't' then '\t'
  else if e = 'v' then '\x0b' else e

/-- Reads one rune in its written form from the bytes of the written text, and gives the bytes
it stands for: a character other than the backslash stands for itself; a backslash starts a
letter escape, `\x` and two hexadecimal digits standing for one byte, or `\u` and `\U` with four
or eight standing for a character. -/
def readUnit : List UInt8 → Option (List UInt8 × List UInt8)
  | [] => none
  | b :: rest =>
    if b ≠ '\\'.toUInt8 then
      (decodeRune (b :: rest)).map fun c => (String.utf8EncodeChar c, (b :: rest).drop c.utf8Size)
    else
      match rest with
      | [] => none
      | e :: rest' =>
        if e = 'x'.toUInt8 then (readHex 2 rest').map fun p => ([UInt8.ofNat p.1], p.2)
        else if e = 'u'.toUInt8 then
          (readHex 4 rest').map fun p => (String.utf8EncodeChar (Char.ofNat p.1), p.2)
        else if e = 'U'.toUInt8 then
          (readHex 8 rest').map fun p => (String.utf8EncodeChar (Char.ofNat p.1), p.2)
        else some (String.utf8EncodeChar (letterEscape (Char.ofNat e.toNat)), rest')

theorem readUnit_of_ne {b : UInt8} (hb : b ≠ '\\'.toUInt8) (rest : List UInt8) :
    readUnit (b :: rest) =
      (decodeRune (b :: rest)).map fun c => (String.utf8EncodeChar c, (b :: rest).drop c.utf8Size) := by
  unfold readUnit
  simp [hb]

theorem readUnit_backslash (e : UInt8) (rest : List UInt8) :
    readUnit ('\\'.toUInt8 :: e :: rest) =
      if e = 'x'.toUInt8 then (readHex 2 rest).map fun p => ([UInt8.ofNat p.1], p.2)
      else if e = 'u'.toUInt8 then
        (readHex 4 rest).map fun p => (String.utf8EncodeChar (Char.ofNat p.1), p.2)
      else if e = 'U'.toUInt8 then
        (readHex 8 rest).map fun p => (String.utf8EncodeChar (Char.ofNat p.1), p.2)
      else some (String.utf8EncodeChar (letterEscape (Char.ofNat e.toNat)), rest) := by
  unfold readUnit
  simp

theorem digit_byte : ∀ d, d < 16 →
    String.utf8EncodeChar (Nat.digitChar d) = [(Nat.digitChar d).toUInt8] ∧
      hexValue (Nat.digitChar d).toUInt8 = d := by
  decide +kernel

theorem readHex_hexDigits (n w : Nat) (rest : List UInt8) :
    readHex w ((hexDigits n w).flatMap String.utf8EncodeChar ++ rest) =
      some (n % Nat.pow 16 w, rest) := by
  induction w generalizing n rest with
  | zero => simp [readHex, hexDigits, Nat.mod_one]
  | succ w ih =>
    -- the high digits are those of `n / 16`, the last one is `n % 16`, one byte
    obtain ⟨hbyte, hvalue⟩ := digit_byte (n % 16) (Nat.mod_lt _ (by decide))
    have hsplit : (hexDigits n (w + 1)).flatMap String.utf8EncodeChar ++ rest =
        (hexDigits (n / 16) w).flatMap String.utf8EncodeChar ++
          ((Nat.digitChar (n % 16)).toUInt8 :: rest) := by
      simp [hexDigits, hbyte]
    rw [hsplit]
    simp only [readHex, ih, hvalue, Option.some.injEq, Prod.mk.injEq, and_true]
    show 16 * (n / 16 % Nat.pow 16 w) + n % 16 = n % (Nat.pow 16 w * 16)
    rw [Nat.mul_comm (Nat.pow 16 w) 16, Nat.mod_mul]
    omega

theorem char_toNat_lt (c : Char) : c.toNat < 0x110000 := by
  have h := c.valid
  simp only [UInt32.isValidChar, Nat.isValidChar] at h
  show c.val.toNat < _
  omega

/-- The written forms of a character: the character itself, other than a quote or a backslash;
a backslash and an ASCII letter; a backslash, `x` and the code of an ASCII character in two
hexadecimal digits; or a backslash, `u` or `U` and the character's code in four or eight. -/
theorem escapeChar_kinds (c : Char) :
    (c ≠ '"' ∧ c ≠ '\\' ∧ escapeChar c = [c]) ∨
    (∃ e, escapeChar c = ['\\', e] ∧ e.toNat < 0x80 ∧ e ≠ 'x' ∧ e ≠ 'u' ∧ e ≠ 'U' ∧
      letterEscape e = c) ∨
    (c.toNat < 0x80 ∧ escapeChar c = '\\' :: 'x' :: hexDigits c.toNat 2) ∨
    (∃ e w, escapeChar c = '\\' :: e :: hexDigits c.toNat w ∧ c.toNat < Nat.pow 16 w ∧
      (e = 'u' ∧ w = 4 ∨ e = 'U' ∧ w = 8)) := by
  by_cases hq : c = '"' ∨ c = '\\'
  · -- a quote or a backslash gets a backslash
    refine .inr (.inl ⟨c, by rw [escapeChar, if_pos hq], ?_⟩)
    rcases hq with rfl | rfl <;> decide
  obtain ⟨hq₁, hq₂⟩ := not_or.mp hq
  by_cases hp : Printable.isPrintable c = true
  · exact .inl ⟨hq₁, hq₂, by rw [escapeChar, if_neg hq, if_pos hp]⟩
  rw [escapeChar, if_neg hq, if_neg hp]
  -- the seven control characters with a letter escape, in the order they are tried
  by_cases h7 : c = '\x07'
  · exact .inr (.inl ⟨'a', by rw [if_pos h7], by decide, by decide, by decide, by decide,
      by rw [h7]; rfl⟩)
  rw [if_neg h7]
  by_cases h8 : c = '\x08'
  · exact .inr (.inl ⟨'b', by rw [if_pos h8], by decide, by decide, by decide, by decide,
      by rw [h8]; rfl⟩)
  rw [if_neg h8]
  by_cases hf : c = '\x0c'
  · exact .inr (.inl ⟨'f', by rw [if_pos hf], by decide, by decide, by decide, by decide,
      by rw [hf]; rfl⟩)
  rw [if_neg hf]
  by_cases hn : c = '\n'
  · exact .inr (.inl ⟨'n', by rw [if_pos hn], by decide, by decide, by decide, by decide,
      by rw [hn]; rfl⟩)
  rw [if_neg hn]
  by_cases hr : c = '\r'
  · exact .inr (.inl ⟨'r', by rw [if_pos hr], by decide, by decide, by decide, by decide,
      by rw [hr]; rfl⟩)
  rw [if_neg hr]
  by_cases ht : c = '\t'
  · exact .inr (.inl ⟨'t', by rw [if_pos ht], by decide, by decide, by decide, by decide,
      by rw [ht]; rfl⟩)
  rw [if_neg ht]
  by_cases hv : c = '\x0b'
  · exact .inr (.inl ⟨'v', by rw [if_pos hv], by decide, by decide, by decide, by decide,
      by rw [hv]; rfl⟩)
  rw [if_neg hv]
  -- every other character is written by its code
  refine .inr (.inr ?_)
  by_cases hx : c.toNat < 0x20 ∨ c.toNat = 0x7F
  · exact .inl ⟨by omega, by rw [if_pos hx]⟩
  rw [if_neg hx]
  refine .inr ?_
  by_cases hu : c.toNat < 0x10000
  · exact ⟨'u', 4, by rw [if_pos hu], show c.toNat < 65536 by omega, .inl ⟨rfl, rfl⟩⟩
  rw [if_neg hu]
  have hc := char_toNat_lt c
  exact ⟨'U', 8, rfl, show c.toNat < 4294967296 by omega, .inr ⟨rfl, rfl⟩⟩

/-- The bytes of an escape: a backslash, a letter, then what follows. -/
theorem flatMap_escape (e : Char) (he : e.toNat < 0x80) (l : List Char) :
    ('\\' :: e :: l).flatMap String.utf8EncodeChar =
      '\\'.toUInt8 :: e.toUInt8 :: l.flatMap String.utf8EncodeChar := by
  simp [utf8EncodeChar_of_lt he, utf8EncodeChar_of_lt (show ('\\').toNat < 0x80 by decide)]

/-- Two ASCII characters with the same byte are the same. -/
theorem toUInt8_inj_of_lt {c d : Char} (hc : c.toNat < 0x80) (hd : d.toNat < 0x80)
    (h : c.toUInt8 = d.toUInt8) : c = d := by
  rw [← ofNat_toUInt8_of_lt hc, ← ofNat_toUInt8_of_lt hd, h]

/-- A hexadecimal escape is read by its digits. -/
theorem readUnit_hex {e : Char} {w : Nat} (he : e.toNat < 0x80) (n : Nat) (rest : List UInt8)
    {g : Nat × List UInt8 → List UInt8 × List UInt8}
    (hread : ∀ bs, readUnit ('\\'.toUInt8 :: e.toUInt8 :: bs) = (readHex w bs).map g) :
    readUnit (('\\' :: e :: hexDigits n w).flatMap String.utf8EncodeChar ++ rest) =
      some (g (n % Nat.pow 16 w, rest)) := by
  rw [flatMap_escape e he, List.cons_append, List.cons_append, hread, readHex_hexDigits]
  rfl

/-- The written form of a rune, whatever follows it, reads back as the bytes of the rune. -/
theorem readUnit_escapeRune (r : Rune) (rest : List UInt8) :
    readUnit ((escapeRune r).flatMap String.utf8EncodeChar ++ rest) = some (r.bytes, rest) := by
  cases r with
  | invalid b =>
    -- a byte that starts no character is written `\x` and its two digits
    rw [escapeRune, readUnit_hex (by decide) b.toNat rest fun bs => readUnit_backslash _ bs]
    have hb : b.toNat % Nat.pow 16 2 = b.toNat := Nat.mod_eq_of_lt b.toNat_lt
    simp only [hb, UInt8.ofNat_toNat]
    rfl
  | char c =>
  rcases escapeChar_kinds c with ⟨hq, hbs, hc⟩ | ⟨e, hc, he, hx, hu, hU, hle⟩ |
      ⟨hlt, hc⟩ | ⟨e, w, hc, hlt, hew⟩
  · -- a character standing for itself is decoded from its UTF-8 form
    rw [escapeRune, hc, List.flatMap_singleton]
    obtain ⟨b, t, hbt⟩ := List.exists_cons_of_ne_nil (utf8EncodeChar_ne_nil c)
    have hb : b ≠ '\\'.toUInt8 := by
      intro hb
      obtain ⟨hcode, -⟩ := eq_of_head_utf8EncodeChar hbt (by rw [hb]; decide)
      exact hbs (by rw [← Char.ofNat_toNat c, hcode, hb]; decide)
    have hdec := decodeRune_utf8EncodeChar_append c rest
    rw [hbt, List.cons_append] at hdec ⊢
    rw [readUnit_of_ne hb, hdec, Option.map_some, ← List.cons_append, ← hbt,
      List.drop_left' (String.length_utf8EncodeChar c)]
    rfl
  · -- a letter escape stands for its character
    rw [escapeRune, hc, flatMap_escape e he, List.cons_append, List.cons_append,
      readUnit_backslash]
    have hne (d : Char) (hd : d.toNat < 0x80) (h : e ≠ d) : e.toUInt8 ≠ d.toUInt8 :=
      fun heq => h (toUInt8_inj_of_lt he hd heq)
    rw [if_neg (hne 'x' (by decide) hx), if_neg (hne 'u' (by decide) hu),
      if_neg (hne 'U' (by decide) hU), toNat_toUInt8_of_lt he, Char.ofNat_toNat, hle]
    rfl
  · -- a control character is written by the code of its one byte
    rw [escapeRune, hc, readUnit_hex (by decide) c.toNat rest fun bs => readUnit_backslash _ bs]
    have hbyte : UInt8.ofNat (c.toNat % Nat.pow 16 2) = c.toUInt8 := by
      rw [← UInt8.toNat_inj, UInt8.toNat_ofNat', toNat_toUInt8_of_lt hlt]
      have h256 : c.toNat < 256 := Nat.lt_trans hlt (by decide)
      show c.toNat % 256 % 256 = c.toNat
      rw [Nat.mod_eq_of_lt h256, Nat.mod_eq_of_lt h256]
    simp only [hbyte, Rune.bytes, utf8EncodeChar_of_lt hlt]
  · -- any other character is written by its code in four or eight digits
    have hcode : Char.ofNat (c.toNat % Nat.pow 16 w) = c := by
      rw [Nat.mod_eq_of_lt hlt, Char.ofNat_toNat]
    rcases hew with ⟨rfl, rfl⟩ | ⟨rfl, rfl⟩ <;>
    · rw [escapeRune, hc, readUnit_hex (by decide) c.toNat rest fun bs => readUnit_backslash _ bs]
      simp only [hcode]
      rfl

/-- No written rune is empty or starts with a double quote. -/
theorem escapeRune_head (r : Rune) :
    ∃ b t, (escapeRune r).flatMap String.utf8EncodeChar = b :: t ∧ b ≠ '"'.toUInt8 := by
  cases r with
  | invalid b => exact ⟨_, _, flatMap_escape 'x' (by decide) _, by decide⟩
  | char c =>
    rcases escapeChar_kinds c with ⟨hq, -, hc⟩ | ⟨e, hc, he, -⟩ | ⟨-, hc⟩ | ⟨e, w, hc, -, hew⟩
    · -- a character standing for itself starts with a quote's byte only if it is a quote
      rw [escapeRune, hc, List.flatMap_singleton]
      obtain ⟨b, t, hbt⟩ := List.exists_cons_of_ne_nil (utf8EncodeChar_ne_nil c)
      refine ⟨b, t, hbt, fun hb => hq ?_⟩
      obtain ⟨hcode, -⟩ := eq_of_head_utf8EncodeChar hbt (by rw [hb]; decide)
      rw [← Char.ofNat_toNat c, hcode, hb]
      decide
    · rw [escapeRune, hc]
      exact ⟨_, _, flatMap_escape e he [], by decide⟩
    · rw [escapeRune, hc]
      exact ⟨_, _, flatMap_escape 'x' (by decide) _, by decide⟩
    · rcases hew with ⟨rfl, -⟩ | ⟨rfl, -⟩ <;> rw [escapeRune, hc] <;>
        exact ⟨_, _, flatMap_escape _ (by decide) _, by decide⟩

/-- The written runes of a byte string followed by a double quote determine the byte string and
what follows the quote. -/
theorem quoted_append_inj {x y : List Rune} {r s : List UInt8}
    (h : (x.flatMap fun a => (escapeRune a).flatMap String.utf8EncodeChar) ++ '"'.toUInt8 :: r =
      (y.flatMap fun a => (escapeRune a).flatMap String.utf8EncodeChar) ++ '"'.toUInt8 :: s) :
    x.flatMap Rune.bytes = y.flatMap Rune.bytes ∧ r = s := by
  induction x generalizing y with
  | nil =>
    cases y with
    | nil => exact ⟨rfl, (List.cons.inj h).2⟩
    | cons d y =>
      -- the closing quote cannot stand where a written rune starts
      obtain ⟨b, t, hd, hb⟩ := escapeRune_head d
      simp only [List.flatMap_nil, List.nil_append, List.flatMap_cons, hd, List.cons_append,
        List.append_assoc] at h
      exact absurd (List.cons.inj h).1.symm hb
  | cons a x ih =>
    cases y with
    | nil =>
      obtain ⟨b, t, ha, hb⟩ := escapeRune_head a
      simp only [List.flatMap_nil, List.nil_append, List.flatMap_cons, ha, List.cons_append,
        List.append_assoc] at h
      exact absurd (List.cons.inj h).1 hb
    | cons d y =>
      -- both first written runes are read back, and must agree
      have hread := congrArg readUnit h
      simp only [List.flatMap_cons, List.append_assoc, readUnit_escapeRune] at hread
      obtain ⟨had, hrest⟩ := Prod.mk.inj (Option.some.inj hread)
      obtain ⟨hxy, hrs⟩ := ih hrest
      exact ⟨by rw [List.flatMap_cons, List.flatMap_cons, had, hxy], hrs⟩

/-- A quoted byte string is a quote, its written runes and a quote, as bytes. -/
theorem quoteBytes_data (s : Bytes) :
    (quoteBytes s : Bytes).data = '"'.toUInt8 ::
      ((runes s.data).flatMap fun a => (escapeRune a).flatMap String.utf8EncodeChar) ++
        ['"'.toUInt8] := by
  simp [quoteBytes, List.flatMap_assoc, utf8EncodeChar_of_lt (show ('"').toNat < 0x80 by decide)]

end Text

/-! ## Shell words -/

/-- A shell word is the quoted argument, or the argument itself when that is not empty and holds
no special byte. -/
theorem shellWord_cases (x : Bytes) :
    shellWord x = (Text.quoteBytes x : Bytes) ∨
      (shellWord x = x ∧ x.data ≠ [] ∧ ∀ b ∈ x.data, b ∉ shellSpecial) := by
  unfold shellWord
  by_cases he : x.data.isEmpty
  · -- the empty argument is the quoted empty text
    have hx : x.data = [] := List.isEmpty_iff.mp he
    refine .inl ?_
    rw [if_pos he, Text.quoteBytes, hx, runes]
    rfl
  · rw [if_neg he]
    by_cases hs : x.data.any (· ∈ shellSpecial)
    · exact .inl (if_pos hs)
    · rw [if_neg hs]
      refine .inr ⟨rfl, by simpa using he, fun b hb hsp => hs ?_⟩
      exact List.any_eq_true.mpr ⟨b, hb, by simpa using hsp⟩

theorem shellWord_data_ne_nil (x : Bytes) : (shellWord x).data ≠ [] := by
  rcases shellWord_cases x with hx | ⟨hx, hne, -⟩
  · rw [hx, Text.quoteBytes_data]
    exact List.cons_ne_nil _ _
  · rw [hx]
    exact hne

section Words

variable {α : Type}

/-- What follows a word of a line: the end of the line, or a separator. -/
def AfterWord (sp : α) (r : List α) : Prop := r = [] ∨ ∃ t, r = sp :: t

variable {sp : α}

/-- A word free of separators, extended by `a` and followed by the end or a separator, was not
extended. -/
theorem eq_nil_of_afterWord {l a r s : List α} (hl : sp ∉ l ++ a) (hr : AfterWord sp r)
    (h : r = a ++ s) : a = [] := by
  cases a with
  | nil => rfl
  | cons a₀ a =>
    rcases hr with rfl | ⟨t, rfl⟩
    · simp at h
    · have ha₀ : a₀ = sp := (List.cons.inj h).1.symm
      exact absurd (by simp [ha₀]) hl

/-- Two words free of separators, each followed by the end or by a separator, are equal, and so
is what follows them. -/
theorem append_eq_append_of_afterWord {l₁ l₂ r s : List α} (h₁ : sp ∉ l₁) (h₂ : sp ∉ l₂)
    (hr : AfterWord sp r) (hs : AfterWord sp s) (h : l₁ ++ r = l₂ ++ s) : l₁ = l₂ ∧ r = s := by
  rcases List.append_eq_append_iff.mp h with ⟨a, hl₂, hra⟩ | ⟨b, hl₁, hsb⟩
  · have ha : a = [] := eq_nil_of_afterWord (hl₂ ▸ h₂) hr hra
    subst ha
    simp_all
  · have hb : b = [] := eq_nil_of_afterWord (hl₁ ▸ h₁) hs hsb
    subst hb
    simp_all

end Words

/-- A plain word does not start with a double quote. -/
theorem head?_plain {x : Bytes} (hne : x.data ≠ []) (hs : ∀ b ∈ x.data, b ∉ shellSpecial)
    (r : List UInt8) : (x.data ++ r).head? ≠ some '"'.toUInt8 := by
  obtain ⟨b, t, hbt⟩ := List.exists_cons_of_ne_nil hne
  have hb : b ≠ '"'.toUInt8 := fun hq => hs b (by simp [hbt]) (by rw [hq]; decide)
  simpa [hbt] using hb

/-- A shell word followed by the end of the line or by a space determines its argument and what
follows it. -/
theorem shellWord_append_inj {x y : Bytes} {r s : List UInt8} (hr : AfterWord ' '.toUInt8 r)
    (hs : AfterWord ' '.toUInt8 s) (h : (shellWord x).data ++ r = (shellWord y).data ++ s) :
    x = y ∧ r = s := by
  rcases shellWord_cases x with hx | ⟨hx, hxne, hxs⟩ <;>
    rcases shellWord_cases y with hy | ⟨hy, hyne, hys⟩
  · -- two quoted words: each ends at its closing quote, and its runes give back its bytes
    rw [hx, hy, Text.quoteBytes_data, Text.quoteBytes_data] at h
    simp only [List.cons_append, List.cons.injEq, true_and, List.append_assoc] at h
    obtain ⟨hxy, hrs⟩ := Text.quoted_append_inj h
    rw [flatMap_bytes_runes, flatMap_bytes_runes] at hxy
    exact ⟨congrArg Bytes.mk hxy, hrs⟩
  · -- only the quoted word starts with a quote
    rw [hx, hy, Text.quoteBytes_data] at h
    exact absurd (congrArg List.head? h).symm (head?_plain hyne hys s)
  · rw [hx, hy, Text.quoteBytes_data] at h
    exact absurd (congrArg List.head? h) (head?_plain hxne hxs r)
  · -- two plain words: each runs to the first space
    rw [hx, hy] at h
    have hspace : ' '.toUInt8 ∈ shellSpecial := by decide
    obtain ⟨hxy, hrs⟩ := append_eq_append_of_afterWord (fun hm => hxs _ hm hspace)
      (fun hm => hys _ hm hspace) hr hs h
    exact ⟨congrArg Bytes.mk hxy, hrs⟩

/-! ## Lines of words -/

section Lines

variable {α β : Type} {sp : α} {f : β → List α}

/-- The words of a list, each after a separator. -/
theorem afterWord_flatMap (xs : List β) : AfterWord sp (xs.flatMap fun x => sp :: f x) := by
  cases xs with
  | nil => exact .inl rfl
  | cons x xs => exact .inr ⟨_, rfl⟩

/-- Words that can be cut off before the end of a line or a separator are read back from a list
of them, each after a separator. -/
theorem flatMap_sep_inj
    (hcut : ∀ {x y : β} {r s : List α}, AfterWord sp r → AfterWord sp s → f x ++ r = f y ++ s →
      x = y ∧ r = s) :
    ∀ {a b : List β}, (a.flatMap fun x => sp :: f x) = (b.flatMap fun x => sp :: f x) → a = b
  | [], [], _ => rfl
  | [], _ :: _, h => by simp at h
  | _ :: _, [], h => by simp at h
  | x :: xs, y :: ys, h => by
    simp only [List.flatMap_cons, List.cons_append, List.cons.injEq, true_and] at h
    obtain ⟨rfl, hrest⟩ := hcut (afterWord_flatMap xs) (afterWord_flatMap ys) h
    rw [flatMap_sep_inj hcut hrest]

/-- A line of words, after a separator, is the words each after a separator. -/
theorem sep_cons_intercalate (x : β) (xs : List β) :
    sp :: [sp].intercalate ((x :: xs).map f) = (x :: xs).flatMap fun x => sp :: f x := by
  induction xs generalizing x with
  | nil => simp
  | cons y ys ih =>
    rw [List.map_cons, List.intercalate_cons_of_ne_nil (by simp), List.flatMap_cons, ← ih]
    simp

/-- A line of at least one nonempty word is not empty. -/
theorem intercalate_cons_ne_nil (hne : ∀ x, f x ≠ []) (y : β) (ys : List β) :
    [sp].intercalate ((y :: ys).map f) ≠ [] := by
  intro h
  have hline : sp :: [sp].intercalate ((y :: ys).map f) = (y :: ys).flatMap fun x => sp :: f x :=
    sep_cons_intercalate y ys
  rw [h, List.flatMap_cons, List.cons_append] at hline
  exact hne y (List.append_eq_nil_iff.mp (List.cons.inj hline).2.symm).1

/-- Nonempty words that can be cut off before the end of a line or a separator are read back
from their line. -/
theorem intercalate_sep_inj (hne : ∀ x, f x ≠ [])
    (hcut : ∀ {x y : β} {r s : List α}, AfterWord sp r → AfterWord sp s → f x ++ r = f y ++ s →
      x = y ∧ r = s) :
    ∀ {a b : List β}, [sp].intercalate (a.map f) = [sp].intercalate (b.map f) → a = b
  | [], [], _ => rfl
  | [], y :: ys, h => absurd h.symm (intercalate_cons_ne_nil hne y ys)
  | x :: xs, [], h => absurd h (intercalate_cons_ne_nil hne x xs)
  | x :: xs, y :: ys, h => by
    -- with a separator in front, both lines are their words each after a separator
    have hline := congrArg (List.cons sp) h
    rw [sep_cons_intercalate, sep_cons_intercalate] at hline
    exact flatMap_sep_inj hcut hline

end Lines

/-! ## Lines of texts -/

/-- Two jobs have the same command line exactly when they run the same command: the line
determines every argument, whatever bytes it holds, the empty ones and those holding quotes,
backslashes, blanks, control characters or bytes that start no character included. -/
theorem Job.commandLine_eq_iff {j₁ j₂ : Job} :
    j₁.commandLine = j₂.commandLine ↔ j₁.command = j₂.command := by
  constructor
  · intro h
    have hline := congrArg Bytes.data h
    exact intercalate_sep_inj (f := fun a => (shellWord a).data) shellWord_data_ne_nil
      shellWord_append_inj hline
  · intro h
    simp [Job.commandLine, h]

end PredictorSweep
