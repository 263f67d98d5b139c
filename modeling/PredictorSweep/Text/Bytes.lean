/-!
# Byte strings

A Go string is a sequence of bytes, and nothing makes it UTF-8: a program's arguments may hold any
bytes at all. `Bytes` is such a string; a text stands for the bytes of its UTF-8 form.

Reading bytes as text goes rune by rune, as ranging over a Go string does: where the bytes at the
front are the UTF-8 form of a character, that character, taking those bytes; otherwise one byte
that starts no character. The UTF-8 forms are those the standard gives (no overlong form, no
surrogate, nothing above `U+10FFFF`), at most four bytes long. Writing bytes as a text, as JSON
does, puts the replacement character `U+FFFD` in the place of each byte that starts no character.

Texts are kept as Unicode, but some limits count the bytes of their UTF-8 form. A text cut at a
byte count keeps the characters that fit whole; each byte of a character cut in two reads as a
replacement character, the way a byte string with a broken sequence is shown.

Main definitions:

- `Bytes`, `Bytes.ofString`, and the order of byte strings;
- `decodeRune`, `Rune`, `runes`: bytes read as text;
- `Bytes.toText`: bytes written as a text;
- `Text.bytes`, `Text.bytePrefix`: the bytes of a text, and its first `n` bytes.
-/

namespace PredictorSweep

/-- A string as Go keeps it: bytes, which need not be UTF-8. -/
structure Bytes where
  /-- The bytes. -/
  data : List UInt8
  deriving DecidableEq, Repr, Inhabited

namespace Bytes

/-- The UTF-8 form of a text. -/
def ofString (s : String) : Bytes := ⟨s.toList.flatMap String.utf8EncodeChar⟩

instance : Coe String Bytes := ⟨ofString⟩

/-- Byte strings in the order of their bytes, as Go orders strings. -/
instance : LT Bytes := ⟨fun a b => a.data < b.data⟩

instance (a b : Bytes) : Decidable (a < b) := inferInstanceAs (Decidable (a.data < b.data))

end Bytes

/-- The character whose UTF-8 form starts a byte sequence, if one does. -/
def decodeRune (bs : List UInt8) : Option Char :=
  (bs.take 4).toByteArray.utf8DecodeChar? 0

/-- One step of reading bytes as text. -/
inductive Rune where
  /-- A character, read from its UTF-8 form. -/
  | char (c : Char)
  /-- A byte that starts no UTF-8 form. -/
  | invalid (b : UInt8)
  deriving DecidableEq, Repr

/-- The bytes a rune was read from. -/
def Rune.bytes : Rune → List UInt8
  | .char c => String.utf8EncodeChar c
  | .invalid b => [b]

/-- The runes of a byte sequence, front to back. -/
def runes : List UInt8 → List Rune
  | [] => []
  | b :: bs =>
    match decodeRune (b :: bs) with
    | some c => .char c :: runes ((b :: bs).drop c.utf8Size)
    | none => .invalid b :: runes bs
termination_by l => l.length
decreasing_by
  all_goals simp only [List.length_drop, List.length_cons]
  · have := Char.utf8Size_pos ‹Char›
    omega
  · omega

namespace Bytes

/-- The text of a byte string, as JSON writes it: each byte that starts no character is replaced
by `U+FFFD`. -/
def toText (s : Bytes) : String :=
  String.ofList ((runes s.data).map fun
    | .char c => c
    | .invalid _ => '�')

end Bytes

namespace Text

/-- The bytes of a text's UTF-8 form. -/
def bytes (s : String) : List UInt8 := s.toUTF8.data.toList

/-- The first `n` bytes of a text's UTF-8 form; each byte of a character cut in two reads as a
replacement character. -/
def bytePrefix (s : String) (n : Nat) : String :=
  (s.toList.foldl (fun (acc : String × Nat) c =>
    let (out, left) := acc
    let w := c.utf8Size
    if left = 0 then (out, 0)
    else if w ≤ left then (out.push c, left - w)
    else (String.ofList (out.toList ++ List.replicate left '�'), 0)) ("", n)).1

end Text

end PredictorSweep
