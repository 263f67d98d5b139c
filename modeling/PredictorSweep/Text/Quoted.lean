import PredictorSweep.Text.Printable
import PredictorSweep.Text.Bytes
/-!
# Quoted text

A byte string is quoted by enclosing it in double quotes and writing it rune by rune. A character
is written as follows: the quote and the backslash get a backslash, printable characters stand as
they are, the seven control characters with a letter escape (`\a \b \f \n \r \t \v`) use
it, other characters below the space and the delete character are written `\xHH`, and every other
non-printable character is written `\uHHHH`, or `\UHHHHHHHH` above the basic plane, in lower-case
hexadecimal. A byte that starts no character is written `\xHH`. A text is quoted as the bytes of
its UTF-8 form.

Main definitions:

- `escapeChar`, `escapeRune`: the written form of one character, and of one rune, inside the
  quotes;
- `quoteBytes`, `quote`: the quoted byte string, and the quoted text.
-/

namespace PredictorSweep.Text

/-- The lower-case hexadecimal digits of `n`, exactly `width` of them (high digits first). -/
def hexDigits (n : Nat) : Nat → List Char
  | 0 => []
  | w + 1 => hexDigits (n / 16) w ++ [Nat.digitChar (n % 16)]

/-- The written form of one character between double quotes. -/
def escapeChar (c : Char) : List Char :=
  if c = '"' ∨ c = '\\' then ['\\', c]
  else if Printable.isPrintable c then [c]
  else if c = '\x07' then ['\\', 'a']
  else if c = '\x08' then ['\\', 'b']
  else if c = '\x0c' then ['\\', 'f']
  else if c = '\n' then ['\\', 'n']
  else if c = '\r' then ['\\', 'r']
  else if c = '\t' then ['\\', 't']
  else if c = '\x0b' then ['\\', 'v']
  else if c.toNat < 0x20 ∨ c.toNat = 0x7F then '\\' :: 'x' :: hexDigits c.toNat 2
  else if c.toNat < 0x10000 then '\\' :: 'u' :: hexDigits c.toNat 4
  else '\\' :: 'U' :: hexDigits c.toNat 8

/-- The written form of one rune between double quotes. -/
def escapeRune : Rune → List Char
  | .char c => escapeChar c
  | .invalid b => '\\' :: 'x' :: hexDigits b.toNat 2

/-- A byte string between double quotes, with every rune in its written form. -/
def quoteBytes (s : Bytes) : String :=
  String.ofList ('"' :: ((runes s.data).flatMap escapeRune ++ ['"']))

/-- A text between double quotes: its UTF-8 form, quoted. -/
def quote (s : String) : String := quoteBytes s

end PredictorSweep.Text
