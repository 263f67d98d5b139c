/-!
# YAML tokens

The lexer turns a YAML text into tokens: indicators, scalars with their style, anchors,
aliases, tags and the block structure that indentation implies. Every token carries the marks
where it starts and stops. A text that cannot be cut into tokens, or whose tokens do not form a
document, gives a `Problem`: what went wrong, where, and in which construct.

Main definitions:

- `Mark`, `ScalarStyle`, `TokenKind`, `Token`;
- `Problem`, `Problem.message`;
- the character classes `isBreak`, `isBlank`, `blankOrEnd`, `isWordChar`.
-/

namespace PredictorSweep.Yaml

/-- A position in the text: the characters before it, its line and its column, all from zero. -/
structure Mark where
  /-- Characters before the position. -/
  index : Nat := 0
  /-- Line, from zero. -/
  line : Nat := 0
  /-- Column, from zero. -/
  column : Nat := 0
  deriving Inhabited, BEq, Repr

/-- How a scalar was written. -/
inductive ScalarStyle where
  | plain
  | singleQuoted
  | doubleQuoted
  | literal
  | folded
  deriving Inhabited, BEq, Repr

/-- Whether a scalar was written in quotes or as a block. -/
def ScalarStyle.isQuotedOrBlock : ScalarStyle → Bool
  | .plain => false
  | _ => true

/-- What a token is. -/
inductive TokenKind where
  | streamStart
  | streamEnd
  | versionDirective (major minor : Nat)
  | tagDirective (handle pfx : String)
  | documentStart
  | documentEnd
  | blockSequenceStart
  | blockMappingStart
  | blockEnd
  | flowSequenceStart
  | flowSequenceEnd
  | flowMappingStart
  | flowMappingEnd
  | blockEntry
  | flowEntry
  | key
  | value
  | aliasMark (name : String)
  | anchor (name : String)
  | tag (handle suffix : String)
  | scalar (text : String) (style : ScalarStyle)
  deriving Inhabited, BEq, Repr

/-- A token and the marks where it starts and stops. -/
structure Token where
  /-- What the token is. -/
  kind : TokenKind
  /-- Where it starts. -/
  start : Mark
  /-- Where it stops. -/
  stop : Mark
  deriving Inhabited, Repr

/-- A failure to read a text: the construct being read and where it began, and what was found
and where. A lexical problem counts its lines from one in the message, a structural problem
from zero, as the messages of the format's reference reader do. -/
structure Problem where
  /-- The construct being read, or empty. -/
  context : String := ""
  /-- Where that construct began. -/
  contextMark : Mark := {}
  /-- What was found. -/
  problem : String
  /-- Where it was found. -/
  problemMark : Mark := {}
  /-- Whether the lexer raised it. -/
  lexical : Bool
  deriving Inhabited, Repr

/-- The message of a problem: the line of the construct if it is not the first, else the line
of the problem if that is not the first, then what was found. -/
def Problem.message (p : Problem) : String :=
  let shift := if p.lexical then 1 else 0
  let line :=
    if p.contextMark.line ≠ 0 then p.contextMark.line + shift
    else if p.problemMark.line ≠ 0 then p.problemMark.line + shift
    else 0
  let place := if line = 0 then "" else "line " ++ toString line ++ ": "
  let what := if p.problem.isEmpty then "unknown problem parsing YAML content" else p.problem
  "yaml: " ++ place ++ what

/-- Line breaks: carriage return, line feed, next line, line and paragraph separators. -/
def isBreak (c : Char) : Bool :=
  c == '\r' || c == '\n' || c == '\x85' || c == '\u2028' || c == '\u2029'

/-- Blanks: space and tab. -/
def isBlank (c : Char) : Bool := c == ' ' || c == '\t'

/-- Whether a looked-ahead character is a blank, a break or the end of the text. -/
def blankOrEnd : Option Char → Bool
  | none => true
  | some c => isBlank c || isBreak c

/-- Whether a looked-ahead character is a break or the end of the text. -/
def breakOrEnd : Option Char → Bool
  | none => true
  | some c => isBreak c

/-- Characters of anchor names and tag handles: ASCII letters, digits, underscore and dash. -/
def isWordChar (c : Char) : Bool :=
  (c.isAlphanum && c.toNat < 128) || c == '_' || c == '-'

/-- Characters a text may hold: tab, line feed, carriage return, printable ASCII, next line, and
the code points from 0xA0 on but the surrogates and 0xFFFE and 0xFFFF. -/
def isAllowedChar (c : Char) : Bool :=
  let n := c.toNat
  n == 0x09 || n == 0x0A || n == 0x0D || (0x20 ≤ n && n ≤ 0x7E) || n == 0x85 ||
    (0xA0 ≤ n && n ≤ 0xD7FF) || (0xE000 ≤ n && n ≤ 0xFFFD) || (0x10000 ≤ n && n ≤ 0x10FFFF)

end PredictorSweep.Yaml
