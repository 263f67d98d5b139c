import PredictorSweep.Number.Format
import PredictorSweep.Text.Quoted
/-!
# Data documents

A data document is null, a Boolean, a number, a text, an array or an object whose members keep
the order they are given in. Documents are written compactly or indented, two spaces or another
unit per level, with empty arrays and objects written `[]` and `{}`.

Texts are written between double quotes: the quote and the backslash get a backslash, the line
feed, carriage return and tab their letter escapes, the backspace and form feed their letter
escapes under `TextStyle.shortControls`, other controls `\u00hh`; under `TextStyle.html` also
`<`, `>` and `&` become `\u003c`, `\u003e` and `\u0026`. The line and paragraph separators are
always written `\u2028` and `\u2029`.

Main definitions:

- `Value`, `TextStyle`;
- `escapeText`, `Value.render`, `Value.renderIndented`.
-/

namespace PredictorSweep.Json

/-- A data document. -/
inductive Value where
  /-- The null value. -/
  | null
  /-- A Boolean. -/
  | bool (b : Bool)
  /-- An integer. -/
  | int (n : Int)
  /-- A finite double, written in its shortest digits. -/
  | num (x : Float)
  /-- A text. -/
  | str (s : String)
  /-- An array. -/
  | arr (items : List Value)
  /-- An object, members in order. -/
  | obj (fields : List (String × Value))
  deriving Inhabited

/-- How texts are escaped. -/
structure TextStyle where
  /-- Whether `<`, `>` and `&` are escaped. -/
  html : Bool := true
  /-- Whether the backspace and form feed use letter escapes. -/
  shortControls : Bool := true

/-- The escape `\u` and four lower-case hexadecimal digits. -/
def unicodeEscape (n : Nat) : List Char :=
  '\\' :: 'u' :: Text.hexDigits n 4

/-- The written form of one character of a text. -/
def escapeChar (style : TextStyle) (c : Char) : List Char :=
  if c = '"' then ['\\', '"']
  else if c = '\\' then ['\\', '\\']
  else if c = '\n' then ['\\', 'n']
  else if c = '\r' then ['\\', 'r']
  else if c = '\t' then ['\\', 't']
  else if style.shortControls ∧ c = '\x08' then ['\\', 'b']
  else if style.shortControls ∧ c = '\x0c' then ['\\', 'f']
  else if c.toNat < 0x20 then unicodeEscape c.toNat
  else if style.html ∧ (c = '<' ∨ c = '>' ∨ c = '&') then unicodeEscape c.toNat
  else if c.toNat = 0x2028 ∨ c.toNat = 0x2029 then unicodeEscape c.toNat
  else [c]

/-- A text between double quotes, escaped. -/
def escapeText (style : TextStyle) (s : String) : String :=
  String.ofList ('"' :: (s.toList.flatMap (escapeChar style) ++ ['"']))

namespace Value

mutual
/-- The compact text of a document. -/
def render (style : TextStyle) : Value → String
  | null => "null"
  | bool b => if b then "true" else "false"
  | int n => toString n
  | num x => Number.dataNumber x
  | str s => escapeText style s
  | arr items => "[" ++ renderItems style items ++ "]"
  | obj fields => "\x7b" ++ renderFields style fields ++ "\x7d"

/-- The compact texts of array items, separated by commas. -/
def renderItems (style : TextStyle) : List Value → String
  | [] => ""
  | [v] => render style v
  | v :: rest => render style v ++ "," ++ renderItems style rest

/-- The compact texts of object members, separated by commas. -/
def renderFields (style : TextStyle) : List (String × Value) → String
  | [] => ""
  | [(k, v)] => escapeText style k ++ ":" ++ render style v
  | (k, v) :: rest => escapeText style k ++ ":" ++ render style v ++ "," ++ renderFields style rest
end

mutual
/-- The indented text of a document at nesting `depth`, one `unit` per level. -/
def renderIndented (style : TextStyle) (unit : String) (depth : Nat) : Value → String
  | arr [] => "[]"
  | obj [] => "\x7b\x7d"
  | arr items =>
    "[\n" ++ indentedItems style unit (depth + 1) items ++ "\n" ++
      String.join (List.replicate depth unit) ++ "]"
  | obj fields =>
    "\x7b\n" ++ indentedFields style unit (depth + 1) fields ++ "\n" ++
      String.join (List.replicate depth unit) ++ "\x7d"
  | v => render style v

/-- Indented array items, one per line. -/
def indentedItems (style : TextStyle) (unit : String) (depth : Nat) : List Value → String
  | [] => ""
  | [v] => String.join (List.replicate depth unit) ++ renderIndented style unit depth v
  | v :: rest =>
    String.join (List.replicate depth unit) ++ renderIndented style unit depth v ++ ",\n" ++
      indentedItems style unit depth rest

/-- Indented object members, one per line. -/
def indentedFields (style : TextStyle) (unit : String) (depth : Nat) :
    List (String × Value) → String
  | [] => ""
  | [(k, v)] =>
    String.join (List.replicate depth unit) ++ escapeText style k ++ ": " ++
      renderIndented style unit depth v
  | (k, v) :: rest =>
    String.join (List.replicate depth unit) ++ escapeText style k ++ ": " ++
      renderIndented style unit depth v ++ ",\n" ++ indentedFields style unit depth rest
end

/-- A list of texts as an array. -/
def ofStrings (xs : List String) : Value := arr (xs.map str)

end Value

end PredictorSweep.Json
