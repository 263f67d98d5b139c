import PredictorSweep.Yaml.Token
import PredictorSweep.Yaml.Resolve
import PredictorSweep.Number.Format
/-!
# Writing YAML

`Value.render` writes a value as a block-style YAML document. A mapping writes `key: value`
lines; a sequence writes `- item` lines; a nested collection starts on the next line, one
indentation step deeper, except that inside a sequence item it starts right after the `- `,
two columns in. Steps round up to a multiple of the indentation width. Empty collections are
written `[]` and `{}`.

A scalar is written plain when it can be read back as the same text: text is quoted when it
would read as something else (a number, a boolean, null, a date, a sexagesimal number, or one of
the words `yes`, `no`, `on`, `off` and their kin), and the writer quotes on its own text that
starts or ends with a blank, holds indicators where they would be read as such, or holds
characters it cannot print. Single quotes are used when they suffice; double quotes escape what
must be. Text with a line break is written as a literal block.

Main definitions:

- `Value`, `Value.ofString`, `Value.ofInt`, `Value.ofFloat`, `Value.ofBool`;
- `Analysis`, `analyze`;
- `Value.render`.
-/

namespace PredictorSweep.Yaml

/-- A value to write: a scalar with the style asked for, a sequence, or a mapping with text
keys in order. -/
inductive Value where
  | scalar (text : String) (style : ScalarStyle)
  | sequence (items : List Value)
  | mapping (entries : List (String × Value))
  deriving Inhabited, Repr

/-- Whether a text is a sexagesimal number: an optional sign, a digit, digits and underscores,
then one or more groups of a colon and one or two digits below 60, then an optional point and
digits and underscores. -/
def isSexagesimal (s : String) : Bool :=
  let cs := s.toList
  let cs := match cs with
    | '+' :: r => r
    | '-' :: r => r
    | r => r
  match cs with
  | d :: rest =>
    if !d.isDigit then false
    else
      let rest := rest.dropWhile (fun c => c.isDigit || c == '_')
      let rec groups : Nat → List Char → Bool → Bool
        | 0, _, _ => false
        | n + 1, ':' :: r, _ =>
          match r with
          | a :: b :: r' =>
            if a.isDigit && b.isDigit && a.toNat - 48 ≤ 5 then groups n r' true
            else if a.isDigit then groups n (b :: r') true
            else false
          | [a] => a.isDigit
          | [] => false
        | _, r, seen =>
          seen && match r with
            | [] => true
            | '.' :: r' => r'.all (fun c => c.isDigit || c == '_')
            | _ => false
      groups (rest.length + 1) rest false
  | [] => false

/-- The words an older reading of YAML takes as booleans. -/
def oldBooleans : List String :=
  ["y", "Y", "yes", "Yes", "YES", "on", "On", "ON", "n", "N", "no", "No", "NO", "off", "Off", "OFF"]

namespace Value

/-- Text, written as a literal block when it holds a line feed, plain when it reads back as
itself, and in double quotes otherwise. -/
def ofString (s : String) : Value :=
  let plainOk :=
    (match resolve "" s with | .ok (t, _) => t == "!!str" | .error _ => false) &&
      !(s.toList.head?.any (fun c => c == '+' || c == '-' || c.isDigit) &&
        s.toList.contains ':' && isSexagesimal s) &&
      !oldBooleans.contains s
  if s.toList.contains '\n' then .scalar s .literal
  else if plainOk then .scalar s .plain
  else .scalar s .doubleQuoted

/-- An integer, in decimal. -/
def ofInt (i : Int) : Value := .scalar (toString i) .plain

/-- A float: its shortest text, `.inf`, `-.inf` or `.nan`. -/
def ofFloat (x : Float) : Value :=
  let t := Number.general x
  let t := if t == "+Inf" then ".inf" else if t == "-Inf" then "-.inf"
    else if t == "NaN" then ".nan" else t
  .scalar t .plain

/-- A boolean. -/
def ofBool (b : Bool) : Value := .scalar (if b then "true" else "false") .plain

/-- Null. -/
def null : Value := .scalar "null" .plain

end Value

/-- Whether the writer can print a character as it is: line feed, printable ASCII, and the code
points from 0xA0 to 0xFFFD but the surrogates and the byte-order mark. -/
def isPrintable (c : Char) : Bool :=
  let n := c.toNat
  n == 0x0A || (0x20 ≤ n && n ≤ 0x7E) || (0xA0 ≤ n && n ≤ 0xD7FF) ||
    (0xE000 ≤ n && n ≤ 0xFFFD && n != 0xFEFF)

/-- What styles a text allows. -/
structure Analysis where
  /-- Whether it holds a line break. -/
  multiline : Bool
  /-- Whether it may be plain inside a flow collection. -/
  flowPlain : Bool
  /-- Whether it may be plain in a block. -/
  blockPlain : Bool
  /-- Whether it may be single-quoted. -/
  singleQuoted : Bool
  /-- Whether it may be a block scalar. -/
  block : Bool

/-- Facts gathered over a text's characters. -/
structure Scan where
  blockIndicators : Bool := false
  flowIndicators : Bool := false
  lineBreaks : Bool := false
  special : Bool := false
  tabs : Bool := false
  leadingSpace : Bool := false
  leadingBreak : Bool := false
  trailingSpace : Bool := false
  trailingBreak : Bool := false
  breakSpace : Bool := false
  spaceBreak : Bool := false
  afterBlank : Bool := true
  afterSpace : Bool := false
  afterBreak : Bool := false

/-- Gathers the facts of a text, character by character. -/
def scanText : Nat → List Char → Scan → Scan
  | _, [], sc => sc
  | i, c :: rest, sc =>
    let beforeBlank := rest.head?.all isBlank
    let last := rest.isEmpty
    let sc :=
      if i == 0 then
        if "#,[]\x7b\x7d&*!|>'\"%@`".toList.contains c then
          { sc with flowIndicators := true, blockIndicators := true }
        else if c == '?' || c == ':' then
          { sc with flowIndicators := true, blockIndicators := sc.blockIndicators || beforeBlank }
        else if c == '-' && beforeBlank then
          { sc with flowIndicators := true, blockIndicators := true }
        else sc
      else
        if ",?[]\x7b\x7d".toList.contains c then { sc with flowIndicators := true }
        else if c == ':' then
          { sc with flowIndicators := true, blockIndicators := sc.blockIndicators || beforeBlank }
        else if c == '#' && sc.afterBlank then
          { sc with flowIndicators := true, blockIndicators := true }
        else sc
    let sc := if c == '\t' then { sc with tabs := true }
      else if !isPrintable c then { sc with special := true } else sc
    let sc :=
      if c == ' ' then
        { sc with leadingSpace := sc.leadingSpace || i == 0,
                  trailingSpace := sc.trailingSpace || last,
                  breakSpace := sc.breakSpace || sc.afterBreak,
                  afterSpace := true, afterBreak := false }
      else if isBreak c then
        { sc with lineBreaks := true, leadingBreak := sc.leadingBreak || i == 0,
                  trailingBreak := sc.trailingBreak || last,
                  spaceBreak := sc.spaceBreak || sc.afterSpace,
                  afterSpace := false, afterBreak := true }
      else { sc with afterSpace := false, afterBreak := false }
    scanText (i + 1) rest { sc with afterBlank := isBlank c || isBreak c }

/-- The styles a text allows. -/
def analyze (s : String) : Analysis :=
  if s.isEmpty then
    { multiline := false, flowPlain := false, blockPlain := true, singleQuoted := true,
      block := false }
  else
    let cs := s.toList
    let marker := cs.take 3 == ['-', '-', '-'] || cs.take 3 == ['.', '.', '.']
    let sc := scanText 0 cs { blockIndicators := marker, flowIndicators := marker }
    let edges := sc.leadingSpace || sc.leadingBreak || sc.trailingSpace || sc.trailingBreak
    let noQuote := sc.breakSpace || sc.spaceBreak || sc.tabs || sc.special
    { multiline := sc.lineBreaks,
      flowPlain := !(edges || noQuote || sc.lineBreaks || sc.flowIndicators),
      blockPlain := !(edges || noQuote || sc.lineBreaks || sc.blockIndicators),
      singleQuoted := !noQuote,
      block := !(sc.trailingSpace || sc.spaceBreak || sc.special) }

/-- The style a scalar is written in, from the style asked for and what its text allows; a
key must fit on one line and cannot be empty unquoted. -/
def chooseStyle (s : String) (asked : ScalarStyle) (key : Bool) : ScalarStyle :=
  let a := analyze s
  let style := if key && a.multiline then .doubleQuoted else asked
  let style :=
    if style == .plain && (!a.blockPlain || (s.isEmpty && key)) then .singleQuoted else style
  let style := if style == .singleQuoted && !a.singleQuoted then .doubleQuoted else style
  if (style == .literal || style == .folded) && (!a.block || key) then .doubleQuoted else style

/-- The writer's state: the text so far, the column, whether the last character written is a
blank, and whether only indentation and indicators stand on the line. -/
structure Pen where
  /-- The text so far. -/
  out : String := ""
  /-- The column of the next character. -/
  column : Nat := 0
  /-- Whether the last character written is a blank. -/
  whitespace : Bool := true
  /-- Whether only indentation and indicators stand on the line so far. -/
  indention : Bool := true

namespace Pen

/-- Writes a character other than a break. -/
def put (p : Pen) (c : Char) : Pen := { p with out := p.out.push c, column := p.column + 1 }

/-- Writes a line break. -/
def newline (p : Pen) : Pen :=
  { p with out := p.out.push '\n', column := 0, indention := true }

/-- Goes to the indentation: to a new line unless the line holds only indentation that does not
pass it, then pads with spaces. -/
def indentTo (p : Pen) (indent : Int) : Pen :=
  let target := indent.toNat
  let p := if !p.indention || p.column > target || (p.column == target && !p.whitespace) then
      p.newline else p
  let p := (List.range (target - p.column)).foldl (fun p _ => p.put ' ') p
  { p with whitespace := true, indention := true }

/-- Writes an indicator, after a space when it needs one. -/
def indicator (p : Pen) (s : String) (needSpace isSpace isIndention : Bool) : Pen :=
  let p := if needSpace && !p.whitespace then p.put ' ' else p
  let p := s.toList.foldl put p
  { p with whitespace := isSpace, indention := p.indention && isIndention }

/-- Writes a character with an escape when double quotes need one. -/
def escaped (p : Pen) (c : Char) : Pen :=
  let n := c.toNat
  if isPrintable c && c != '\n' && n != 0xFEFF && c != '"' && c != '\\' && !isBreak c then
    p.put c
  else
    let p := p.put '\\'
    match n with
    | 0x00 => p.put '0'
    | 0x07 => p.put 'a'
    | 0x08 => p.put 'b'
    | 0x09 => p.put 't'
    | 0x0A => p.put 'n'
    | 0x0B => p.put 'v'
    | 0x0C => p.put 'f'
    | 0x0D => p.put 'r'
    | 0x1B => p.put 'e'
    | 0x22 => p.put '"'
    | 0x5C => p.put '\\'
    | 0x85 => p.put 'N'
    | 0xA0 => p.put '_'
    | 0x2028 => p.put 'L'
    | 0x2029 => p.put 'P'
    | _ =>
      let (mark, width) := if n ≤ 0xFF then ('x', 2) else if n ≤ 0xFFFF then ('u', 4) else ('U', 8)
      let digits := (List.range width).reverse.map fun k =>
        let d := n / Nat.pow 16 k % 16
        if d < 10 then Char.ofNat (48 + d) else Char.ofNat (55 + d)
      digits.foldl put (p.put mark)

/-- Writes the characters of a quoted or plain scalar; after line breaks, the next character
starts at the indentation. -/
def scalarChars (p : Pen) (indent : Int) (quoteDoubled : Bool) (cs : List Char) : Pen :=
  (cs.foldl (fun (acc : Pen × Bool) c =>
    let (p, breaks) := acc
    if isBreak c then
      let p := if !breaks && c == '\n' then p.newline else p
      (p.newline, true)
    else
      let p := if breaks then p.indentTo indent else p
      let p := if quoteDoubled && c == '\'' then p.put '\'' else p
      ({ p.put c with indention := false }, false)) (p, false)).1

/-- Writes a scalar in a chosen style; `indent` is where continued lines start. -/
def scalar (p : Pen) (s : String) (style : ScalarStyle) (indent : Int) (best : Nat) : Pen :=
  match style with
  | .plain =>
    let p := if !s.isEmpty && !p.whitespace then p.put ' ' else p
    let p := p.scalarChars indent false s.toList
    { p with whitespace := if s.isEmpty then p.whitespace else false, indention := false }
  | .singleQuoted =>
    let p := p.indicator "'" true false false
    let p := p.scalarChars indent true s.toList
    let p := p.indicator "'" false false false
    { p with whitespace := false, indention := false }
  | .doubleQuoted =>
    let p := p.indicator "\"" true false false
    let p := s.toList.foldl escaped p
    let p := p.indicator "\"" false false false
    { p with whitespace := false, indention := false }
  | _ =>
    let cs := s.toList
    let p := p.indicator (if style == .literal then "|" else ">") true false false
    let p := if cs.head?.any (fun c => c == ' ' || isBreak c) then
        p.indicator (toString best) false false false else p
    let chomp :=
      match cs.reverse with
      | [] => "-"
      | last :: before =>
        if !isBreak last then "-"
        else match before with
          | [] => "+"
          | b :: _ => if isBreak b then "+" else ""
    let p := if chomp.isEmpty then p else p.indicator chomp false false false
    let p := { p.newline with whitespace := true }
    (cs.foldl (fun (acc : Pen × Bool) c =>
      let (p, breaks) := acc
      if isBreak c then (p.newline, true)
      else
        let p := if breaks then p.indentTo indent else p
        ({ p.put c with indention := false }, false)) (p, true)).1

end Pen

/-- The indentation of a collection or scalar nested at `indent`: two columns in after a
sequence item's `- `, else the next multiple of the step. A top-level collection starts at the
first column. -/
def nestedIndent (best : Nat) (indent : Int) (scalar inItem : Bool) : Int :=
  if indent < 0 then (if scalar then best else 0)
  else if inItem then indent + 2
  else best * ((indent + best) / best)

/-- The style a value asks for, plain for collections. -/
def Value.style : Value → ScalarStyle
  | .scalar _ s => s
  | _ => .plain

mutual

/-- Writes a value nested at `indent`, inside a sequence item or not. -/
def Value.write (best : Nat) (indent : Int) (inItem : Bool) (p : Pen) : Value → Pen
  | .scalar s style =>
    p.scalar s (chooseStyle s style false) (nestedIndent best indent true inItem) best
  | .sequence [] => (p.indicator "[" true true false).indicator "]" false false false
  | .mapping [] => (p.indicator "\x7b" true true false).indicator "\x7d" false false false
  | .sequence (x :: xs) =>
    Value.writeItems best (nestedIndent best indent false inItem) p (x :: xs)
  | .mapping (e :: es) =>
    Value.writeEntries best (nestedIndent best indent false inItem) p (e :: es)

/-- Writes sequence items at an indentation. -/
def Value.writeItems (best : Nat) (indent : Int) (p : Pen) : List Value → Pen
  | [] => p
  | x :: xs =>
    let p := (p.indentTo indent).indicator "-" true false true
    Value.writeItems best indent (Value.write best indent true p x) xs

/-- Writes mapping entries at an indentation. -/
def Value.writeEntries (best : Nat) (indent : Int) (p : Pen) : List (String × Value) → Pen
  | [] => p
  | (k, v) :: es =>
    let p := p.indentTo indent
    let p := p.scalar k (chooseStyle k (Value.ofString k |>.style) true)
      (nestedIndent best indent true false) best
    let p := p.indicator ":" false false false
    Value.writeEntries best indent (Value.write best indent false p v) es

end

/-- A value as a YAML document with the given indentation step, ending with a line break. -/
def Value.render (best : Nat) (v : Value) : String :=
  (((Value.write best (-1) false {} v).indentTo 0)).out

end PredictorSweep.Yaml
