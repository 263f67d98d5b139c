import PredictorSweep.Yaml.Lexer
/-!
# Scalars, anchors and tags in the lexer

Plain and quoted scalars may run over several lines. Their lines fold: a single line break
between two words becomes a space, each further break stays a line feed, and the blanks that
indent a continued line are dropped. A double-quoted scalar has escapes, among them a backslash
before a line break, which joins the lines without a space. A plain scalar ends at `: `, at ` #`,
at a line indented no deeper than its block, and inside a flow collection at `,`, `?` and the
brackets.

A block scalar, after `|` or `>`, takes its indentation from its first non-empty line unless an
indicator gives it. A literal block keeps its line breaks; a folded block folds those between
two lines that do not start with a blank. The chomping indicator decides the final breaks:
`-` drops them, none keeps one, `+` keeps all.

Main definitions:

- `Folding`, `Folding.join`;
- `Lexer.plainScalar`, `Lexer.quotedScalar`, `Lexer.blockScalar`;
- `Lexer.anchorOrAlias`, `Lexer.tagToken`, `Lexer.directive`.
-/

namespace PredictorSweep.Yaml

/-- Text being gathered for a scalar whose lines fold: the text so far, blanks that wait for the
next word, the first break after the last word and the breaks after it. -/
structure Folding where
  /-- The text so far. -/
  text : String := ""
  /-- Blanks after the last word, on its line. -/
  blanks : String := ""
  /-- The first break after the last word. -/
  leading : String := ""
  /-- The further breaks after the last word. -/
  trailing : String := ""
  /-- Whether a break came after the last word. -/
  broken : Bool := false
  deriving Inhabited

namespace Folding

/-- Adds what stands between the last word and the next one: the blanks, if no break came;
otherwise a space for a single line feed, or the further breaks, or all breaks when the first one
is a line or paragraph separator. -/
def join (f : Folding) : Folding :=
  if f.broken then
    let joined :=
      if f.leading.toList.head? == some '\n' then
        if f.trailing.isEmpty then " " else f.trailing
      else f.leading ++ f.trailing
    { f with text := f.text ++ joined, leading := "", trailing := "", broken := false }
  else { f with text := f.text ++ f.blanks, blanks := "" }

/-- Adds a character of a word. -/
def add (f : Folding) (c : Char) : Folding := { f with text := f.text.push c }

end Folding

/-- Characters that end a plain scalar inside a flow collection. -/
def flowIndicators : List Char := [',', '?', '[', ']', '{', '}']

/-- The value of a hexadecimal digit. -/
def hexValue (c : Char) : Option Nat :=
  if '0' ≤ c && c ≤ '9' then some (c.toNat - '0'.toNat)
  else if 'a' ≤ c && c ≤ 'f' then some (c.toNat - 'a'.toNat + 10)
  else if 'A' ≤ c && c ≤ 'F' then some (c.toNat - 'A'.toNat + 10)
  else none

/-- The character a one-letter escape of a double-quoted scalar stands for. -/
def escapeValue : Char → Option Char
  | '0' => some '\x00'
  | 'a' => some '\x07'
  | 'b' => some '\x08'
  | 't' => some '\t'
  | '\t' => some '\t'
  | 'n' => some '\n'
  | 'v' => some '\x0b'
  | 'f' => some '\x0c'
  | 'r' => some '\r'
  | 'e' => some '\x1b'
  | ' ' => some ' '
  | '"' => some '"'
  | '/' => some '/'
  | '\'' => some '\''
  | '\\' => some '\\'
  | 'N' => some '\x85'
  | '_' => some '\xa0'
  | 'L' => some '\u2028'
  | 'P' => some '\u2029'
  | _ => none

/-- How many hexadecimal digits a numeric escape takes. -/
def escapeWidth : Char → Nat
  | 'x' => 2
  | 'u' => 4
  | 'U' => 8
  | _ => 0

namespace Lexer

/-- Moves past characters while they satisfy `p`, gathering them. -/
def takeWhile (p : Char → Bool) : Nat → Lexer → String → Lexer × String
  | 0, l, acc => (l, acc)
  | n + 1, l, acc =>
    match l.peek 0 with
    | some c => if p c then takeWhile p n l.skip (acc.push c) else (l, acc)
    | none => (l, acc)

/-- Moves past characters while they satisfy `p`. -/
def skipWhile (p : Char → Bool) (l : Lexer) : Lexer :=
  (takeWhile p (l.rest.length + 1) l "").1

/-- Reads the blanks and breaks after a word. Blanks on the word's line wait for the next word;
blanks after a break are indentation and dropped. When `limit` is given, a tab among the
indentation of a continued line before that column is refused. -/
def gatherBlanks (start : Mark) (limit : Option Int) :
    Nat → Lexer → Folding → Except Problem (Lexer × Folding)
  | 0, l, f => .ok (l, f)
  | n + 1, l, f =>
    match l.peek 0 with
    | none => .ok (l, f)
    | some c =>
      if isBlank c then
        if f.broken then
          match limit with
          | some column =>
            if c == '\t' && (l.mark.column : Int) < column then
              .error (l.problemHere "while scanning a plain scalar" start
                "found a tab character that violates indentation")
            else gatherBlanks start limit n l.skip f
          | none => gatherBlanks start limit n l.skip f
        else gatherBlanks start limit n l.skip { f with blanks := f.blanks.push c }
      else if isBreak c then
        let (l', b) := l.readBreak
        if f.broken then gatherBlanks start limit n l' { f with trailing := f.trailing ++ b }
        else gatherBlanks start limit n l' { f with blanks := "", leading := b, broken := true }
      else .ok (l, f)

/-- Reads the characters of one word of a plain scalar, returning where the word stops. -/
def plainWord (flow : Bool) : Nat → Lexer → Folding → Mark → Lexer × Folding × Mark
  | 0, l, f, stop => (l, f, stop)
  | n + 1, l, f, stop =>
    match l.peek 0 with
    | none => (l, f, stop)
    | some c =>
      if isBlank c || isBreak c then (l, f, stop)
      else if (c == ':' && l.blankOrEndAt 1) || (flow && flowIndicators.contains c) then
        (l, f, stop)
      else
        let l' := l.skip
        plainWord flow n l' (f.join.add c) l'.mark

/-- Reads the words and gaps of a plain scalar. -/
def plainRun (start : Mark) (limit : Int) (flow : Bool) :
    Nat → Lexer → Folding → Mark → Except Problem (Lexer × Folding × Mark)
  | 0, l, f, stop => .ok (l, f, stop)
  | n + 1, l, f, stop =>
    if l.atDocumentMarker || l.isAt 0 '#' then .ok (l, f, stop)
    else
      let (l, f, stop) := plainWord flow (l.rest.length + 1) l f stop
      if !(l.atBlank || l.atBreak) then .ok (l, f, stop)
      else do
        let (l, f) ← gatherBlanks start (some limit) (l.rest.length + 1) l f
        if !flow && (l.mark.column : Int) < limit then .ok (l, f, stop)
        else plainRun start limit flow n l f stop

/-- Reads a plain scalar. A break inside it allows a key to begin after it. -/
def plainScalar (l : Lexer) : Except Problem Lexer := do
  let start := l.mark
  let (l, f, stop) ←
    plainRun start (l.indent + 1) (l.flowLevel > 0) (l.rest.length + 1) l {} start
  let l := l.push (.scalar f.text .plain) start stop
  .ok (if f.broken then { l with keyAllowed := true } else l)

/-- Reads the hexadecimal digits of a numeric escape. -/
def hexDigits (l : Lexer) (start : Mark) (width : Nat) : Except Problem Nat :=
  (List.range width).foldlM (fun acc i =>
    match (l.peek i).bind hexValue with
    | some d => .ok (acc * 16 + d)
    | none => .error (l.problemHere "while parsing a quoted scalar" start
        "did not find expected hexdecimal number")) 0

/-- Reads the characters of one word of a quoted scalar, up to a blank, a break, the closing
quote or an escaped line break. -/
def quotedWord (single : Bool) (start : Mark) :
    Nat → Lexer → Folding → Except Problem (Lexer × Folding)
  | 0, l, f => .ok (l, f)
  | n + 1, l, f =>
    match l.peek 0 with
    | none => .ok (l, f)
    | some c =>
      if isBlank c || isBreak c then .ok (l, f)
      else if single && c == '\'' then
        if l.isAt 1 '\'' then quotedWord single start n (l.skipN 2) (f.add '\'')
        else .ok (l, f)
      else if !single && c == '"' then .ok (l, f)
      else if !single && c == '\\' then
        match l.peek 1 with
        | some e =>
          if isBreak e then .ok ((l.skip).skipBreak, { f with broken := true })
          else match escapeValue e with
            | some v => quotedWord single start n (l.skipN 2) (f.add v)
            | none =>
              let width := escapeWidth e
              if width == 0 then
                .error (l.problemHere "while parsing a quoted scalar" start
                  "found unknown escape character")
              else do
                let l := l.skipN 2
                let code ← l.hexDigits start width
                if (0xD800 ≤ code && code ≤ 0xDFFF) || code > 0x10FFFF then
                  .error (l.problemHere "while parsing a quoted scalar" start
                    "found invalid Unicode character escape code")
                else quotedWord single start n (l.skipN width) (f.add (Char.ofNat code))
        | none =>
          .error (l.problemHere "while parsing a quoted scalar" start
            "found unknown escape character")
      else quotedWord single start n l.skip (f.add c)

/-- Reads the words and gaps of a quoted scalar up to its closing quote. -/
def quotedRun (single : Bool) (start : Mark) :
    Nat → Lexer → Folding → Except Problem (Lexer × Folding)
  | 0, l, f => .ok (l, f)
  | n + 1, l, f =>
    if l.atDocumentMarker then
      .error (l.problemHere "while scanning a quoted scalar" start
        "found unexpected document indicator")
    else if l.atEnd then
      .error (l.problemHere "while scanning a quoted scalar" start
        "found unexpected end of stream")
    else do
      let (l, f) ← quotedWord single start (l.rest.length + 1) l { f with broken := false }
      if l.isAt 0 (if single then '\'' else '"') then .ok (l, f)
      else
        let (l, f) ← gatherBlanks start none (l.rest.length + 1) l f
        quotedRun single start n l f.join

/-- Reads a single- or double-quoted scalar. -/
def quotedScalar (single : Bool) (l : Lexer) : Except Problem Lexer := do
  let start := l.mark
  let (l, f) ← quotedRun single start (l.rest.length + 1) l.skip {}
  let l := l.skip
  .ok (l.push (.scalar f.text (if single then .singleQuoted else .doubleQuoted)) start l.mark)

/-- Moves past spaces before column `indent`, or all spaces when no indentation is known. -/
def skipIndentation (indent : Nat) : Nat → Lexer → Lexer
  | 0, l => l
  | n + 1, l =>
    if l.isAt 0 ' ' && (indent == 0 || l.mark.column < indent) then
      skipIndentation indent n l.skip
    else l

/-- Reads the indentation and empty lines before a line of a block scalar, gathering the breaks
and moving the stop mark past each. With no indentation known yet, the deepest of these lines,
at least one column past the enclosing block and at least one, sets it. -/
def blockBreaks (start : Mark) :
    Nat → Lexer → Nat → String → Mark → Nat → Except Problem (Lexer × Nat × String × Mark)
  | 0, l, indent, breaks, stop, _ => .ok (l, indent, breaks, stop)
  | n + 1, l, indent, breaks, stop, deepest =>
    let l := skipIndentation indent (l.rest.length + 1) l
    let deepest := max deepest l.mark.column
    if (indent == 0 || l.mark.column < indent) && l.isAt 0 '\t' then
      .error (l.problemHere "while scanning a block scalar" start
        "found a tab character where an indentation space is expected")
    else if l.atBreak then
      let (l, b) := l.readBreak
      blockBreaks start n l indent (breaks ++ b) l.mark deepest
    else if indent == 0 then
      .ok (l, max 1 (max deepest (l.indent + 1).toNat), breaks, stop)
    else .ok (l, indent, breaks, stop)

/-- The lines of a block scalar so far: the text, the break ending the last line, the empty
lines after it, and whether the last line began with a blank. -/
structure BlockLines where
  /-- The text so far. -/
  text : String := ""
  /-- The break ending the last line. -/
  leading : String := ""
  /-- The breaks of the empty lines after it. -/
  trailing : String := ""
  /-- Whether the last line began with a blank. -/
  blankStart : Bool := false

/-- Reads the lines of a block scalar at its indentation. In a folded block, a single break
between two lines that start with no blank becomes a space. -/
def blockLines (literal : Bool) (start : Mark) (indent : Nat) :
    Nat → Lexer → BlockLines → Mark → Except Problem (Lexer × BlockLines × Mark)
  | 0, l, b, stop => .ok (l, b, stop)
  | n + 1, l, b, stop =>
    if l.mark.column != indent || l.atEnd then .ok (l, b, stop)
    else do
      let startsBlank := l.atBlank
      let joined :=
        if !literal && !b.blankStart && !startsBlank && b.leading.toList.head? == some '\n' then
          if b.trailing.isEmpty then b.text ++ " " else b.text
        else b.text ++ b.leading
      let (l, line) := takeWhile (fun c => !isBreak c) (l.rest.length + 1) l ""
      let (l, brk) := l.readBreak
      let (l, _, trailing, stop) ← blockBreaks start (l.rest.length + 1) l indent "" stop 0
      blockLines literal start indent n l
        { text := joined ++ b.trailing ++ line, leading := brk, trailing,
          blankStart := startsBlank } stop

/-- Reads the chomping indicator, `+` or `-`, and the indentation indicator, a digit from 1,
in either order. -/
def blockIndicators (start : Mark) (l : Lexer) : Except Problem (Lexer × Int × Nat) :=
  let chomp (l : Lexer) : Lexer × Int :=
    if l.isAt 0 '+' then (l.skip, 1) else if l.isAt 0 '-' then (l.skip, -1) else (l, 0)
  let digit (l : Lexer) : Except Problem (Lexer × Nat) :=
    match l.peek 0 with
    | some c =>
      if c == '0' then
        .error (l.problemHere "while scanning a block scalar" start
          "found an indentation indicator equal to 0")
      else if c.isDigit then .ok (l.skip, c.toNat - '0'.toNat)
      else .ok (l, 0)
    | none => .ok (l, 0)
  if l.isAt 0 '+' || l.isAt 0 '-' then do
    let (l, chomping) := chomp l
    let (l, increment) ← digit l
    .ok (l, chomping, increment)
  else do
    let (l, increment) ← digit l
    let (l, chomping) := if increment > 0 then chomp l else (l, 0)
    .ok (l, chomping, increment)

/-- Reads a literal or folded block scalar. -/
def blockScalar (literal : Bool) (l : Lexer) : Except Problem Lexer := do
  let start := l.mark
  let (l, chomping, increment) ← blockIndicators start l.skip
  let l := l.skipWhile isBlank
  let l := if l.isAt 0 '#' then l.skipWhile (fun c => !isBreak c) else l
  if !l.breakOrEndAt 0 then
    .error (l.problemHere "while scanning a block scalar" start
      "did not find expected comment or line break")
  else
    let l := if l.atBreak then l.skipBreak else l
    let given : Nat :=
      if increment > 0 then (if l.indent ≥ 0 then (l.indent + increment).toNat else increment)
      else 0
    let (l, indent, breaks, stop) ← blockBreaks start (l.rest.length + 1) l given "" l.mark 0
    let (l, b, stop) ←
      blockLines literal start indent (l.rest.length + 1) l { trailing := breaks } stop
    let text := if chomping != -1 then b.text ++ b.leading else b.text
    let text := if chomping == 1 then text ++ b.trailing else text
    .ok (l.push (.scalar text (if literal then .literal else .folded)) start stop)

/-- Reads an anchor `&name` or an alias `*name`. The name is of letters, digits, `_` and `-`,
and is followed by a blank, a break, the end, or one of `?:,]}%@` and the backquote. -/
def anchorOrAlias (isAlias : Bool) (l : Lexer) : Except Problem Lexer :=
  let start := l.mark
  let (l, name) := takeWhile isWordChar (l.rest.length + 1) l.skip ""
  let ends := l.blankOrEndAt 0 || ((l.peek 0).any fun c => "?:,]\x7d%@`".toList.contains c)
  if name.isEmpty || !ends then
    .error (l.problemHere (if isAlias then "while scanning an alias" else "while scanning an anchor")
      start "did not find expected alphabetic or numeric character")
  else .ok (l.push (if isAlias then .aliasMark name else .anchor name) start l.mark)

/-- Characters of a tag's text. Inside `!<...>` the flow indicators `,`, `[` and `]` are
allowed too. -/
def isTagChar (verbatim : Bool) (c : Char) : Bool :=
  isWordChar c || ";/?:@&=+$.!~*'()".toList.contains c ||
    (verbatim && (c == ',' || c == '[' || c == ']'))

/-- Reads a tag handle: `!`, then letters and digits, then `!` if one follows. -/
def tagHandle (context : String) (start : Mark) (directive : Bool) (l : Lexer) :
    Except Problem (Lexer × String) :=
  if !l.isAt 0 '!' then .error (l.problemHere context start "did not find expected '!'")
  else
    let (l, word) := takeWhile isWordChar (l.rest.length + 1) l.skip "!"
    if l.isAt 0 '!' then .ok (l.skip, word.push '!')
    else if directive && word != "!" then
      .error (l.problemHere context start "did not find expected '!'")
    else .ok (l, word)

/-- Reads the text of a tag after `head`, whose leading `!` is dropped. -/
def tagText (context : String) (start : Mark) (verbatim : Bool) (head : String) (l : Lexer) :
    Except Problem (Lexer × String) :=
  let (l, text) := takeWhile (isTagChar verbatim) (l.rest.length + 1) l ""
  if head.isEmpty && text.isEmpty then
    .error (l.problemHere context start "did not find expected tag URI")
  else .ok (l, String.ofList (head.toList.drop 1) ++ text)

/-- Reads a tag: `!<text>`, `!handle!suffix`, `!suffix`, or `!` alone. -/
def tagToken (l : Lexer) : Except Problem Lexer := do
  let start := l.mark
  let context := "while parsing a tag"
  let (l, handle, suffix) ←
    if l.isAt 1 '<' then do
      let (l, text) ← tagText context start true "" (l.skipN 2)
      if !l.isAt 0 '>' then
        .error (l.problemHere "while scanning a tag" start "did not find the expected '>'")
      else .ok (l.skip, "", text)
    else do
      let (l, handle) ← tagHandle context start false l
      if handle.length > 1 && handle.endsWith "!" then
        let (l, text) ← tagText context start false "" l
        .ok (l, handle, text)
      else
        let (l, text) ← tagText context start false handle l
        if text.isEmpty then .ok (l, "", "!") else .ok (l, "!", text)
  if !l.blankOrEndAt 0 && !(l.flowLevel > 0 && l.isAt 0 ',') then
    .error (l.problemHere "while scanning a tag" start
      "did not find expected whitespace or line break")
  else .ok (l.push (.tag handle suffix) start l.mark)

/-- Reads the digits of a version number. -/
def versionNumber (start : Mark) (l : Lexer) : Except Problem (Lexer × Nat) :=
  let (l', digits) := takeWhile Char.isDigit (l.rest.length + 1) l ""
  if digits.length > 9 then
    .error (l.problemHere "while scanning a %YAML directive" start
      "found extremely long version number")
  else if digits.isEmpty then
    .error (l.problemHere "while scanning a %YAML directive" start
      "did not find expected version number")
  else .ok (l', digits.toNat!)

/-- Reads a directive: `%YAML major.minor` or `%TAG handle prefix`, then an optional comment
and the end of the line. -/
def directive (l : Lexer) : Except Problem Lexer := do
  let start := l.mark
  let (l, name) := takeWhile isWordChar (l.rest.length + 1) l.skip ""
  if name.isEmpty then
    .error (l.problemHere "while scanning a directive" start
      "could not find expected directive name")
  else if !l.blankOrEndAt 0 then
    .error (l.problemHere "while scanning a directive" start
      "found unexpected non-alphabetical character")
  else
    let (l, kind) ←
      if name == "YAML" then do
        let (l, major) ← versionNumber start (l.skipWhile isBlank)
        if !l.isAt 0 '.' then
          .error (l.problemHere "while scanning a %YAML directive" start
            "did not find expected digit or '.' character")
        else
          let (l, minor) ← versionNumber start l.skip
          .ok (l, TokenKind.versionDirective major minor)
      else if name == "TAG" then do
        let (l, handle) ←
          tagHandle "while parsing a %TAG directive" start true (l.skipWhile isBlank)
        if !l.atBlank then
          .error (l.problemHere "while scanning a %TAG directive" start
            "did not find expected whitespace")
        else
          let (l, pfx) ←
            tagText "while parsing a %TAG directive" start true "" (l.skipWhile isBlank)
          if !l.blankOrEndAt 0 then
            .error (l.problemHere "while scanning a %TAG directive" start
              "did not find expected whitespace or line break")
          else .ok (l, TokenKind.tagDirective handle pfx)
      else
        .error (l.problemHere "while scanning a directive" start "found unknown directive name")
    let stop := l.mark
    let l := l.skipWhile isBlank
    let l := if l.isAt 0 '#' then l.skipWhile (fun c => !isBreak c) else l
    if !l.breakOrEndAt 0 then
      .error (l.problemHere "while scanning a directive" start
        "did not find expected comment or line break")
    else .ok ((if l.atBreak then l.skipBreak else l).push kind start stop)

end Lexer

end PredictorSweep.Yaml
