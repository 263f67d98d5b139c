import PredictorSweep.Yaml.Lexer.Scalar
/-!
# The token stream

`tokenize` cuts a text into tokens. Between tokens it passes blanks, comments and line breaks;
a tab is passed only inside a flow collection or where no key may begin, so a tab that indents a
block line is refused. Before each token, the block collections deeper than the token's column
are closed. The first character then decides the token: document markers and directives at the
first column, brackets and `,`, the indicators `-`, `?` and `:` before a blank, `*`, `&`, `!`,
block scalar indicators, quotes, and otherwise a plain scalar, or a refusal.

When the text cannot be cut, the tokens before the failure are kept with the problem, since a
reader that stops early, after the first document, never meets it.

Main definitions:

- `Lexer.nextToken`;
- `Tokens`, `tokenize`.
-/

namespace PredictorSweep.Yaml

namespace Lexer

/-- Passes blanks, comments and line breaks up to the next token. A line break in the block
context allows a key to begin. -/
def toNextToken : Nat → Lexer → Lexer
  | 0, l => l
  | n + 1, l =>
    let l := if l.mark.column == 0 && l.isAt 0 '\uFEFF' then l.skip else l
    let tabs := l.flowLevel > 0 || !l.keyAllowed
    let l := l.skipWhile (fun c => c == ' ' || (tabs && c == '\t'))
    let l := if l.isAt 0 '#' then l.skipWhile (fun c => !isBreak c) else l
    if l.atBreak then
      let l := l.skipBreak
      toNextToken n (if l.flowLevel == 0 then { l with keyAllowed := true } else l)
    else l

/-- Appends a one-character token and moves past it. -/
def single (l : Lexer) (kind : TokenKind) : Lexer :=
  let start := l.mark
  let l := l.skip
  l.push kind start l.mark

/-- Ends the stream: closes every block collection and appends the end token on a fresh line. -/
def streamEnd (l : Lexer) : Except Problem Lexer := do
  let l := if l.mark.column != 0 then
      { l with mark := { l.mark with column := 0, line := l.mark.line + 1 } }
    else l
  let l := l.unrollIndent (-1) l.mark
  let l ← l.removeKey
  let l := { l with keyAllowed := false }
  .ok (l.push .streamEnd l.mark l.mark)

/-- Reads a document marker `---` or `...`. -/
def documentMarker (kind : TokenKind) (l : Lexer) : Except Problem Lexer := do
  let l := l.unrollIndent (-1) l.mark
  let l ← l.removeKey
  let l := { l with keyAllowed := false }
  let start := l.mark
  let l := l.skipN 3
  .ok (l.push kind start l.mark)

/-- Reads `[` or `{`; a key may begin at it, and inside it. -/
def flowStart (kind : TokenKind) (l : Lexer) : Except Problem Lexer := do
  let l ← l.saveKey
  let l ← l.increaseFlowLevel
  .ok ({ l with keyAllowed := true }.single kind)

/-- Reads `]` or `}`. -/
def flowEnd (kind : TokenKind) (l : Lexer) : Except Problem Lexer := do
  let l ← l.removeKey
  let l := l.decreaseFlowLevel
  .ok ({ l with keyAllowed := false }.single kind)

/-- Reads `,` inside a flow collection. -/
def flowEntry (l : Lexer) : Except Problem Lexer := do
  let l ← l.removeKey
  .ok ({ l with keyAllowed := true }.single .flowEntry)

/-- Reads `-` before a blank. In the block context it opens a sequence at its column when
deeper than the current one, and is refused where no key may begin. -/
def blockEntry (l : Lexer) : Except Problem Lexer := do
  let l ←
    if l.flowLevel == 0 then
      if !l.keyAllowed then
        .error (l.problemHere "" l.mark "block sequence entries are not allowed in this context")
      else l.rollIndent l.mark.column none .blockSequenceStart l.mark
    else .ok l
  let l ← l.removeKey
  .ok ({ l with keyAllowed := true }.single .blockEntry)

/-- Reads `?`, a key indicator. -/
def complexKey (l : Lexer) : Except Problem Lexer := do
  let l ←
    if l.flowLevel == 0 then
      if !l.keyAllowed then
        .error (l.problemHere "" l.mark "mapping keys are not allowed in this context")
      else l.rollIndent l.mark.column none .blockMappingStart l.mark
    else .ok l
  let l ← l.removeKey
  .ok ({ l with keyAllowed := l.flowLevel == 0 }.single .key)

/-- Reads `:`, a value indicator. If a key may have begun earlier on this line, a key token is
put there, after a mapping start when the key opens a block mapping. Otherwise, in the block
context, the value needs a place where a key may begin. -/
def valueIndicator (l : Lexer) : Except Problem Lexer := do
  let (valid, k) ← l.keyStillPossible l.currentKey
  let l := l.setCurrentKey k
  let l ←
    if valid then do
      let l := l.insertAt k.tokenNumber { kind := .key, start := k.mark, stop := k.mark }
      let l ← l.rollIndent k.mark.column (some k.tokenNumber) .blockMappingStart k.mark
      .ok { l.setCurrentKey { k with possible := false } with keyAllowed := false }
    else if l.flowLevel == 0 then
      if !l.keyAllowed then
        .error (l.problemHere "" l.mark "mapping values are not allowed in this context")
      else do
        let l ← l.rollIndent l.mark.column none .blockMappingStart l.mark
        .ok { l with keyAllowed := true }
    else .ok { l with keyAllowed := false }
  .ok (l.single .value)

/-- Whether a plain scalar starts here: any character but a blank, a break and the indicators;
also `-` before a character that is not a blank, and in the block context `?` and `:` before one
that is neither a blank nor a break. -/
def plainStarts (l : Lexer) (c : Char) : Bool :=
  !(l.blankOrEndAt 0 || "-?:,[]\x7b\x7d#&*!|>'\"%@`".toList.contains c) ||
    (c == '-' && !(l.peek 1).any isBlank) ||
    (l.flowLevel == 0 && (c == '?' || c == ':') && !l.blankOrEndAt 1)

/-- Reads the next token, closing the block collections it ends first. -/
def nextToken (l : Lexer) : Except Problem Lexer := do
  let before := l.mark
  let l := toNextToken (l.rest.length + 1) l
  let l := l.unrollIndent l.mark.column before
  match l.peek 0 with
  | none => l.streamEnd
  | some c =>
    if l.mark.column == 0 && c == '%' then do
      let l := l.unrollIndent (-1) l.mark
      let l ← l.removeKey
      { l with keyAllowed := false }.directive
    else if l.atDocumentMarker && c == '-' then l.documentMarker .documentStart
    else if l.atDocumentMarker && c == '.' then l.documentMarker .documentEnd
    else if c == '[' then l.flowStart .flowSequenceStart
    else if c == '{' then l.flowStart .flowMappingStart
    else if c == ']' then l.flowEnd .flowSequenceEnd
    else if c == '}' then l.flowEnd .flowMappingEnd
    else if c == ',' then l.flowEntry
    else if c == '-' && l.blankOrEndAt 1 then l.blockEntry
    else if c == '?' && (l.flowLevel > 0 || l.blankOrEndAt 1) then l.complexKey
    else if c == ':' && (l.flowLevel > 0 || l.blankOrEndAt 1) then l.valueIndicator
    else if c == '*' || c == '&' then do
      let l ← l.saveKey
      { l with keyAllowed := false }.anchorOrAlias (c == '*')
    else if c == '!' then do
      let l ← l.saveKey
      { l with keyAllowed := false }.tagToken
    else if (c == '|' || c == '>') && l.flowLevel == 0 then do
      let l ← l.removeKey
      { l with keyAllowed := true }.blockScalar (c == '|')
    else if c == '\'' || c == '"' then do
      let l ← l.saveKey
      { l with keyAllowed := false }.quotedScalar (c == '\'')
    else if l.plainStarts c then do
      let l ← l.saveKey
      { l with keyAllowed := false }.plainScalar
    else
      .error (l.problemHere "while scanning for the next token" l.mark
        "found character that cannot start any token")

end Lexer

/-- The tokens of a text: all of them, ending with the stream end, or those before a problem
and the problem. -/
structure Tokens where
  /-- The tokens read. -/
  tokens : Array Token
  /-- The problem that stopped the lexer, if any. -/
  stop : Option Problem
  deriving Inhabited

/-- Reads tokens until the stream ends or a problem arises. Each step reads at least one
character or ends the stream, so the fuel, one more than the characters, suffices. -/
def readTokens : Nat → Lexer → Tokens
  | 0, l => { tokens := l.tokens, stop := none }
  | n + 1, l =>
    match l.nextToken with
    | .error p => { tokens := l.tokens, stop := some p }
    | .ok l' =>
      if (l'.tokens.back?.map (·.kind)) == some .streamEnd then { tokens := l'.tokens, stop := none }
      else readTokens n l'

/-- The tokens of a text. A leading byte-order mark is dropped. A character outside the allowed
set refuses the whole text. -/
def tokenize (text : String) : Tokens :=
  let chars := text.toList
  let chars := if chars.head? == some '\uFEFF' then chars.drop 1 else chars
  let start : Lexer := ({ rest := chars } : Lexer).push .streamStart {} {}
  if chars.all isAllowedChar then readTokens (chars.length + 2) start
  else
    { tokens := #[],
      stop := some { problem := "control characters are not allowed", lexical := false } }

end PredictorSweep.Yaml
