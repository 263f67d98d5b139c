import PredictorSweep.Yaml.Token
/-!
# The lexer's state

The lexer reads the text once, left to right, and keeps what the tokens so far imply: the
indentation levels of the open block collections, how deep it is inside flow collections, and
for each flow level the place where a key without a `?` may have begun. Such a key is known to
be one only when its `:` arrives; then a key token, and when the key opens a block mapping a
mapping-start token, are put in front of the key's first token.

A possible key must stay on one line and within 1024 characters. In a block collection, a key
that starts at the collection's own indentation is required: if it turns out not to be a key,
the text is refused.

Main definitions:

- `SimpleKey`, `Lexer`;
- the moves `Lexer.skip`, `Lexer.skipBreak`, `Lexer.readBreak`;
- `Lexer.rollIndent`, `Lexer.unrollIndent`, `Lexer.saveKey`, `Lexer.removeKey`,
  `Lexer.keyStillPossible`.
-/

namespace PredictorSweep.Yaml

/-- A place where a key without a `?` may have begun. -/
structure SimpleKey where
  /-- Whether a key may still begin there. -/
  possible : Bool := false
  /-- Whether it must be a key. -/
  required : Bool := false
  /-- How many tokens came before it. -/
  tokenNumber : Nat := 0
  /-- Where it begins. -/
  mark : Mark := {}
  deriving Inhabited

/-- The deepest nesting of collections the lexer accepts. -/
def maxDepth : Nat := 10000

/-- The state of the lexer. -/
structure Lexer where
  /-- The characters not yet read. -/
  rest : List Char
  /-- Where the next character is. -/
  mark : Mark := {}
  /-- The tokens so far. -/
  tokens : Array Token := #[]
  /-- The indentation of the innermost open block collection, `-1` outside all. -/
  indent : Int := -1
  /-- The indentations of the enclosing block collections, innermost first. -/
  indents : List Int := []
  /-- How many flow collections are open. -/
  flowLevel : Nat := 0
  /-- Whether a key may begin at the next token. -/
  keyAllowed : Bool := true
  /-- The possible key of each flow level, innermost first. -/
  keys : List SimpleKey := [{}]
  deriving Inhabited

namespace Lexer

/-- The character `k` places ahead. -/
def peek (l : Lexer) (k : Nat) : Option Char := l.rest[k]?

/-- Whether the character `k` places ahead is `c`. -/
def isAt (l : Lexer) (k : Nat) (c : Char) : Bool := l.peek k == some c

/-- Whether the character `k` places ahead is a blank, a break or the end. -/
def blankOrEndAt (l : Lexer) (k : Nat) : Bool := blankOrEnd (l.peek k)

/-- Whether the character `k` places ahead is a break or the end. -/
def breakOrEndAt (l : Lexer) (k : Nat) : Bool := breakOrEnd (l.peek k)

/-- Whether the next character is a blank. -/
def atBlank (l : Lexer) : Bool := (l.peek 0).any isBlank

/-- Whether the next character is a break. -/
def atBreak (l : Lexer) : Bool := (l.peek 0).any isBreak

/-- Whether the text is used up. -/
def atEnd (l : Lexer) : Bool := l.rest.isEmpty

/-- Whether a document marker `---` or `...`, followed by a blank, a break or the end, starts
at the first column. -/
def atDocumentMarker (l : Lexer) : Bool :=
  l.mark.column == 0 && l.blankOrEndAt 3 &&
    ((l.isAt 0 '-' && l.isAt 1 '-' && l.isAt 2 '-') ||
      (l.isAt 0 '.' && l.isAt 1 '.' && l.isAt 2 '.'))

/-- Moves past one character that is not a break. -/
def skip (l : Lexer) : Lexer :=
  match l.rest with
  | [] => l
  | _ :: r =>
    { l with rest := r,
             mark := { l.mark with index := l.mark.index + 1, column := l.mark.column + 1 } }

/-- Moves past `n` characters none of which is a break. -/
def skipN (l : Lexer) : Nat → Lexer
  | 0 => l
  | n + 1 => (l.skip).skipN n

/-- Moves past a line break; a carriage return and a line feed together count as one. -/
def skipBreak (l : Lexer) : Lexer :=
  match l.rest with
  | '\r' :: '\n' :: r => { l with rest := r, mark := ⟨l.mark.index + 2, l.mark.line + 1, 0⟩ }
  | c :: r =>
    if isBreak c then { l with rest := r, mark := ⟨l.mark.index + 1, l.mark.line + 1, 0⟩ }
    else l
  | [] => l

/-- Moves past a line break and gives what it stands for in a value: a line feed, or a line or
paragraph separator as itself; nothing when no break comes next. -/
def readBreak (l : Lexer) : Lexer × String :=
  match l.peek 0 with
  | some '\u2028' => (l.skipBreak, "\u2028")
  | some '\u2029' => (l.skipBreak, "\u2029")
  | some c => if isBreak c then (l.skipBreak, "\n") else (l, "")
  | none => (l, "")

/-- A problem the lexer raises here. -/
def problemHere (l : Lexer) (context : String) (contextMark : Mark) (problem : String) :
    Problem :=
  { context, contextMark, problem, problemMark := l.mark, lexical := true }

/-- Appends a token. -/
def push (l : Lexer) (kind : TokenKind) (start stop : Mark) : Lexer :=
  { l with tokens := l.tokens.push { kind, start, stop } }

/-- Puts a token at position `i` of the tokens so far. -/
def insertAt (l : Lexer) (i : Nat) (t : Token) : Lexer :=
  if h : i ≤ l.tokens.size then { l with tokens := l.tokens.insertIdx i t h }
  else { l with tokens := l.tokens.push t }

/-- The possible key of the innermost flow level. -/
def currentKey (l : Lexer) : SimpleKey := l.keys.headD {}

/-- Replaces the possible key of the innermost flow level. -/
def setCurrentKey (l : Lexer) (k : SimpleKey) : Lexer :=
  match l.keys with
  | [] => { l with keys := [k] }
  | _ :: r => { l with keys := k :: r }

/-- In the block context, opens a collection at `column` if it is deeper than the current
indentation, with a start token put at position `place`, or appended. -/
def rollIndent (l : Lexer) (column : Nat) (place : Option Nat) (kind : TokenKind) (mark : Mark) :
    Except Problem Lexer :=
  if l.flowLevel > 0 then .ok l
  else if l.indent < column then
    let l' := { l with indents := l.indent :: l.indents, indent := column }
    if l'.indents.length > maxDepth then
      .error (l.problemHere "while increasing indent level" l.currentKey.mark
        ("exceeded max depth of " ++ toString maxDepth))
    else
      let t : Token := { kind, start := mark, stop := mark }
      match place with
      | some i => .ok (l'.insertAt i t)
      | none => .ok { l' with tokens := l'.tokens.push t }
  else .ok l

/-- In the block context, closes every collection deeper than `column`, each with an end
token. -/
def unrollIndent (l : Lexer) (column : Int) (mark : Mark) : Lexer :=
  if l.flowLevel > 0 then l else go l.indents l
where
  /-- Pops the levels one by one. -/
  go : List Int → Lexer → Lexer
    | [], l => l
    | outer :: more, l =>
      if l.indent > column then
        let endMark := { mark with index := mark.index - 1 }
        go more { l with tokens := l.tokens.push { kind := .blockEnd, start := endMark,
                                                    stop := endMark },
                         indent := outer, indents := more }
      else l

/-- Whether a possible key can still be one here: it must be on this line and within 1024
characters. A required key that can no longer be one is refused. -/
def keyStillPossible (l : Lexer) (k : SimpleKey) : Except Problem (Bool × SimpleKey) :=
  if !k.possible then .ok (false, k)
  else if k.mark.line < l.mark.line || k.mark.index + 1024 < l.mark.index then
    if k.required then
      .error (l.problemHere "while scanning a simple key" k.mark "could not find expected ':'")
    else .ok (false, { k with possible := false })
  else .ok (true, k)

/-- Drops the possible key of the innermost flow level; a required one is refused. -/
def removeKey (l : Lexer) : Except Problem Lexer :=
  let k := l.currentKey
  if k.possible then
    if k.required then
      .error (l.problemHere "while scanning a simple key" k.mark "could not find expected ':'")
    else .ok (l.setCurrentKey { k with possible := false })
  else .ok l

/-- Records that a key may begin at the next token, when keys are allowed here. -/
def saveKey (l : Lexer) : Except Problem Lexer :=
  if l.keyAllowed then do
    let required := l.flowLevel == 0 && l.indent == (l.mark.column : Int)
    let l ← l.removeKey
    .ok (l.setCurrentKey
      { possible := true, required, tokenNumber := l.tokens.size, mark := l.mark })
  else .ok l

/-- Enters a flow collection. -/
def increaseFlowLevel (l : Lexer) : Except Problem Lexer :=
  let l' := { l with keys := {} :: l.keys, flowLevel := l.flowLevel + 1 }
  if l'.flowLevel > maxDepth then
    .error (l.problemHere "while increasing flow level" l.currentKey.mark
      ("exceeded max depth of " ++ toString maxDepth))
  else .ok l'

/-- Leaves a flow collection. -/
def decreaseFlowLevel (l : Lexer) : Lexer :=
  if l.flowLevel > 0 then { l with flowLevel := l.flowLevel - 1, keys := l.keys.tailD [{}] }
  else l

end Lexer

end PredictorSweep.Yaml
