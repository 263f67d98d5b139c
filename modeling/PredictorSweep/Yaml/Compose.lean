import PredictorSweep.Yaml.Lexer.Stream
import PredictorSweep.Yaml.Node
import PredictorSweep.Yaml.Resolve
/-!
# From tokens to a document

`Document.read` builds the first document of a text from its tokens, following the grammar of
block and flow collections. A node may carry an anchor and a tag before its content. An empty
place, such as a key with no value, holds an empty plain scalar, which is null. An alias must
name an anchor defined before it in the document.

The reader stops after the first document and looks at one token past it. The lexer's problems
are met only when the reader comes within three tokens of them, since it reads that far ahead;
so a problem deep in a second document goes unseen.

Main definitions:

- `ReadError`, `ReadError.message`;
- `Composer`, `Composer.node`;
- `Document.ofTokens`, `Document.read`.
-/

namespace PredictorSweep.Yaml

/-- Why a text is not a document: a problem in its tokens or their order, or an alias of an
anchor not yet defined. -/
inductive ReadError where
  | malformed (p : Problem)
  | unknownAnchor (name : String)
  deriving Inhabited, Repr

/-- The message of a read error. -/
def ReadError.message : ReadError → String
  | .malformed p => p.message
  | .unknownAnchor name => "yaml: unknown anchor '" ++ name ++ "' referenced"

/-- The tag handles every document knows. -/
def defaultHandles : List (String × String) := [("!", "!"), ("!!", corePrefix)]

/-- The reader's state: the tokens, the next one's place, the anchors defined so far with the
place of their node, the anchored nodes, how many aliases were read, and the tag handles. -/
structure Composer where
  /-- The tokens. -/
  tokens : Array Token
  /-- The lexer's problem after the tokens, if any. -/
  stop : Option Problem
  /-- The place of the next token. -/
  pos : Nat := 0
  /-- The anchors defined so far, latest first, with the place of their node. -/
  names : List (String × Nat) := []
  /-- The anchored nodes. -/
  anchored : Array Node := #[]
  /-- How many aliases were read. -/
  aliases : Nat := 0
  /-- The tag handles and their prefixes. -/
  handles : List (String × String) := defaultHandles
  deriving Inhabited

/-- A structural problem with the construct that began at `contextMark`. -/
def structural (context : String) (contextMark : Mark) (problem : String) (problemMark : Mark) :
    ReadError :=
  .malformed { context, contextMark, problem, problemMark, lexical := false }

/-- The empty plain scalar at a mark. -/
def emptyScalar (mark : Mark) : Node := .scalar "" "!!null" .plain (mark.line + 1)

/-- The tag of a scalar: the tag written on it unless empty or `!`, else `!!str` for a quoted
or block scalar, `!!merge` for a plain `<<`, else what its text resolves to. -/
def scalarTag (written : String) (text : String) (style : ScalarStyle) : String :=
  if written != "" && written != "!" then shortTag written
  else if style != .plain then "!!str"
  else if text == "<<" then "!!merge"
  else plainTag text

/-- The tag of a collection: the tag written on it unless empty or `!`, else `fallback`. -/
def collectionTag (written : String) (fallback : String) : String :=
  if written != "" && written != "!" then shortTag written else fallback

/-- What may stand before a node's content. -/
structure Properties where
  /-- The anchor. -/
  anchor : Option String := none
  /-- The tag's handle and suffix, and where it starts. -/
  tag : Option (String × String × Mark) := none
  /-- Where the properties start. -/
  start : Option Mark := none

namespace Composer

/-- The next token. Past the last one, the stream's end; near a problem of the lexer, the
problem. -/
def peek (c : Composer) : Except ReadError Token :=
  match c.stop with
  | some p => if c.pos + 3 > c.tokens.size then .error (.malformed p) else .ok (c.tokens.getD c.pos default)
  | none => .ok (c.tokens.getD c.pos (c.tokens.back?.getD default))

/-- Moves past the next token. -/
def advance (c : Composer) : Composer := { c with pos := c.pos + 1 }

/-- Defines an anchor for a finished node. -/
def anchorNode (c : Composer) (anchor : Option String) (n : Node) : Composer :=
  match anchor with
  | some a => { c with names := (a, c.anchored.size) :: c.names, anchored := c.anchored.push n }
  | none => c

/-- Defines an anchor for a collection about to be read, keeping a place for it. -/
def reserve (c : Composer) (anchor : Option String) : Composer × Option Nat :=
  match anchor with
  | some a =>
    ({ c with names := (a, c.anchored.size) :: c.names, anchored := c.anchored.push default },
      some c.anchored.size)
  | none => (c, none)

/-- Puts a finished collection in its kept place. -/
def fill (c : Composer) (slot : Option Nat) (n : Node) : Composer :=
  match slot with
  | some i => { c with anchored := c.anchored.set! i n }
  | none => c

/-- Reads the anchor and tag before a node's content, in either order. -/
def properties (c : Composer) : Except ReadError (Properties × Composer) := do
  let t ← c.peek
  match t.kind with
  | .anchor a =>
    let c := c.advance
    let t2 ← c.peek
    match t2.kind with
    | .tag h s => .ok ({ anchor := some a, tag := some (h, s, t2.start), start := some t.start },
        c.advance)
    | _ => .ok ({ anchor := some a, start := some t.start }, c)
  | .tag h s =>
    let c := c.advance
    let t2 ← c.peek
    match t2.kind with
    | .anchor a => .ok ({ anchor := some a, tag := some (h, s, t.start), start := some t.start },
        c.advance)
    | _ => .ok ({ tag := some (h, s, t.start), start := some t.start }, c)
  | _ => .ok ({}, c)

/-- The full tag of a node's properties: the suffix alone for an empty handle, else the
handle's prefix and the suffix; an unknown handle is refused. -/
def fullTag (c : Composer) (props : Properties) (start : Mark) : Except ReadError String :=
  match props.tag with
  | none => .ok ""
  | some (h, s, mark) =>
    if h.isEmpty then .ok s
    else match c.handles.lookup h with
      | some pfx => .ok (pfx ++ s)
      | none => .error (structural "while parsing a node" start "found undefined tag handle" mark)

/-- Whether a token is one of the given kinds. -/
def isOneOf (t : Token) (kinds : List TokenKind) : Bool := kinds.contains t.kind

/-- The failure when the reader runs out of fuel, which the fuel given never allows. -/
def exhausted : ReadError := .malformed { problem := "document too deeply nested", lexical := false }

mutual

/-- Reads a node. In a block context, block collections may start here; `indentless` allows a
sequence whose entries are not indented, as the value of a block mapping. -/
def node : Nat → Composer → Bool → Bool → Except ReadError (Node × Composer)
  | 0, _, _, _ => .error exhausted
  | n + 1, c, block, indentless => do
    let t ← c.peek
    match t.kind with
    | .aliasMark name =>
      match c.names.lookup name with
      | none => .error (.unknownAnchor name)
      | some slot =>
        .ok (.ref name slot c.aliases (t.start.line + 1),
          { c.advance with aliases := c.aliases + 1 })
    | _ =>
      let (props, c) ← c.properties
      let t ← c.peek
      let start := props.start.getD t.start
      let tag ← c.fullTag props start
      let line := start.line + 1
      if indentless && t.kind == .blockEntry then
        let (c, slot) := c.reserve props.anchor
        let (items, c) ← indentlessItems n c #[]
        let nd := Node.sequence items.toList (collectionTag tag "!!seq") line
        .ok (nd, c.fill slot nd)
      else match t.kind with
        | .scalar text style =>
          let nd := Node.scalar text (scalarTag tag text style) style line
          .ok (nd, c.advance.anchorNode props.anchor nd)
        | .flowSequenceStart =>
          let (c, slot) := c.reserve props.anchor
          let (items, c) ← flowItems n c.advance t.start true #[]
          let nd := Node.sequence items.toList (collectionTag tag "!!seq") line
          .ok (nd, c.fill slot nd)
        | .flowMappingStart =>
          let (c, slot) := c.reserve props.anchor
          let (entries, c) ← flowEntries n c.advance t.start true #[]
          let nd := Node.mapping entries.toList (collectionTag tag "!!map") line
          .ok (nd, c.fill slot nd)
        | .blockSequenceStart =>
          if block then
            let (c, slot) := c.reserve props.anchor
            let (items, c) ← blockItems n c.advance t.start #[]
            let nd := Node.sequence items.toList (collectionTag tag "!!seq") line
            .ok (nd, c.fill slot nd)
          else missing c props start tag block t
        | .blockMappingStart =>
          if block then
            let (c, slot) := c.reserve props.anchor
            let (entries, c) ← blockEntries n c.advance t.start #[]
            let nd := Node.mapping entries.toList (collectionTag tag "!!map") line
            .ok (nd, c.fill slot nd)
          else missing c props start tag block t
        | _ => missing c props start tag block t

/-- A node with properties and no content is an empty scalar; with neither, content is
missing. -/
def missing (c : Composer) (props : Properties) (start : Mark) (tag : String) (block : Bool)
    (t : Token) : Except ReadError (Node × Composer) :=
  if props.anchor.isSome || !tag.isEmpty then
    let nd := Node.scalar "" (scalarTag tag "" .plain) .plain (start.line + 1)
    .ok (nd, c.anchorNode props.anchor nd)
  else
    .error (structural (if block then "while parsing a block node" else "while parsing a flow node")
      start "did not find expected node content" t.start)

/-- Reads the entries of a block sequence, up to its end. -/
def blockItems : Nat → Composer → Mark → Array Node → Except ReadError ((Array Node) × Composer)
  | 0, _, _, _ => .error exhausted
  | n + 1, c, start, acc => do
    let t ← c.peek
    match t.kind with
    | .blockEntry =>
      let c := c.advance
      let t2 ← c.peek
      let (item, c) ←
        if isOneOf t2 [.blockEntry, .blockEnd] then .ok (emptyScalar t.stop, c)
        else node n c true false
      blockItems n c start (acc.push item)
    | .blockEnd => .ok (acc, c.advance)
    | _ =>
      .error (structural "while parsing a block collection" start
        "did not find expected '-' indicator" t.start)

/-- Reads the entries of a sequence whose entries stand at its mapping key's indentation. -/
def indentlessItems : Nat → Composer → Array Node → Except ReadError ((Array Node) × Composer)
  | 0, _, _ => .error exhausted
  | n + 1, c, acc => do
    let t ← c.peek
    match t.kind with
    | .blockEntry =>
      let c := c.advance
      let t2 ← c.peek
      let (item, c) ←
        if isOneOf t2 [.blockEntry, .key, .value, .blockEnd] then .ok (emptyScalar t.stop, c)
        else node n c true false
      indentlessItems n c (acc.push item)
    | _ => .ok (acc, c)

/-- Reads the value part of a block mapping entry, or gives an empty one. -/
def blockValue : Nat → Composer → Except ReadError (Node × Composer)
  | 0, _ => .error exhausted
  | n + 1, c => do
    let t ← c.peek
    match t.kind with
    | .value =>
      let c := c.advance
      let t2 ← c.peek
      if isOneOf t2 [.key, .value, .blockEnd] then .ok (emptyScalar t.stop, c)
      else node n c true true
    | _ => .ok (emptyScalar t.start, c)

/-- Reads the entries of a block mapping, up to its end. -/
def blockEntries : Nat → Composer → Mark → Array (Node × Node) → Except ReadError ((Array (Node × Node)) × Composer)
  | 0, _, _, _ => .error exhausted
  | n + 1, c, start, acc => do
    let t ← c.peek
    match t.kind with
    | .key =>
      let c := c.advance
      let t2 ← c.peek
      let (k, c) ←
        if isOneOf t2 [.key, .value, .blockEnd] then .ok (emptyScalar t.stop, c)
        else node n c true true
      let (v, c) ← blockValue n c
      blockEntries n c start (acc.push (k, v))
    | .value =>
      let (v, c) ← blockValue n c
      blockEntries n c start (acc.push (emptyScalar t.start, v))
    | .blockEnd => .ok (acc, c.advance)
    | _ =>
      .error (structural "while parsing a block mapping" start "did not find expected key" t.start)

/-- Reads a one-entry mapping written as `key: value` inside a flow sequence, after its key
indicator. -/
def flowPair : Nat → Composer → Mark → Except ReadError (Node × Composer)
  | 0, _, _ => .error exhausted
  | n + 1, c, start => do
    let t ← c.peek
    let (k, c) ←
      if isOneOf t [.value, .flowEntry, .flowSequenceEnd] then .ok (emptyScalar t.stop, c.advance)
      else node n c false false
    let t ← c.peek
    let (v, c) ←
      match t.kind with
      | .value =>
        let c := c.advance
        let t2 ← c.peek
        if isOneOf t2 [.flowEntry, .flowSequenceEnd] then .ok (emptyScalar t.start, c)
        else node n c false false
      | _ => .ok (emptyScalar t.start, c)
    .ok (.mapping [(k, v)] "!!map" (start.line + 1), c)

/-- Reads the entries of a flow sequence, up to its `]`. -/
def flowItems : Nat → Composer → Mark → Bool → Array Node → Except ReadError ((Array Node) × Composer)
  | 0, _, _, _, _ => .error exhausted
  | n + 1, c, start, first, acc => do
    let t ← c.peek
    if t.kind == .flowSequenceEnd then .ok (acc, c.advance)
    else
      let (c, t) ←
        if first then .ok (c, t)
        else if t.kind == .flowEntry then do
          let c := c.advance
          let t ← c.peek
          .ok (c, t)
        else
          .error (structural "while parsing a flow sequence" start
            "did not find expected ',' or ']'" t.start)
      match t.kind with
      | .key =>
        let (pair, c) ← flowPair n c.advance t.start
        flowItems n c start false (acc.push pair)
      | .flowSequenceEnd => .ok (acc, c.advance)
      | _ =>
        let (item, c) ← node n c false false
        flowItems n c start false (acc.push item)

/-- Reads the entries of a flow mapping, up to its `}`. -/
def flowEntries : Nat → Composer → Mark → Bool → Array (Node × Node) →
    Except ReadError ((Array (Node × Node)) × Composer)
  | 0, _, _, _, _ => .error exhausted
  | n + 1, c, start, first, acc => do
    let t ← c.peek
    if t.kind == .flowMappingEnd then .ok (acc, c.advance)
    else
      let (c, t) ←
        if first then .ok (c, t)
        else if t.kind == .flowEntry then do
          let c := c.advance
          let t ← c.peek
          .ok (c, t)
        else
          .error (structural "while parsing a flow mapping" start
            "did not find expected ',' or '\x7d'" t.start)
      match t.kind with
      | .key =>
        let c := c.advance
        let t2 ← c.peek
        let (k, c) ←
          if isOneOf t2 [.value, .flowEntry, .flowMappingEnd] then .ok (emptyScalar t2.start, c)
          else node n c false false
        let t3 ← c.peek
        let (v, c) ←
          match t3.kind with
          | .value =>
            let c := c.advance
            let t4 ← c.peek
            if isOneOf t4 [.flowEntry, .flowMappingEnd] then .ok (emptyScalar t4.start, c)
            else node n c false false
          | _ => .ok (emptyScalar t3.start, c)
        flowEntries n c start false (acc.push (k, v))
      | .flowMappingEnd => .ok (acc, c.advance)
      | _ =>
        let (k, c) ← node n c false false
        let t2 ← c.peek
        flowEntries n c start false (acc.push (k, emptyScalar t2.start))

end

/-- Reads the directives before an explicit document: at most one `%YAML`, of version 1.1 or
1.2, and `%TAG` handles, each once. -/
def directives : Nat → Composer → Bool → List (String × String) →
    Except ReadError (List (String × String) × Composer)
  | 0, c, _, hs => .ok (hs, c)
  | n + 1, c, seenVersion, hs => do
    let t ← c.peek
    match t.kind with
    | .versionDirective major minor =>
      if seenVersion then
        .error (structural "" {} "found duplicate %YAML directive" t.start)
      else if major != 1 || (minor != 1 && minor != 2) then
        .error (structural "" {} "found incompatible YAML document" t.start)
      else directives n c.advance true hs
    | .tagDirective h p =>
      if (hs.lookup h).isSome then
        .error (structural "" {} "found duplicate %TAG directive" t.start)
      else directives n c.advance seenVersion (hs ++ [(h, p)])
    | _ => .ok (hs, c)

end Composer

/-- The first document of a token stream, or none when the stream holds no document. -/
def Document.ofTokens (ts : Tokens) : Except ReadError (Option Document) := do
  let fuel := ts.tokens.size + 2
  let c : Composer := { tokens := ts.tokens, stop := ts.stop }
  let _ ← c.peek
  let c := c.advance
  let t ← c.peek
  let explicitStart := [TokenKind.documentStart]
  let (root, c) ←
    match t.kind with
    | .streamEnd => .ok (none, c)
    | .versionDirective .. | .tagDirective .. | .documentStart => do
      let (hs, c) ← Composer.directives fuel c false []
      let c := { c with handles := hs ++ defaultHandles.filter (fun (d : String × String) => (hs.lookup d.1).isNone) }
      let t ← c.peek
      if !Composer.isOneOf t explicitStart then
        .error (structural "" {} "did not find expected <document start>" t.start)
      else
        let c := c.advance
        let t ← c.peek
        if Composer.isOneOf t [.documentStart, .documentEnd, .streamEnd] ||
            (match t.kind with | .versionDirective .. | .tagDirective .. => true | _ => false) then
          .ok (some (emptyScalar t.start), c)
        else
          let (nd, c) ← Composer.node fuel c true false
          .ok (some nd, c)
    | _ => do
      let (nd, c) ← Composer.node fuel c true false
      .ok (some nd, c)
  match root with
  | none => .ok none
  | some r =>
    let _ ← c.peek
    .ok (some { root := r, anchored := c.anchored, aliases := c.aliases, weight := c.pos })

/-- The first document of a text, or none when the text holds no document. An empty text reads
as a single line break. -/
def Document.read (text : String) : Except ReadError (Option Document) :=
  Document.ofTokens (tokenize (if text.isEmpty then "\n" else text))

end PredictorSweep.Yaml
