import PredictorSweep.Shell.Syntax
/-!
# Reading shell scripts

A script is read by recursive descent over its characters. Words end at a blank or at one of
the operator characters `;`, `&`, `|`, `<`, `>`, `(`, `)` and the newline; quotes, backslashes
and expansions may join such characters into a word. A `#` at the start of a word begins a
comment that runs to the end of the line.

Reserved words (`if`, `then`, `for`, `do`, `case`, `{`, ...) count only where a command may
start. A here-document's body is the lines after the line that introduced it, up to the line that
holds only its delimiter; they are taken out of the text so the rest of the introducing line
reads on, and counted toward the line numbers when that line ends.

Every reader takes fuel, given by the length of the text, so that reading always ends; running
out of it is a syntax error, which a well-formed text of that length never meets.

Main definitions:

- `Cursor`;
- `readParts`: the parts of a word in a given quoting mode;
- `parseList`: a list of commands up to one of a set of closing words;
- `parseScript`: a whole script.
-/

namespace PredictorSweep.Shell

/-- The reader's place: the characters left, the current line, and the lines of here-documents
taken out of the text that the end of the current line will count. -/
structure Cursor where
  /-- The characters left. -/
  rest : List Char
  /-- The line of the next character. -/
  line : Nat := 1
  /-- Lines taken out of the text ahead of the next newline. -/
  held : Nat := 0
  deriving Inhabited

/-- The characters that end a bare word. -/
def isMeta (c : Char) : Bool :=
  c == ' ' || c == '\t' || c == '\n' || c == ';' || c == '&' || c == '|' || c == '<' ||
    c == '>' || c == '(' || c == ')'

/-- Characters that may start a variable name. -/
def isNameStart (c : Char) : Bool := c.isAlpha || c == '_'

/-- Characters that may follow in a variable name. -/
def isNameChar (c : Char) : Bool := c.isAlphanum || c == '_'

/-- Whether a text is a variable name. -/
def isName (s : String) : Bool :=
  match s.toList with
  | c :: cs => isNameStart c && cs.all isNameChar
  | [] => false

/-- The special parameters written with one character after `$`. -/
def specialParams : List Char := ['#', '@', '*', '?', '$', '!', '-']

/-- How the characters of a word are read. -/
inductive Mode where
  /-- Unquoted, ending at a blank or an operator character. -/
  | bare
  /-- Inside double quotes, ending at the closing quote. -/
  | double
  /-- A here-document body, read to its end; nothing in it is split. -/
  | heredoc
  /-- The word of a parameter modifier, read to its end. -/
  | inner
  deriving DecidableEq, Inhabited

/-- Adds literal characters to the parts read so far, joining them to a last text of the same
quoting. -/
def pushText (acc : List Part) (s : String) (quoted : Bool) : List Part :=
  if s.isEmpty then acc
  else match acc.getLast? with
    | some (.text t q) => if q == quoted then acc.dropLast ++ [.text (t ++ s) q] else acc ++ [.text s quoted]
    | _ => acc ++ [.text s quoted]

/-- Reads up to a closing character at depth zero, counting nested openings and skipping quoted
text; gives the text before the closing character and what follows it. -/
def readBalanced (opening closing : Char) : Nat → Nat → List Char → List Char →
    Option (String × List Char)
  | 0, _, _, _ => none
  | _ + 1, _, [], _ => none
  | fuel + 1, depth, c :: cs, acc =>
    if c == closing && depth == 0 then some (String.ofList acc.reverse, cs)
    else if c == closing then readBalanced opening closing fuel (depth - 1) cs (c :: acc)
    else if c == opening then readBalanced opening closing fuel (depth + 1) cs (c :: acc)
    else if c == '\\' then
      match cs with
      | d :: ds => readBalanced opening closing fuel depth ds (d :: c :: acc)
      | [] => none
    else if c == '\'' then
      let inside := cs.takeWhile (· ≠ '\'')
      match cs.dropWhile (· ≠ '\'') with
      | _ :: ds => readBalanced opening closing fuel depth ds ('\'' :: (inside.reverse ++ c :: acc))
      | [] => none
    else readBalanced opening closing fuel depth cs (c :: acc)

/-- Reads an arithmetic expansion's body after `$((`, up to the `))` that closes it. -/
def readArith : Nat → Nat → List Char → List Char → Option (String × List Char)
  | 0, _, _, _ => none
  | _ + 1, _, [], _ => none
  | fuel + 1, depth, c :: cs, acc =>
    if c == ')' && depth == 0 then
      match cs with
      | ')' :: ds => some (String.ofList acc.reverse, ds)
      | _ => none
    else if c == ')' then readArith fuel (depth - 1) cs (c :: acc)
    else if c == '(' then readArith fuel (depth + 1) cs (c :: acc)
    else readArith fuel depth cs (c :: acc)

/-- Reads a backquoted command up to its closing quote; a backslash keeps the next character when
it is a backquote, a dollar sign or a backslash. -/
def readBackquoted : Nat → List Char → List Char → Option (String × List Char)
  | 0, _, _ => none
  | _ + 1, [], _ => none
  | fuel + 1, c :: cs, acc =>
    if c == '`' then some (String.ofList acc.reverse, cs)
    else if c == '\\' then
      match cs with
      | d :: ds =>
        if d == '`' || d == '$' || d == '\\' then readBackquoted fuel ds (d :: acc)
        else readBackquoted fuel ds (d :: c :: acc)
      | [] => none
    else readBackquoted fuel cs (c :: acc)

/-- The modifier written after a parameter's name inside braces. -/
def readModifier (op : List Char) : Option Modifier :=
  let word (cs : List Char) := String.ofList cs
  match op with
  | [] => some .plain
  | ':' :: '-' :: w => some (.useDefault true (word w))
  | ':' :: '=' :: w => some (.assignDefault true (word w))
  | ':' :: '+' :: w => some (.useAlternate true (word w))
  | '-' :: w => some (.useDefault false (word w))
  | '=' :: w => some (.assignDefault false (word w))
  | '+' :: w => some (.useAlternate false (word w))
  | _ => none

/-- The parameter part written inside `${...}`. -/
def braceParam (inside : String) (quoted : Bool) : Except String Part :=
  match inside.toList with
  | '#' :: name@(_ :: _) =>
    if isName (String.ofList name) || name.length == 1 then
      .ok (.param (String.ofList name) quoted .length)
    else .error "Syntax error: Bad substitution"
  | c :: cs =>
    let (name, op) :=
      if isNameStart c then
        let n := (c :: cs).takeWhile isNameChar
        (n, (c :: cs).drop n.length)
      else if c.isDigit then
        let n := (c :: cs).takeWhile Char.isDigit
        (n, (c :: cs).drop n.length)
      else ([c], cs)
    match readModifier op with
    | some m => .ok (.param (String.ofList name) quoted m)
    | none => .error "Syntax error: Bad substitution"
  | [] => .error "Syntax error: Bad substitution"

/-- Reads what follows a `$`: an arithmetic expansion, a command substitution, a parameter in
braces, a name, or a special parameter; a lone `$` is literal. Gives the part (or none for a
literal dollar) and the characters after it. -/
def readDollar (fuel : Nat) (cs : List Char) (quoted : Bool) :
    Except String (Option Part × List Char) :=
  match cs with
  | '(' :: '(' :: ds =>
    match readArith fuel 0 ds [] with
    | some (src, rest) => .ok (some (.arith src quoted), rest)
    | none => .error "Syntax error: Missing '))'"
  | '(' :: ds =>
    match readBalanced '(' ')' fuel 0 ds [] with
    | some (src, rest) => .ok (some (.subst src quoted), rest)
    | none => .error "Syntax error: end of file unexpected (expecting \")\")"
  | '\x7b' :: ds =>
    match readBalanced '\x7b' '\x7d' fuel 0 ds [] with
    | some (inside, rest) => do
      let p ← braceParam inside quoted
      .ok (some p, rest)
    | none => .error "Syntax error: Missing '\x7d'"
  | c :: ds =>
    if isNameStart c then
      let name := (c :: ds).takeWhile isNameChar
      .ok (some (.param (String.ofList name) quoted .plain), (c :: ds).drop name.length)
    else if c.isDigit || specialParams.contains c then
      .ok (some (.param (String.singleton c) quoted .plain), ds)
    else .ok (none, cs)
  | [] => .ok (none, cs)

/-- The characters a backslash may escape inside double quotes or a here-document. -/
def escapableQuoted (mode : Mode) (c : Char) : Bool :=
  c == '$' || c == '`' || c == '\\' || c == '\n' || (mode == .double && c == '"')

/-- Reads the parts of a word in a mode, from `cs`, after the parts `acc`; gives the parts, the
characters left, and the newlines read. -/
def readParts : Nat → Mode → List Char → List Part → Nat →
    Except String (List Part × List Char × Nat)
  | 0, _, _, _, _ => .error "Syntax error: word too long"
  | fuel + 1, mode, cs, acc, lines =>
    let quoted := mode == .double || mode == .heredoc
    match cs with
    | [] =>
      if mode == .double then .error "Syntax error: Unterminated quoted string"
      else .ok (acc, [], lines)
    | c :: ds =>
      if mode == .bare && isMeta c then .ok (acc, cs, lines)
      else if mode == .double && c == '"' then .ok (acc, ds, lines)
      else if c == '\\' then
        match ds with
        | [] => .ok (pushText acc "\\" quoted, [], lines)
        | '\n' :: es => readParts fuel mode es acc (lines + 1)
        | d :: es =>
          if mode == .bare || mode == .inner then
            readParts fuel mode es (pushText acc (String.singleton d) true) lines
          else if escapableQuoted mode d then
            readParts fuel mode es (pushText acc (String.singleton d) true) lines
          else readParts fuel mode es (pushText acc (String.ofList [c, d]) true) lines
      else if c == '$' then do
        let (p, rest) ← readDollar fuel ds quoted
        match p with
        | some p => readParts fuel mode rest (acc ++ [p]) lines
        | none => readParts fuel mode rest (pushText acc "$" quoted) lines
      else if c == '`' then
        match readBackquoted fuel ds [] with
        | some (src, rest) => readParts fuel mode rest (acc ++ [.subst src quoted]) lines
        | none => .error "Syntax error: EOF in backquote substitution"
      else if c == '\'' && (mode == .bare || mode == .inner) then
        let inside := ds.takeWhile (· ≠ '\'')
        match ds.dropWhile (· ≠ '\'') with
        | _ :: rest =>
          let acc := if inside.isEmpty then acc ++ [.text "" true]
            else pushText acc (String.ofList inside) true
          readParts fuel mode rest acc (lines + inside.count '\n')
        | [] => .error "Syntax error: Unterminated quoted string"
      else if c == '"' && (mode == .bare || mode == .inner) then do
        let (inner, rest, n) ← readParts fuel .double ds [] 0
        let inner := if inner.isEmpty then [.text "" true] else inner
        readParts fuel mode rest (acc ++ inner) (lines + n)
      else
        readParts fuel mode ds (pushText acc (String.singleton c) quoted)
          (if c == '\n' then lines + 1 else lines)

/-- The parts of a text read in a mode. -/
def partsOf (mode : Mode) (s : String) : Except String Word := do
  let (ps, _, _) ← readParts (s.length + 1) mode s.toList [] 0
  pure ps

namespace Cursor

/-- The next character. -/
def peek (c : Cursor) : Option Char := c.rest.head?

/-- Whether the text starts with a string. -/
def startsWith (c : Cursor) (s : String) : Bool := s.toList.isPrefixOf c.rest

/-- The cursor after `n` characters that hold no newline. -/
def drop (c : Cursor) (n : Nat) : Cursor := { c with rest := c.rest.drop n }

/-- The cursor after a newline: the line count moves past it and the held lines. -/
def newline (c : Cursor) : Cursor :=
  { c with rest := c.rest.drop 1, line := c.line + 1 + c.held, held := 0 }

/-- Skips blanks, escaped newlines and a comment, stopping at a newline or anything else. -/
def skipBlanksFuel : Nat → Cursor → Cursor
  | 0, c => c
  | n + 1, c =>
    match c.rest with
    | ' ' :: _ | '\t' :: _ => skipBlanksFuel n (c.drop 1)
    | '\\' :: '\n' :: rest => skipBlanksFuel n { c with rest, line := c.line + 1 }
    | '#' :: _ => { c with rest := c.rest.dropWhile (· ≠ '\n') }
    | _ => c

/-- Skips blanks, escaped newlines and a comment. -/
def skipBlanks (c : Cursor) : Cursor := skipBlanksFuel (c.rest.length + 1) c

/-- Skips blanks and newlines. -/
def skipNewlinesFuel : Nat → Cursor → Cursor
  | 0, c => c
  | n + 1, c =>
    let c := c.skipBlanks
    if c.peek == some '\n' then skipNewlinesFuel n c.newline else c

/-- Skips blanks, comments and newlines. -/
def skipNewlines (c : Cursor) : Cursor := skipNewlinesFuel (c.rest.length + 1) c

/-- Skips blanks, newlines and command separators `;` and `&` (but not `;;`, `&&`). -/
def skipSeparatorsFuel : Nat → Cursor → Cursor
  | 0, c => c
  | n + 1, c =>
    let c := c.skipBlanks
    if c.peek == some '\n' then skipSeparatorsFuel n c.newline
    else if c.startsWith ";" && !c.startsWith ";;" then skipSeparatorsFuel n (c.drop 1)
    else if c.startsWith "&" && !c.startsWith "&&" then skipSeparatorsFuel n (c.drop 1)
    else c

/-- Skips blanks, newlines and separators. -/
def skipSeparators (c : Cursor) : Cursor := skipSeparatorsFuel (c.rest.length + 1) c

/-- The next bare word's raw characters, up to a blank or operator character. -/
def peekWord (c : Cursor) : String := String.ofList (c.rest.takeWhile fun ch => !isMeta ch)

/-- Whether the next word is the reserved word `w`. -/
def atWord (c : Cursor) (w : String) : Bool := c.peekWord == w

/-- Whether the cursor is at one of the closing words or operators. -/
def atStop (c : Cursor) (stops : List String) : Bool :=
  stops.any fun s =>
    if s == ")" || s == ";;" then c.startsWith s else c.atWord s

/-- Reads a bare word. -/
def word (c : Cursor) : Except String (Word × Cursor) := do
  let (ps, rest, n) ← readParts (c.rest.length + 1) .bare c.rest [] 0
  pure (ps, { c with rest, line := c.line + n })

/-- Takes the cursor past a reserved word, or fails saying what was expected. -/
def expect (c : Cursor) (w : String) : Except String Cursor :=
  let c := c.skipBlanks
  if c.atWord w then .ok (c.drop w.length)
  else if c.rest.isEmpty then .error ("Syntax error: end of file unexpected (expecting \"" ++ w ++ "\")")
  else .error ("Syntax error: \"" ++ c.peekWord ++ "\" unexpected (expecting \"" ++ w ++ "\")")

end Cursor

/-- The literal text of a word when it has no expansion, and whether any of it was quoted. -/
def literalOf (w : Word) : Option (String × Bool) :=
  w.foldl (fun acc p => match acc, p with
    | some (s, q), .text t q' => some (s ++ t, q || q')
    | _, _ => none) (some ("", false))

/-- The name and value of an assignment word `name=value`. -/
def assignmentOf (w : Word) : Option (String × Word) :=
  match w with
  | .text t false :: rest =>
    let cs := t.toList
    let name := cs.takeWhile (· ≠ '=')
    if name.length < cs.length && isName (String.ofList name) then
      let value := String.ofList (cs.drop (name.length + 1))
      some (String.ofList name, (if value.isEmpty then [] else [.text value false]) ++ rest)
    else none
  | _ => none

/-- The lines of a here-document body after the introducing line, up to the delimiter line
(leading tabs removed first when `strip` holds): the body, the lines used, and the text after
the delimiter line. -/
def hereBody (delim : String) (strip : Bool) : List String → List String × Nat × List String
  | [] => ([], 0, [])
  | l :: ls =>
    let l := if strip then String.ofList (l.toList.dropWhile (· == '\t')) else l
    if l == delim then ([], 1, ls)
    else
      let (body, n, rest) := hereBody delim strip ls
      (l :: body, n + 1, rest)

/-- Reads a here-document introduced by `<<` (or `<<-` when `strip` holds) whose delimiter word
is next: the body is taken from the lines after the current line. -/
def readHere (c : Cursor) (fd : Nat) (strip : Bool) : Except String (Redirect × Cursor) := do
  let c := c.skipBlanks
  let (w, c) ← c.word
  let (delim, quoted) ← match literalOf w with
    | some d => pure d
    | none => .error "Syntax error: bad here-document delimiter"
  let quoted := quoted || w.any fun p => match p with | .text _ true => true | _ => false
  let lineRest := c.rest.takeWhile (· ≠ '\n')
  let after := c.rest.dropWhile (· ≠ '\n')
  match after with
  | [] => pure (.here fd [], c)
  | _ :: more =>
    let lines := (String.ofList more).splitOn "\n"
    let (body, used, rest) := hereBody delim strip lines
    let bodyText := String.join (body.map (· ++ "\n"))
    let parts ← if quoted then pure [Part.text bodyText true] else partsOf .heredoc bodyText
    let restText := "\n".intercalate rest
    pure (.here fd parts,
      { c with rest := lineRest ++ '\n' :: restText.toList, held := c.held + used })

/-- Reads a redirection whose operator starts here, after an optional descriptor number. -/
def readRedirect (c : Cursor) : Except String (Option (Redirect × Cursor)) := do
  let digits := c.rest.takeWhile Char.isDigit
  let afterDigits := c.rest.drop digits.length
  let fd? := if digits.isEmpty then none else some ((String.ofList digits).toNat?.getD 0)
  let c' := c.drop digits.length
  let target (c : Cursor) : Except String (Word × Cursor) := do
    let c := c.skipBlanks
    let (w, c) ← c.word
    if w.isEmpty then
      .error ("Syntax error: " ++ (if c.rest.isEmpty then "end of file" else
        "\"" ++ String.ofList (c.rest.take 1) ++ "\"") ++ " unexpected")
    else pure (w, c)
  match afterDigits with
  | '>' :: '>' :: _ => do
    let (w, c) ← target (c'.drop 2)
    pure (some (.toFile (fd?.getD 1) w true, c))
  | '>' :: '&' :: _ => do
    let (w, c) ← target (c'.drop 2)
    match literalOf w with
    | some (s, _) =>
      if s.toList.all Char.isDigit && !s.isEmpty then
        pure (some (.duplicate (fd?.getD 1) (s.toNat?.getD 0), c))
      else pure (some (.toFile (fd?.getD 1) w false, c))
    | none => pure (some (.toFile (fd?.getD 1) w false, c))
  | '>' :: '|' :: _ => do
    let (w, c) ← target (c'.drop 2)
    pure (some (.toFile (fd?.getD 1) w false, c))
  | '>' :: _ => do
    let (w, c) ← target (c'.drop 1)
    pure (some (.toFile (fd?.getD 1) w false, c))
  | '<' :: '<' :: '-' :: _ => do
    let (r, c) ← readHere (c'.drop 3) (fd?.getD 0) true
    pure (some (r, c))
  | '<' :: '<' :: _ => do
    let (r, c) ← readHere (c'.drop 2) (fd?.getD 0) false
    pure (some (r, c))
  | '<' :: '&' :: _ => do
    let (w, c) ← target (c'.drop 2)
    match literalOf w with
    | some (s, _) => pure (some (.duplicate (fd?.getD 0) (s.toNat?.getD 0), c))
    | none => pure (some (.fromFile (fd?.getD 0) w, c))
  | '<' :: _ => do
    let (w, c) ← target (c'.drop 1)
    pure (some (.fromFile (fd?.getD 0) w, c))
  | _ => pure none

/-- Reads redirections while they come. -/
def readRedirects : Nat → Cursor → List Redirect → Except String (List Redirect × Cursor)
  | 0, c, acc => .ok (acc, c)
  | n + 1, c, acc => do
    let c := c.skipBlanks
    match ← readRedirect c with
    | some (r, c) => readRedirects n c (acc ++ [r])
    | none => .ok (acc, c)

/-- Reads a simple command: assignments first, then words and redirections in any order, up to
an operator or the end of the line. -/
def readSimple : Nat → Cursor → List (String × Word) → List Word → List Redirect → Nat →
    Except String (Command × Cursor)
  | 0, c, assigns, words, redirs, line => .ok (.simple assigns words redirs line, c)
  | n + 1, c, assigns, words, redirs, line => do
    let c := c.skipBlanks
    match c.peek with
    | none => .ok (.simple assigns words redirs line, c)
    | some ch =>
      if ch == '\n' || ch == ';' || ch == '&' || ch == '|' || ch == ')' || ch == '(' then
        .ok (.simple assigns words redirs line, c)
      else match ← readRedirect c with
        | some (r, c) => readSimple n c assigns words (redirs ++ [r]) line
        | none => do
          let (w, c) ← c.word
          if words.isEmpty then
            match assignmentOf w with
            | some a => readSimple n c (assigns ++ [a]) words redirs line
            | none => readSimple n c assigns (words ++ [w]) redirs line
          else readSimple n c assigns (words ++ [w]) redirs line

/-- The words of a `for` list or a `case` pattern list, up to a character in `stops`. -/
def readWords : Nat → Cursor → List Char → List Word → Except String (List Word × Cursor)
  | 0, c, _, acc => .ok (acc, c)
  | n + 1, c, stops, acc => do
    let c := c.skipBlanks
    match c.peek with
    | none => .ok (acc, c)
    | some ch =>
      if stops.contains ch || ch == '\n' then .ok (acc, c)
      else
        let (w, c) ← c.word
        if w.isEmpty then .error ("Syntax error: \"" ++ String.singleton ch ++ "\" unexpected")
        else readWords n c stops (acc ++ [w])

/-- The error for a token that cannot start a command. -/
def unexpected (c : Cursor) : String :=
  if c.rest.isEmpty then "Syntax error: end of file unexpected"
  else
    let w := c.peekWord
    let tok := if w.isEmpty then
        if c.startsWith ";;" then ";;" else if c.startsWith "&&" then "&&"
        else if c.startsWith "||" then "||" else String.ofList (c.rest.take 1)
      else w
    "Syntax error: \"" ++ (if tok == "\n" then "newline" else tok) ++ "\" unexpected"

/-- The words that close a list in some construct. -/
def closingWords : List String := ["then", "elif", "else", "fi", "do", "done", "esac", "\x7d"]

mutual

/-- Reads commands separated by `;`, `&` or newlines, up to the end or one of `stops`. -/
def parseList : Nat → List String → Cursor → Except String (List Command × Cursor)
  | 0, _, c => .error (unexpected c)
  | n + 1, stops, c => do
    let c := c.skipSeparators
    if c.rest.isEmpty || c.atStop stops then .ok ([], c)
    else
      let (cmd, c) ← parseAndOr n c
      let c := c.skipBlanks
      if c.peek == some '\n' then
        let (more, c) ← parseList n stops c.newline
        .ok (cmd :: more, c)
      else if (c.startsWith ";" && !c.startsWith ";;") || (c.startsWith "&" && !c.startsWith "&&") then
        let (more, c) ← parseList n stops (c.drop 1)
        .ok (cmd :: more, c)
      else if c.rest.isEmpty || c.atStop stops then .ok ([cmd], c)
      else .error (unexpected c)

/-- Reads pipelines joined by `&&` and `||`. -/
def parseAndOr : Nat → Cursor → Except String (Command × Cursor)
  | 0, c => .error (unexpected c)
  | n + 1, c => do
    let (first, c) ← parsePipeline n c
    let (rest, c) ← parseAndOrRest n c
    if rest.isEmpty then .ok (first, c) else .ok (.andOr first rest, c)

/-- Reads the `&&` and `||` links after a first pipeline. -/
def parseAndOrRest : Nat → Cursor → Except String (List (Bool × Command) × Cursor)
  | 0, c => .ok ([], c)
  | n + 1, c => do
    let c := c.skipBlanks
    if c.startsWith "&&" || c.startsWith "||" then
      let isAnd := c.startsWith "&&"
      let (p, c) ← parsePipeline n (c.drop 2).skipNewlines
      let (more, c) ← parseAndOrRest n c
      .ok ((isAnd, p) :: more, c)
    else .ok ([], c)

/-- Reads commands joined by `|`, after an optional `!`. -/
def parsePipeline : Nat → Cursor → Except String (Command × Cursor)
  | 0, c => .error (unexpected c)
  | n + 1, c => do
    let c := c.skipBlanks
    let (negate, c) := if c.atWord "!" then (true, (c.drop 1).skipBlanks) else (false, c)
    let (first, c) ← parseCommand n c
    let (rest, c) ← parsePipeRest n c
    if rest.isEmpty && !negate then .ok (first, c) else .ok (.pipeline (first :: rest) negate, c)

/-- Reads the commands after each `|`. -/
def parsePipeRest : Nat → Cursor → Except String (List Command × Cursor)
  | 0, c => .ok ([], c)
  | n + 1, c => do
    let c := c.skipBlanks
    if c.startsWith "|" && !c.startsWith "||" then
      let (cmd, c) ← parseCommand n (c.drop 1).skipNewlines
      let (more, c) ← parsePipeRest n c
      .ok (cmd :: more, c)
    else .ok ([], c)

/-- Reads one command: a compound command with its redirections, or a simple command. -/
def parseCommand : Nat → Cursor → Except String (Command × Cursor)
  | 0, c => .error (unexpected c)
  | n + 1, c => do
    let c := c.skipBlanks
    let w := c.peekWord
    let compound : Except String (Option (Command × Cursor)) :=
      if w == "if" then some <$> parseIf n (c.drop 2)
      else if w == "for" then some <$> parseFor n (c.drop 3)
      else if w == "while" then some <$> parseLoop n (c.drop 5) false
      else if w == "until" then some <$> parseLoop n (c.drop 5) true
      else if w == "case" then some <$> parseCase n (c.drop 4)
      else if w == "\x7b" then do
        let (body, c) ← parseList n ["\x7d"] (c.drop 1)
        let c ← c.expect "\x7d"
        pure (some (.group (.sequence body) false [], c))
      else if c.startsWith "(" then do
        let (body, c) ← parseList n [")"] (c.drop 1)
        let c := c.skipNewlines
        if c.startsWith ")" then pure (some (.group (.sequence body) true [], c.drop 1))
        else .error (unexpected c)
      else pure none
    match ← compound with
    | some (cmd, c) =>
      let (redirs, c) ← readRedirects n c []
      if redirs.isEmpty then .ok (cmd, c)
      else match cmd with
        | .group body sub [] => .ok (.group body sub redirs, c)
        | _ => .ok (.group cmd false redirs, c)
    | none =>
      if closingWords.contains w || c.rest.isEmpty then .error (unexpected c)
      else
        let (cmd, c') ← readSimple (c.rest.length + 1) c [] [] [] c.line
        match cmd with
        | .simple [] [] [] _ => .error (unexpected c')
        | _ => .ok (cmd, c')

/-- Reads the rest of an `if` command after the word `if`. -/
def parseIf : Nat → Cursor → Except String (Command × Cursor)
  | 0, c => .error (unexpected c)
  | n + 1, c => do
    let (cond, c) ← parseList n ["then"] c
    let c ← c.expect "then"
    let (body, c) ← parseList n ["elif", "else", "fi"] c
    let c := c.skipBlanks
    if c.atWord "elif" then
      let (rest, c) ← parseIf n (c.drop 4)
      match rest with
      | .ifThen branches otherwise =>
        .ok (.ifThen ((.sequence cond, .sequence body) :: branches) otherwise, c)
      | other => .ok (.ifThen [(.sequence cond, .sequence body)] (some other), c)
    else if c.atWord "else" then
      let (other, c) ← parseList n ["fi"] (c.drop 4)
      let c ← c.expect "fi"
      .ok (.ifThen [(.sequence cond, .sequence body)] (some (.sequence other)), c)
    else
      let c ← c.expect "fi"
      .ok (.ifThen [(.sequence cond, .sequence body)] none, c)

/-- Reads the rest of a `for` command after the word `for`. -/
def parseFor : Nat → Cursor → Except String (Command × Cursor)
  | 0, c => .error (unexpected c)
  | n + 1, c => do
    let c := c.skipBlanks
    let name := c.peekWord
    if !isName name then .error (unexpected c)
    else
      let c := (c.drop name.length).skipNewlines
      let (items, c) ← if c.atWord "in" then do
          let (ws, c) ← readWords (c.rest.length + 1) (c.drop 2) [';'] []
          pure (some ws, c)
        else pure (none, c)
      let c := c.skipSeparators
      let c ← c.expect "do"
      let (body, c) ← parseList n ["done"] c
      let c ← c.expect "done"
      .ok (.forIn name items (.sequence body), c)

/-- Reads the rest of a `while` or `until` command after its first word. -/
def parseLoop : Nat → Cursor → Bool → Except String (Command × Cursor)
  | 0, c, _ => .error (unexpected c)
  | n + 1, c, negate => do
    let (cond, c) ← parseList n ["do"] c
    let c ← c.expect "do"
    let (body, c) ← parseList n ["done"] c
    let c ← c.expect "done"
    .ok (.loop (.sequence cond) (.sequence body) negate, c)

/-- Reads the rest of a `case` command after the word `case`. -/
def parseCase : Nat → Cursor → Except String (Command × Cursor)
  | 0, c => .error (unexpected c)
  | n + 1, c => do
    let c := c.skipBlanks
    let (subject, c) ← c.word
    let c := c.skipNewlines
    let c ← c.expect "in"
    let (arms, c) ← parseArms n c
    let c ← c.expect "esac"
    .ok (.caseOf subject arms, c)

/-- Reads the arms of a `case` command up to `esac`. -/
def parseArms : Nat → Cursor → Except String (List (List Word × Command) × Cursor)
  | 0, c => .error (unexpected c)
  | n + 1, c => do
    let c := c.skipNewlines
    if c.atWord "esac" || c.rest.isEmpty then .ok ([], c)
    else
      let c := if c.startsWith "(" then (c.drop 1).skipBlanks else c
      let (pats, c) ← readPatterns n c []
      let c := c.skipBlanks
      if !c.startsWith ")" then .error (unexpected c)
      else
        let (body, c) ← parseList n [";;", "esac"] (c.drop 1)
        let c := c.skipNewlines
        let c := if c.startsWith ";;" then c.drop 2 else c
        let (more, c) ← parseArms n c
        .ok ((pats, .sequence body) :: more, c)

/-- Reads the patterns of a `case` arm, separated by `|`, up to `)`. -/
def readPatterns : Nat → Cursor → List Word → Except String (List Word × Cursor)
  | 0, c, _ => .error (unexpected c)
  | n + 1, c, acc => do
    let c := c.skipBlanks
    let (w, c) ← c.word
    if w.isEmpty then .error (unexpected c)
    else
      let c := c.skipBlanks
      if c.startsWith "|" then readPatterns n (c.drop 1) (acc ++ [w])
      else .ok (acc ++ [w], c)

end

/-- Reads the and-or lists of one line, after a first one has been read. -/
def lineRest : Nat → Cursor → List Command → Except String (List Command × Cursor)
  | 0, c, acc => .ok (acc, c)
  | n + 1, c, acc => do
    let c := c.skipBlanks
    if c.peek == some '\n' then .ok (acc, c.newline)
    else if c.rest.isEmpty then .ok (acc, c)
    else if (c.startsWith ";" && !c.startsWith ";;") || (c.startsWith "&" && !c.startsWith "&&") then
      let c := (c.drop 1).skipBlanks
      if c.peek == some '\n' then .ok (acc, c.newline)
      else if c.rest.isEmpty then .ok (acc, c)
      else
        let (cmd, c) ← parseAndOr (4 * c.rest.length + 16) c
        lineRest n c (acc ++ [cmd])
    else .error (unexpected c)

/-- The next complete command of a script: the and-or lists of its next non-empty line (a
compound command may span lines), or none at the end. A syntax error carries the line where the
command began. -/
def nextCommands (c : Cursor) : Except (Nat × String) (Option (List Command × Cursor)) :=
  let c := c.skipNewlines
  if c.rest.isEmpty then .ok none
  else
    match parseAndOr (4 * c.rest.length + 16) c with
    | .error m => .error (c.line, m)
    | .ok (cmd, c') =>
      match lineRest (c'.rest.length + 1) c' [cmd] with
      | .ok (cmds, c'') => .ok (some (cmds, c''))
      | .error m => .error (c.line, m)

/-- A whole script, or its syntax error. -/
def parseScript (src : String) : Except String Command := do
  let c : Cursor := { rest := src.toList }
  let (cmds, c) ← parseList (4 * src.length + 16) [] c
  let c := c.skipSeparators
  if c.rest.isEmpty then pure (.sequence cmds) else .error (unexpected c)

end PredictorSweep.Shell
