import PredictorSweep.Shell.Parse
/-!
# Shell arithmetic

The text of `$((...))` is an expression over 64-bit signed integers with the operators of C and
their precedence: unary `+ - ! ~`, then `* / %`, `+ -`, `<< >>`, the comparisons, `& ^ |`,
`&& ||`, the conditional `?:`, and the assignments `= += -= *= /= %= <<= >>= &= ^= |=`, which
bind right to left. A name stands for its variable's value read as a number (unset or empty is
zero); numbers are decimal, octal after `0`, or hexadecimal after `0x`. Results wrap to 64 bits;
division and remainder go toward zero, and dividing by zero is an error.

Evaluation reads the expression once, left to right, with the variables as they stand; an
assignment changes them for what follows.

Main definitions:

- `Arith.Token`, `Arith.tokens`;
- `Arith.evaluate`: the value of an expression and the variables after it.
-/

namespace PredictorSweep.Shell.Arith

/-- A lexical piece of an expression. -/
inductive Token where
  /-- A number. -/
  | num (n : Int)
  /-- A variable name. -/
  | name (s : String)
  /-- An operator or parenthesis. -/
  | op (s : String)
  deriving Repr, DecidableEq, Inhabited

/-- The operators, longest first so that a longer one is taken before its prefix. -/
def operators : List String :=
  ["<<=", ">>=", "<<", ">>", "<=", ">=", "==", "!=", "&&", "||", "+=", "-=", "*=", "/=", "%=",
    "&=", "^=", "|=", "+", "-", "*", "/", "%", "<", ">", "&", "^", "|", "!", "~", "?", ":", "=",
    "(", ")"]

/-- Wraps an integer to 64-bit two's complement. -/
def wrap (x : Int) : Int := Int.bmod x (Nat.pow 2 64)

/-- The value of a digit in bases up to 36. -/
def digitValue (c : Char) : Nat :=
  if c.isDigit then c.toNat - '0'.toNat
  else if c.isLower then c.toNat - 'a'.toNat + 10
  else if c.isUpper then c.toNat - 'A'.toNat + 10
  else 99

/-- The value of a number's text: `0x` hexadecimal, a leading `0` octal, else decimal. -/
def numberValue (s : String) : Option Int :=
  let cs := s.toList
  let (base, ds) := match cs with
    | '0' :: 'x' :: ds | '0' :: 'X' :: ds => (16, ds)
    | '0' :: ds@(_ :: _) => (8, ds)
    | _ => (10, cs)
  if ds.isEmpty || ds.any (fun c => digitValue c ≥ base) then none
  else some (wrap (ds.foldl (fun acc c => acc * base + digitValue c) 0 : Nat))

/-- The tokens of an expression, or the text at which reading stopped. -/
def tokensFuel : Nat → List Char → List Token → Except String (List Token)
  | 0, _, acc => .ok acc.reverse
  | _ + 1, [], acc => .ok acc.reverse
  | n + 1, c :: cs, acc =>
    if c == ' ' || c == '\t' || c == '\n' then tokensFuel n cs acc
    else if c.isDigit then
      let w := (c :: cs).takeWhile Char.isAlphanum
      match numberValue (String.ofList w) with
      | some v => tokensFuel n ((c :: cs).drop w.length) (.num v :: acc)
      | none => .error (String.ofList (c :: cs))
    else if isNameStart c then
      let w := (c :: cs).takeWhile isNameChar
      tokensFuel n ((c :: cs).drop w.length) (.name (String.ofList w) :: acc)
    else match operators.find? (fun o => o.toList.isPrefixOf (c :: cs)) with
      | some o => tokensFuel n ((c :: cs).drop o.length) (.op o :: acc)
      | none => .error (String.ofList (c :: cs))

/-- The tokens of an expression. -/
def tokens (s : String) : Except String (List Token) := tokensFuel (s.length + 1) s.toList []

/-- The binary operators by precedence, loosest first (assignment and `?:` apart). -/
def binaryLevel : String → Option Nat
  | "||" => some 1 | "&&" => some 2 | "|" => some 3 | "^" => some 4 | "&" => some 5
  | "==" | "!=" => some 6
  | "<" | "<=" | ">" | ">=" => some 7
  | "<<" | ">>" => some 8
  | "+" | "-" => some 9
  | "*" | "/" | "%" => some 10
  | _ => none

/-- Applies a binary operator. -/
def applyBinary (o : String) (a b : Int) : Except String Int :=
  let bool (p : Bool) : Int := if p then 1 else 0
  match o with
  | "+" => .ok (wrap (a + b)) | "-" => .ok (wrap (a - b)) | "*" => .ok (wrap (a * b))
  | "/" => if b == 0 then .error "division by zero" else .ok (wrap (a.tdiv b))
  | "%" => if b == 0 then .error "division by zero" else .ok (wrap (a.tmod b))
  | "<<" => .ok (wrap (a * Int.pow 2 (b.toNat % 64)))
  | ">>" => .ok (a / Int.pow 2 (b.toNat % 64))
  | "<" => .ok (bool (a < b)) | "<=" => .ok (bool (a ≤ b))
  | ">" => .ok (bool (a > b)) | ">=" => .ok (bool (a ≥ b))
  | "==" => .ok (bool (a == b)) | "!=" => .ok (bool (a != b))
  | "&" => .ok (Int64.ofInt a &&& Int64.ofInt b).toInt
  | "|" => .ok (Int64.ofInt a ||| Int64.ofInt b).toInt
  | "^" => .ok (Int64.ofInt a ^^^ Int64.ofInt b).toInt
  | "&&" => .ok (bool (a != 0 && b != 0)) | "||" => .ok (bool (a != 0 || b != 0))
  | _ => .error "expecting primary"

/-- The variables of an evaluation, by name. -/
abbrev Vars := List (String × String)

/-- The value of a variable as a number; unset or empty is zero. -/
def varValue (vars : Vars) (name : String) : Except String Int :=
  match vars.lookup name with
  | none => .ok 0
  | some "" => .ok 0
  | some v =>
    let t := String.ofList ((v.toList.dropWhile (· == ' ')).reverse.dropWhile (· == ' ')).reverse
    let (neg, body) := if t.startsWith "-" then (true, t.drop 1 |>.toString) else (false, t)
    match numberValue body with
    | some n => .ok (if neg then -n else n)
    | none => .error "expecting primary"

/-- Sets a variable in the list, replacing an earlier value. -/
def setVar (vars : Vars) (name v : String) : Vars :=
  if vars.any (·.1 == name) then vars.map fun (k, x) => if k == name then (k, v) else (k, x)
  else vars ++ [(name, v)]

/-- The result of evaluating a piece: its value, the tokens after it, and the variables. -/
abbrev Step := Except String (Int × List Token × Vars)

mutual

/-- Evaluates an assignment expression (the loosest level). -/
def assignment : Nat → List Token → Vars → Step
  | 0, _, _ => .error "expecting primary"
  | n + 1, ts, vars =>
    match ts with
    | .name x :: .op o :: rest =>
      if o == "=" || (o.endsWith "=" && o.length ≥ 2 && !(["==", "!=", "<=", ">="].contains o)) then do
        let (v, rest, vars) ← assignment n rest vars
        let old ← varValue vars x
        let nv ← if o == "=" then pure v else applyBinary (o.dropEnd 1).toString old v
        .ok (nv, rest, setVar vars x (toString nv))
      else conditional n ts vars
    | _ => conditional n ts vars

/-- Evaluates a conditional expression `a ? b : c`. -/
def conditional : Nat → List Token → Vars → Step
  | 0, _, _ => .error "expecting primary"
  | n + 1, ts, vars => do
    let (c, rest, vars) ← binary n 1 ts vars
    match rest with
    | .op "?" :: rest => do
      let (a, rest, vars) ← assignment n rest vars
      match rest with
      | .op ":" :: rest => do
        let (b, rest, vars) ← conditional n rest vars
        .ok (if c != 0 then a else b, rest, vars)
      | _ => .error "expecting ':'"
    | _ => .ok (c, rest, vars)

/-- Evaluates binary operators of precedence `level` and tighter, left to right. -/
def binary : Nat → Nat → List Token → Vars → Step
  | 0, _, _, _ => .error "expecting primary"
  | n + 1, level, ts, vars =>
    if level > 10 then unary n ts vars
    else do
      let (a, rest, vars) ← binary n (level + 1) ts vars
      binaryRest n level a rest vars

/-- Continues a run of binary operators at `level` after a left operand `a`. -/
def binaryRest : Nat → Nat → Int → List Token → Vars → Step
  | 0, _, _, _, _ => .error "expecting primary"
  | n + 1, level, a, ts, vars =>
    match ts with
    | .op o :: rest =>
      if binaryLevel o == some level then do
        let (b, rest, vars) ← binary n (level + 1) rest vars
        let v ← applyBinary o a b
        binaryRest n level v rest vars
      else .ok (a, ts, vars)
    | _ => .ok (a, ts, vars)

/-- Evaluates a unary operator or a primary: a number, a name, or a parenthesized expression. -/
def unary : Nat → List Token → Vars → Step
  | 0, _, _ => .error "expecting primary"
  | n + 1, ts, vars =>
    match ts with
    | .op "-" :: rest => do
      let (v, rest, vars) ← unary n rest vars
      .ok (wrap (-v), rest, vars)
    | .op "+" :: rest => unary n rest vars
    | .op "!" :: rest => do
      let (v, rest, vars) ← unary n rest vars
      .ok (if v == 0 then 1 else 0, rest, vars)
    | .op "~" :: rest => do
      let (v, rest, vars) ← unary n rest vars
      .ok (wrap (-v - 1), rest, vars)
    | .op "(" :: rest => do
      let (v, rest, vars) ← assignment n rest vars
      match rest with
      | .op ")" :: rest => .ok (v, rest, vars)
      | _ => .error "expecting ')'"
    | .num v :: rest => .ok (v, rest, vars)
    | .name x :: rest => do
      let v ← varValue vars x
      .ok (v, rest, vars)
    | _ => .error "expecting primary"

end

/-- The value of an expression's text and the variables after it; an empty expression is zero. -/
def evaluate (src : String) (vars : Vars) : Except String (Int × Vars) := do
  let ts ← match tokens src with
    | .ok ts => pure ts
    | .error _ => .error "expecting primary"
  if ts.isEmpty then pure (0, vars)
  else
    let (v, rest, vars) ← assignment (8 * ts.length + 16) ts vars
    if rest.isEmpty then pure (v, vars) else .error "expecting EOF"

end PredictorSweep.Shell.Arith
