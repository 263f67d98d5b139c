import PredictorSweep.Files.Tree
/-!
# The `test` command

`test` (also written `[ ... ]`) decides a condition from its arguments, by their number: none is
false; one is true when not empty; two are `!` and a text, or a unary test on a text or a path;
three are a binary test, or `!` before two, or a parenthesized one; four are `!` before three.
Texts compare with `=` and `!=`, integers with `-eq -ne -lt -le -gt -ge`; `-n` and `-z` ask
whether a text is empty, and `-e -f -d -x -s -r -w` what a path names.

Main definitions:

- `Condition.holds`: the truth of the arguments, or the complaint.
-/

namespace PredictorSweep.Shell.Condition

/-- Reads an integer operand. -/
def integer (s : String) : Except String Int :=
  let t := String.ofList (s.toList.dropWhile (· == ' '))
  match t.toInt? with
  | some v => .ok v
  | none => .error ("Illegal number: " ++ s)

/-- A unary test on a text or a path. -/
def unary (files : FileTree) (op arg : String) : Option Bool :=
  let entry := match files.stat arg with | .ok e => some e | .error _ => none
  match op with
  | "-n" => some !arg.isEmpty
  | "-z" => some arg.isEmpty
  | "-e" | "-r" | "-w" => some entry.isSome
  | "-f" => some (match entry with | some (.file ..) => true | _ => false)
  | "-d" => some (match entry with | some .dir => true | _ => false)
  | "-x" => some (match entry with | some (.file _ x) => x | some .dir => true | _ => false)
  | "-s" => some (match entry with | some (.file c _) => !c.isEmpty | some .dir => true | _ => false)
  | "-L" | "-h" => some (match files.lookup arg false with
      | .ok (_, some (.link _)) => true
      | _ => false)
  | _ => none

/-- A binary test. -/
def binary (a op b : String) : Option (Except String Bool) :=
  let num (f : Int → Int → Bool) : Except String Bool := do
    let x ← integer a
    let y ← integer b
    pure (f x y)
  match op with
  | "=" | "==" => some (.ok (a == b))
  | "!=" => some (.ok (a != b))
  | "-eq" => some (num (· == ·)) | "-ne" => some (num (· != ·))
  | "-lt" => some (num (· < ·)) | "-le" => some (num (· ≤ ·))
  | "-gt" => some (num (· > ·)) | "-ge" => some (num (· ≥ ·))
  | _ => none

/-- The truth of `test`'s arguments, or the complaint. -/
def holds (files : FileTree) : List String → Except String Bool
  | [] => .ok false
  | [a] => .ok !a.isEmpty
  | ["!", a] => .ok a.isEmpty
  | [op, a] =>
    match unary files op a with
    | some v => .ok v
    | none => .error (op ++ ": unexpected operator")
  | [a, op, b] =>
    match binary a op b with
    | some r => r
    | none =>
      if a == "!" then
        match unary files op b with
        | some v => .ok !v
        | none => .error (op ++ ": unexpected operator")
      else if a == "(" && b == ")" then .ok !op.isEmpty
      else .error (op ++ ": unexpected operator")
  | ["!", a, op, b] =>
    match binary a op b with
    | some r => (fun v => !v) <$> r
    | none => .error (op ++ ": unexpected operator")
  | _ => .error "too many arguments"

end PredictorSweep.Shell.Condition
