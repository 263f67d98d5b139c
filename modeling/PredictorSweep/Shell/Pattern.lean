import PredictorSweep.Shell.Syntax
/-!
# Shell patterns

A `case` pattern fits a whole text. `*` fits any run of characters, `?` any one character,
and a bracket expression `[...]` one character from a set of characters and ranges, or, after
`!` or `^`, one character outside it. Quoted characters, and a bracket with no closing `]`, match
themselves only.

Main definitions:

- `Glob`: the pieces of a pattern;
- `Glob.ofPieces`: a pattern from text pieces, each literal or not;
- `Glob.fits`.
-/

namespace PredictorSweep.Shell

/-- A piece of a pattern. -/
inductive Glob where
  /-- This character only. -/
  | lit (c : Char)
  /-- Any one character. -/
  | one
  /-- Any run of characters. -/
  | star
  /-- One character in (or, when `negated`, outside) the ranges. -/
  | set (ranges : List (Char × Char)) (negated : Bool)
  deriving Repr, DecidableEq, Inhabited

namespace Glob

/-- The ranges of a bracket expression's body. -/
def ranges : List Char → List (Char × Char)
  | a :: '-' :: b :: rest => (a, b) :: ranges rest
  | a :: rest => (a, a) :: ranges rest
  | [] => []

/-- Reads the pattern characters of an unquoted text. -/
def readLoose : Nat → List Char → List Glob
  | 0, _ => []
  | _ + 1, [] => []
  | n + 1, c :: cs =>
    if c == '*' then star :: readLoose n cs
    else if c == '?' then one :: readLoose n cs
    else if c == '\\' then
      match cs with
      | d :: ds => lit d :: readLoose n ds
      | [] => [lit '\\']
    else if c == '[' then
      let (negated, body) := match cs with
        | '!' :: r | '^' :: r => (true, r)
        | r => (false, r)
      -- a `]` first in the set is one of its characters
      let (first, body') := match body with
        | ']' :: r => ([']'], r)
        | r => ([], r)
      let inside := body'.takeWhile (· ≠ ']')
      match body'.dropWhile (· ≠ ']') with
      | _ :: rest => set (ranges (first ++ inside)) negated :: readLoose n rest
      | [] => lit '[' :: readLoose n cs
    else lit c :: readLoose n cs

/-- A pattern from text pieces; a piece marked literal fits itself only. -/
def ofPieces (pieces : List (String × Bool)) : List Glob :=
  pieces.flatMap fun (s, literal) =>
    if literal then s.toList.map lit else readLoose (s.length + 1) s.toList

/-- Whether a character is in a set of ranges. -/
def inRanges (rs : List (Char × Char)) (c : Char) : Bool :=
  rs.any fun (a, b) => a ≤ c && c ≤ b

/-- Whether a pattern fits a whole text. -/
def fits : List Glob → List Char → Bool
  | [], s => s.isEmpty
  | star :: ps, s => (List.range (s.length + 1)).any fun i => fits ps (s.drop i)
  | one :: ps, _ :: s => fits ps s
  | lit d :: ps, c :: s => c == d && fits ps s
  | set rs neg :: ps, c :: s => (inRanges rs c != neg) && fits ps s
  | _ :: _, [] => false

end Glob

end PredictorSweep.Shell
