/-!
# Shell scripts

The jobs of a sweep are programs, and the programs a test sweep runs are small shell scripts.
This module holds the shape of such a script: words made of literal and expanded parts,
redirections, and commands built from simple commands by sequencing, `&&` and `||`, pipes,
grouping, and the `if`, `for`, `while`/`until` and `case` forms.

A word is a list of parts. Literal text records whether it was quoted, since quoted text is
neither split into fields nor read as a pattern. A parameter part names a variable or a special
parameter, and may carry a modifier such as `:-`; an arithmetic part and a command substitution
keep their source text, which is read when the word is expanded.

Main definitions:

- `Part`, `Word`, `Modifier`, `Redirect`, `Command`.
-/

namespace PredictorSweep.Shell

/-- What a parameter expansion does when the parameter is unset or empty. -/
inductive Modifier where
  /-- The parameter's value as it is. -/
  | plain
  /-- The length of the value, `${#name}`. -/
  | length
  /-- The default form `${name-word}` (or `:-` when `empty` holds): the word when unset (or
  empty). -/
  | useDefault (empty : Bool) (word : String)
  /-- The assigning form `${name=word}` (or `:=`): the word, also assigned, when unset (or
  empty). -/
  | assignDefault (empty : Bool) (word : String)
  /-- The alternative form `${name+word}` (or `:+`): the word when set (and not empty). -/
  | useAlternate (empty : Bool) (word : String)
  deriving Repr, DecidableEq, Inhabited

/-- A piece of a word. -/
inductive Part where
  /-- Literal text; quoted text is not split into fields. -/
  | text (s : String) (quoted : Bool)
  /-- A parameter: a name, a digit, or one of `#`, `@`, `*`, `?`, `$`, `!`, `-`. -/
  | param (name : String) (quoted : Bool) (modifier : Modifier)
  /-- An arithmetic expansion `$((expression))`: the expression's source. -/
  | arith (source : String) (quoted : Bool)
  /-- A command substitution `$(commands)` or a backquoted command: the commands' source. -/
  | subst (source : String) (quoted : Bool)
  deriving Repr, DecidableEq, Inhabited

/-- A word: the parts written next to each other. -/
abbrev Word := List Part

/-- A redirection of a command's input or output. -/
inductive Redirect where
  /-- Output to a file, `n>word`, or `n>>word` when `append` holds. -/
  | toFile (fd : Nat) (target : Word) (append : Bool)
  /-- Input from a file, `n<word`. -/
  | fromFile (fd : Nat) (source : Word)
  /-- A duplicated descriptor, `n>&m` or `n<&m`. -/
  | duplicate (fd : Nat) (source : Nat)
  /-- A here-document: its body, expanded unless its delimiter was quoted. -/
  | here (fd : Nat) (body : Word)
  deriving Repr, DecidableEq, Inhabited

/-- A command. -/
inductive Command where
  /-- Assignments, words and redirections, on a line of the script. -/
  | simple (assigns : List (String × Word)) (words : List Word) (redirects : List Redirect)
      (line : Nat)
  /-- Commands run in order. -/
  | sequence (cmds : List Command)
  /-- A list `first && next` or `first || next`: `true` marks `&&`. -/
  | andOr (first : Command) (rest : List (Bool × Command))
  /-- Commands joined by pipes, the status negated when `negate` holds. -/
  | pipeline (cmds : List Command) (negate : Bool)
  /-- A group `{ body; }`, or `( body )` in a subshell, with redirections. -/
  | group (body : Command) (subshell : Bool) (redirects : List Redirect)
  /-- A conditional `if cond; then body; elif ...; else ...; fi`. -/
  | ifThen (branches : List (Command × Command)) (otherwise : Option Command)
  /-- A loop `for name in words; do body; done`; without `in`, the positional parameters. -/
  | forIn (name : String) (items : Option (List Word)) (body : Command)
  /-- A loop `while cond; do body; done`, or `until` when `negate` holds. -/
  | loop (cond : Command) (body : Command) (negate : Bool)
  /-- A choice `case word in patterns) body;; ... esac`. -/
  | caseOf (subject : Word) (arms : List (List Word × Command))
  deriving Inhabited

end PredictorSweep.Shell
