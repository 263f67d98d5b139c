/-!
# Slash-separated paths

Paths are texts of names separated by `/`. A path is made clean by a purely lexical rule: runs of
separators become one, `.` names are dropped, a `..` name removes the name before it (at the root
it is dropped, in a relative path with nothing to remove it stays), a trailing separator is
dropped, and an empty result is `.`.

Main definitions:

- `Path.clean`: the clean form of a path;
- `Path.join`: the non-empty parts joined by `/` and cleaned, or the empty text;
- `Path.base`, `Path.dir`: the last name of a path, and everything before it.
-/

namespace PredictorSweep.Path

/-- Applies one name of a path to the names kept so far, newest first. -/
def step (rooted : Bool) (kept : List String) (name : String) : List String :=
  if name = "" ∨ name = "." then kept
  else if name = ".." then
    match kept with
    | k :: rest => if k = ".." then name :: kept else rest
    | [] => if rooted then [] else [name]
  else name :: kept

/-- The clean form of a path. -/
def clean (p : String) : String :=
  if p = "" then "."
  else
    let rooted := p.startsWith "/"
    let names := (((p.toList.splitOn '/').map String.ofList).foldl (step rooted) []).reverse
    let body := "/".intercalate names
    if rooted then "/" ++ body
    else if body = "" then "." else body

/-- The non-empty parts joined by `/` and cleaned; the empty text when every part is empty. -/
def join (parts : List String) : String :=
  match parts.filter (· ≠ "") with
  | [] => ""
  | ps => clean ("/".intercalate ps)

/-- A path without its trailing separators. -/
def trimTrailing (p : String) : String :=
  String.ofList ((p.toList.reverse.dropWhile (· = '/')).reverse)

/-- The last name of a path: `.` for the empty path, `/` for the root. -/
def base (p : String) : String :=
  if p = "" then "."
  else
    let t := trimTrailing p
    if t = "" then "/"
    else String.ofList ((t.toList.reverse.takeWhile (· ≠ '/')).reverse)

/-- Everything before the last name of a path, cleaned. -/
def dir (p : String) : String :=
  clean (String.ofList ((p.toList.reverse.dropWhile (· ≠ '/')).reverse))

end PredictorSweep.Path
