import PredictorSweep.Path
import PredictorSweep.Failure
/-!
# A working directory

The files a sweep reads and writes live in one working directory, held as a tree of entries: a
regular file with its content and whether it may be run, a directory, or a symbolic link with
its target. Each entry is stored under its clean path relative to the working directory; the
working directory itself is the empty path and is always a directory.

A path is looked up name by name. A link met on the way is replaced by the entry its target
names (the target read relative to the link's directory); a link in the last place is followed
only when asked. A missing name on the way is "no such file or directory", a file on the way "not
a directory", and more than a fixed number of links "too many levels of symbolic links".

The operations are those of a program on its files, each failing with the operation's name, the
path as given, and the cause: reading a file or a directory, making a directory and its parents,
creating a file (or replacing its content), asking what a path names, and checking that a path
names a program that may be run.

Main definitions:

- `Entry`, `FileTree`, `Errno`, `FileError`;
- `FileTree.walk`: the entry a path names;
- `FileTree.readFile`, `FileTree.readDir`, `FileTree.mkdirAll`, `FileTree.create`,
  `FileTree.stat`, `FileTree.program`;
- `FileTree.changedFiles`, `FileTree.dirs`: what a run left behind.
-/

namespace PredictorSweep

/-- What a path names. -/
inductive Entry where
  /-- A regular file: its content, and whether it may be run. -/
  | file (content : String) (executable : Bool)
  /-- A directory. -/
  | dir
  /-- A symbolic link to a target path. -/
  | link (target : String)
  deriving Repr, DecidableEq, Inhabited

/-- Why an operation on a path failed. -/
inductive Errno where
  /-- A name on the way, or the last, does not exist. -/
  | notFound
  /-- A name on the way is not a directory. -/
  | notDirectory
  /-- A file operation met a directory. -/
  | isDirectory
  /-- The entry may not be run. -/
  | permissionDenied
  /-- The entry to make exists already. -/
  | alreadyExists
  /-- Links lead to links too many times. -/
  | tooManyLinks
  /-- The directory holds entries. -/
  | notEmpty
  deriving Repr, DecidableEq, Inhabited

/-- The text of a cause. -/
def Errno.text : Errno → String
  | .notFound => "no such file or directory"
  | .notDirectory => "not a directory"
  | .isDirectory => "is a directory"
  | .permissionDenied => "permission denied"
  | .alreadyExists => "file exists"
  | .tooManyLinks => "too many levels of symbolic links"
  | .notEmpty => "directory not empty"

/-- A failed operation: its name, the path as given, and the cause. -/
structure FileError where
  /-- The operation, such as `open` or `mkdir`. -/
  op : String
  /-- The path as the caller gave it. -/
  path : String
  /-- The cause. -/
  errno : Errno
  deriving Repr, DecidableEq, Inhabited

/-- The text `op path: cause`. -/
def FileError.message (e : FileError) : String :=
  e.op ++ " " ++ e.path ++ ": " ++ e.errno.text

/-- The classes of a failed operation: a missing file is one that does not exist. -/
def FileError.classes (e : FileError) : List ErrorClass :=
  if e.errno == .notFound then [.notExist] else []

/-- The entries of a working directory by clean relative path. -/
structure FileTree where
  /-- The entries other than the working directory itself, each path once. -/
  entries : List (String × Entry) := []
  deriving Repr, Inhabited

/-- The most links a lookup follows. -/
def linkLimit : Nat := 40

/-- A name below a directory path, the working directory being the empty path. -/
def childPath (parent name : String) : String :=
  if parent.isEmpty then name else parent ++ "/" ++ name

/-- The names of a path, after cleaning; the working directory has none. -/
def pathNames (p : String) : List String :=
  let c := Path.clean p
  if c == "." then [] else c.splitOn "/"

/-- The directory part of a stored path. -/
def parentPath (p : String) : String :=
  match (p.splitOn "/").dropLast with
  | [] => ""
  | ns => "/".intercalate ns

namespace FileTree

/-- The entry stored under a clean path; the working directory is a directory. -/
def find? (t : FileTree) (p : String) : Option Entry :=
  if p.isEmpty then some .dir else (t.entries.find? (·.1 == p)).map (·.2)

/-- The tree with an entry stored under a clean path, replacing what was there. -/
def put (t : FileTree) (p : String) (e : Entry) : FileTree :=
  if t.entries.any (·.1 == p) then ⟨t.entries.map fun (q, x) => if q == p then (q, e) else (q, x)⟩
  else ⟨t.entries ++ [(p, e)]⟩

/-- The path a link's target names, from the directory that holds the link. -/
def linkNames (linkDir target : String) : List String :=
  if target.startsWith "/" then pathNames target
  else pathNames (childPath linkDir target)

/-- The stored path and entry that a path names, starting in the directory `here`: the entry is
absent when only the last name is missing. Links on the way are followed, and the last one when
`follow` holds. -/
def walk (t : FileTree) : Nat → String → List String → Bool →
    Except Errno (String × Option Entry)
  | 0, _, _, _ => .error .tooManyLinks
  | _ + 1, here, [], _ => .ok (here, some .dir)
  | fuel + 1, here, [name], follow =>
    if name == ".." then .error .notFound
    else
      let p := childPath here name
      match t.find? p with
      | none => .ok (p, none)
      | some (.link target) =>
        if follow then walk t fuel "" (linkNames here target) true else .ok (p, some (.link target))
      | some e => .ok (p, some e)
  | fuel + 1, here, name :: rest, follow =>
    if name == ".." then .error .notFound
    else
      let p := childPath here name
      match t.find? p with
      | none => .error .notFound
      | some .dir => walk t fuel p rest follow
      | some (.file ..) => .error .notDirectory
      | some (.link target) =>
        match walk t fuel "" (linkNames here target) true with
        | .ok (q, some .dir) => walk t fuel q rest follow
        | .ok (_, some _) => .error .notDirectory
        | .ok (_, none) => .error .notFound
        | .error e => .error e

/-- The stored path and entry a path names. -/
def lookup (t : FileTree) (p : String) (follow : Bool := true) :
    Except Errno (String × Option Entry) :=
  walk t (linkLimit + (pathNames p).length + 1) "" (pathNames p) follow

/-- The content of a file. -/
def readFile (t : FileTree) (p : String) : Except FileError String :=
  match t.lookup p with
  | .error e => .error ⟨"open", p, e⟩
  | .ok (_, none) => .error ⟨"open", p, .notFound⟩
  | .ok (_, some .dir) => .error ⟨"read", p, .isDirectory⟩
  | .ok (_, some (.file c _)) => .ok c
  | .ok (_, some (.link _)) => .error ⟨"open", p, .tooManyLinks⟩

/-- The names and entries directly in a stored directory path, sorted by name. -/
def children (t : FileTree) (d : String) : List (String × Entry) :=
  let below := t.entries.filterMap fun (q, e) =>
    if parentPath q == d && !(q == d) then some ((q.splitOn "/").getLastD "", e) else none
  below.mergeSort fun a b => decide (a.1 ≤ b.1)

/-- The entries of a directory, sorted by name; a link in the directory is listed as a link. -/
def readDir (t : FileTree) (p : String) : Except FileError (List (String × Entry)) :=
  match t.lookup p with
  | .error e => .error ⟨"open", p, e⟩
  | .ok (_, none) => .error ⟨"open", p, .notFound⟩
  | .ok (d, some .dir) => .ok (t.children d)
  | .ok (_, some _) => .error ⟨"readdirent", p, .notDirectory⟩

/-- What a path names, links followed. -/
def stat (t : FileTree) (p : String) : Except FileError Entry :=
  match t.lookup p with
  | .error e => .error ⟨"stat", p, e⟩
  | .ok (_, none) => .error ⟨"stat", p, .notFound⟩
  | .ok (_, some e) => .ok e

/-- Makes one directory whose parent exists. A directory there already is not an error. -/
def mkdir (t : FileTree) (p : String) : Except FileError FileTree :=
  match t.lookup p false with
  | .error e => .error ⟨"mkdir", p, e⟩
  | .ok (q, none) => .ok (t.put q .dir)
  | .ok (_, some .dir) => .ok t
  | .ok (_, some (.link _)) =>
    match t.lookup p with
    | .ok (_, some .dir) => .ok t
    | _ => .error ⟨"mkdir", p, .alreadyExists⟩
  | .ok (_, some _) => .error ⟨"mkdir", p, .alreadyExists⟩

/-- The text before the last name of a path and its separator, found as a program does: trailing
separators are skipped, then the name. -/
def parentText (p : String) : String :=
  let cs := (p.toList.reverse.dropWhile (· = '/')).dropWhile (· ≠ '/')
  String.ofList (cs.drop 1).reverse

/-- Makes a directory and any missing parents. A path that names something other than a
directory fails as "not a directory"; a parent that cannot be made fails with its own path. -/
def mkdirAllFuel (t : FileTree) : Nat → String → Except FileError FileTree
  | 0, p => t.mkdir p
  | fuel + 1, p =>
    match t.stat p with
    | .ok .dir => .ok t
    | .ok _ => .error ⟨"mkdir", p, .notDirectory⟩
    | .error _ =>
      let parent := parentText p
      let made := if parent.isEmpty then .ok t else mkdirAllFuel t fuel parent
      match made with
      | .error e => .error e
      | .ok t' => t'.mkdir p

/-- Makes a directory and any missing parents. -/
def mkdirAll (t : FileTree) (p : String) : Except FileError FileTree :=
  t.mkdirAllFuel p.length p

/-- Creates a file, or replaces the content of an existing one, keeping whether it may be run. -/
def create (t : FileTree) (p : String) (content : String) : Except FileError FileTree :=
  match t.lookup p with
  | .error e => .error ⟨"open", p, e⟩
  | .ok (q, none) => .ok (t.put q (.file content false))
  | .ok (_, some .dir) => .error ⟨"open", p, .isDirectory⟩
  | .ok (q, some (.file _ x)) => .ok (t.put q (.file content x))
  | .ok (_, some (.link _)) => .error ⟨"open", p, .tooManyLinks⟩

/-- The content of a program to run: the path must name a file that may be run. The failure is
named `fork/exec`. -/
def program (t : FileTree) (p : String) : Except FileError String :=
  match t.lookup p with
  | .error e => .error ⟨"fork/exec", p, e⟩
  | .ok (_, none) => .error ⟨"fork/exec", p, .notFound⟩
  | .ok (_, some (.file c true)) => .ok c
  | .ok (_, some _) => .error ⟨"fork/exec", p, .permissionDenied⟩

/-- The tree with a file stored under a path, its parent directories made. -/
def withFile (t : FileTree) (p content : String) (executable : Bool) : FileTree :=
  let names := pathNames p
  let parents := (List.range (names.length - 1)).map fun n => "/".intercalate (names.take (n + 1))
  let t := parents.foldl (fun t d => if (t.find? d).isSome then t else t.put d .dir) t
  if names.isEmpty then t else t.put ("/".intercalate names) (.file content executable)

/-- The tree with a directory and its parents. -/
def withDir (t : FileTree) (p : String) : FileTree :=
  let names := pathNames p
  (List.range names.length).foldl (fun t n =>
    let d := "/".intercalate (names.take (n + 1))
    if (t.find? d).isSome then t else t.put d .dir) t

/-- The tree with a link to `target`, its parent directories made. -/
def withLink (t : FileTree) (p target : String) : FileTree :=
  let names := pathNames p
  let t := t.withDir ("/".intercalate names.dropLast)
  if names.isEmpty then t else t.put ("/".intercalate names) (.link target)

/-- The regular files by path, sorted. -/
def files (t : FileTree) : List (String × String) :=
  let fs := t.entries.filterMap fun (p, e) => match e with
    | .file c _ => some (p, c)
    | _ => none
  fs.mergeSort fun a b => decide (a.1 ≤ b.1)

/-- The files whose content differs from `before`, or that `before` lacks, sorted by path. -/
def changedFiles (before after : FileTree) : List (String × String) :=
  after.files.filter fun (p, c) => match before.find? p with
    | some (.file c' _) => c != c'
    | _ => true

/-- The directories by path, sorted. -/
def dirs (t : FileTree) : List String :=
  let ds := t.entries.filterMap fun (p, e) => match e with
    | .dir => some p
    | _ => none
  ds.mergeSort fun a b => decide (a ≤ b)

end FileTree

end PredictorSweep
