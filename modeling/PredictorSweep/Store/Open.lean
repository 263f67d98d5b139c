import PredictorSweep.Store.Basic
import PredictorSweep.Files.Tree
import PredictorSweep.Text.Quoted
/-!
# Opening a store

A store lives in memory, and is empty each time it is opened, or in a directory of the working
directory, where it outlives the handle that opened it. Opening a store on disk needs a path; the
directory and its parents are made; and the directory is locked while a handle to it is open, so
a second open fails until the first handle is closed.

Main definitions:

- `StoreConfig`, `OpenError`;
- `StoreDisk`: the stores kept in a working directory;
- `StoreDisk.openStore`, `StoreDisk.closeStore`.
-/

namespace PredictorSweep

/-- Where a store lives. -/
structure StoreConfig where
  /-- The directory of a store on disk. -/
  path : String := ""
  /-- Whether the store lives in memory. -/
  inMemory : Bool := false
  deriving Repr, DecidableEq, Inhabited

/-- Why a store could not be opened. -/
inductive OpenError where
  /-- A store on disk without a path. -/
  | noPath
  /-- The store's directory could not be made. -/
  | noDirectory (path : String) (e : FileError)
  /-- The store's directory is locked by an open handle. -/
  | locked (path : String)
  deriving Repr

namespace OpenError

/-- The text of an open error. -/
def message : OpenError → String
  | noPath => "path is required for persistent store"
  | noDirectory p e => "create store directory " ++ p ++ ": " ++ e.message
  | locked p => "open badger database: Cannot acquire directory lock on " ++ Text.quote p ++
      ".  Another process is using this Badger database. error: resource temporarily unavailable"

/-- The view of an open error. -/
def toFailure : OpenError → Failure
  | e@(noDirectory _ fe) => { message := e.message, classes := fe.classes }
  | e => Failure.plain e.message

end OpenError

/-- The stores kept in a working directory: the working directory, what each store directory
holds, and the directories locked by an open handle. -/
structure StoreDisk where
  /-- The working directory. -/
  files : FileTree := {}
  /-- The contents of each store directory, by path. -/
  saved : List (String × ResultStore) := []
  /-- The store directories with an open handle. -/
  locked : List String := []
  deriving Inhabited

namespace StoreDisk

/-- Opens a store: an empty one in memory, or the contents of its directory, which is made and
locked. -/
def openStore (d : StoreDisk) (cfg : StoreConfig) : Except OpenError (StoreDisk × ResultStore) :=
  if cfg.inMemory then .ok (d, {})
  else if cfg.path == "" then .error .noPath
  else
    match d.files.mkdirAll cfg.path with
    | .error e => .error (.noDirectory cfg.path e)
    | .ok files =>
      let dir := Path.clean cfg.path
      if d.locked.contains dir then .error (.locked cfg.path)
      else
        .ok ({ d with files, locked := dir :: d.locked }, (d.saved.lookup dir).getD {})

/-- Closes a store's handle: a store on disk keeps its contents and its directory is unlocked. -/
def closeStore (d : StoreDisk) (cfg : StoreConfig) (s : ResultStore) : StoreDisk :=
  if cfg.inMemory then d
  else
    let dir := Path.clean cfg.path
    { d with saved := (dir, s) :: d.saved.filter (·.1 != dir), locked := d.locked.erase dir }

end StoreDisk

end PredictorSweep
