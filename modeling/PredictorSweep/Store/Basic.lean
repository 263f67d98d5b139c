import PredictorSweep.Sweep.Job
import PredictorSweep.Report.Metric
import PredictorSweep.Time.Stamp
import PredictorSweep.Context
import PredictorSweep.Failure
import PredictorSweep.Store.Database
/-!
# The result store

Finished cells are kept in a store so that a later sweep can reuse them. Each entry holds the
cell, the command line that produced it, the run that stored it, when it was stored, and the
record. The store keeps its entries in a database of values under byte-string keys
(`KeyValueMap`), and is written here for any such database; the program's own store keeps them in
an `ItemList`.

An entry is filed under `record/` followed by the written form of its cell, so two cells written
alike share one place, and a later entry replaces an earlier one. It is kept as JSON: a record
value that is not a finite number cannot be written, and a command line goes in as text, so each
of its bytes that starts no character comes back as the replacement character `U+FFFD`
(`StoreEntry.viaJson`). An entry stored without a time is stamped with the time of storing, which
is not known here; it is kept as "stamped when stored" (`StoreEntry.asStored`).

Every operation needs a context and refuses one that is done ("context cancelled: ..."). Looking
up a job finds its cell's entry only if the entry holds the job's command line. Listing gives
every entry filed under `record/`, sorted by cell.

Main definitions:

- `StoreEntry`, `StoreError`, `Store`, `ResultStore`;
- `Store.put`, `Store.get`, `Store.lookup`, `Store.delete`, `Store.all`.
-/

namespace PredictorSweep

/-- A stored result. -/
structure StoreEntry where
  /-- The cell. -/
  key : Key
  /-- The command line that produced the record. -/
  command : Bytes
  /-- The run that stored it. -/
  runId : String := ""
  /-- When it was stored; none when stamped at the time of storing. -/
  storedAt : Option Stamp := none
  /-- The metrics. -/
  record : Record
  deriving Inhabited

/-- Why a store operation failed. -/
inductive StoreError where
  /-- No context was given. -/
  | absentContext
  /-- The context was done, with its error. -/
  | contextDone (err : String)
  /-- No entry is filed for the cell. -/
  | notFound (key : Key)
  /-- The entry holds a value that cannot be written as data, by its written form. -/
  | unwritable (key : Key) (value : String)
  /-- Storing the entry failed. -/
  | unstored (key : Key) (cause : StoreError)
  deriving Repr, Inhabited

namespace StoreError

/-- The text of a store error. -/
def message : StoreError → String
  | absentContext => RunContext.absentMessage
  | contextDone e => "context cancelled: " ++ e
  | notFound k => "record not found: " ++ k.render
  | unwritable k v => "encode entry " ++ k.render ++ ": json: unsupported value: " ++ v
  | unstored k e => "store entry " ++ k.render ++ ": " ++ e.message

/-- The classes of a store error: only a missing entry has one. -/
def classes : StoreError → List ErrorClass
  | notFound _ => [.notFound]
  | unstored _ e => e.classes
  | _ => []

/-- The view of a store error. -/
def toFailure (e : StoreError) : Failure := { message := e.message, classes := e.classes }

end StoreError

/-- The place an entry for a cell is filed under. -/
def storageName (k : Key) : String := "record/" ++ k.render

/-- The written form of a value that cannot be written as data, if it is one. -/
def unwritableValue (x : Float) : Option String :=
  if x.isNaN then some "NaN"
  else if x.isInf then some (if x > 0 then "+Inf" else "-Inf")
  else none

namespace StoreEntry

/-- The entry as JSON writes it and reads it back: the command line goes in as text, so each of its
bytes that starts no character comes back as `U+FFFD`; the cell, the run, the time and a record
of finite values come back as they were. -/
def viaJson (e : StoreEntry) : StoreEntry := { e with command := e.command.toText }

/-- The entry as the store keeps it: a zero time stamp stands for the time of storing. -/
def asStored (e : StoreEntry) : StoreEntry :=
  if e.storedAt == some Stamp.zero then { e with storedAt := none } else e

end StoreEntry

/-- The key an entry for a cell is filed under in the database. -/
def storeKey (k : Key) : Bytes := storageName k

/-- A result store over a database `D`. -/
structure Store (D : Type) where
  /-- The database holding the entries. -/
  db : D

/-- The program's result store: its entries in a list in ascending key order. -/
abbrev ResultStore : Type := Store (ItemList StoreEntry)

namespace Store

variable {D : Type} [KeyValueMap D StoreEntry]

instance : EmptyCollection (Store D) := ⟨⟨KeyValueMap.empty⟩⟩

instance : Inhabited (Store D) := ⟨{}⟩

/-- Checks the context an operation is handed. -/
def checkContext (ctx : RunContext) : Except StoreError Unit :=
  if ctx == .absent then .error .absentContext
  else match ctx.errorAt 0 with
    | some e => .error (.contextDone e)
    | none => .ok ()

/-- Stores an entry, as JSON, in place of the one filed for its cell. -/
def put (s : Store D) (ctx : RunContext) (e : StoreEntry) : Except StoreError (Store D) := do
  if ctx == .absent then throw .absentContext
  let e := e.asStored
  if let some v := e.record.sorted.findSome? (fun (_, x) => unwritableValue x) then
    throw (.unwritable e.key v)
  match checkContext ctx with
  | .error c => throw (.unstored e.key c)
  | .ok () => pure ⟨KeyValueMap.set s.db (storeKey e.key) e.viaJson⟩

/-- The entry filed for a cell. -/
def get (s : Store D) (ctx : RunContext) (k : Key) : Except StoreError StoreEntry := do
  checkContext ctx
  match KeyValueMap.get? s.db (storeKey k) with
  | some e => pure e
  | none => throw (.notFound k)

/-- The record stored for a job: found only when filed for its cell with the job's command line. -/
def lookup (s : Store D) (ctx : RunContext) (j : Job) : Except StoreError (Option Record) :=
  match s.get ctx j.key with
  | .error (.notFound _) => .ok none
  | .error e => .error e
  | .ok e => .ok (if e.command == j.commandLine then some e.record else none)

/-- Removes the entry filed for a cell, if any. -/
def delete (s : Store D) (ctx : RunContext) (k : Key) : Except StoreError (Store D) := do
  checkContext ctx
  pure ⟨KeyValueMap.delete s.db (storeKey k)⟩

/-- Every entry filed under `record/`, sorted by cell; entries whose cells are not ordered keep the
order of their keys. -/
def all (s : Store D) (ctx : RunContext) : Except StoreError (List StoreEntry) := do
  checkContext ctx
  pure (((KeyValueMap.scan s.db (Bytes.ofString "record/")).map (·.2)).mergeSort
    fun a b => !b.key.lt a.key)

end Store

end PredictorSweep
