import Mathlib.Data.Finmap
import PredictorSweep.Proofs.Table.Lookup
/-!
# The table as a flat map

The table keeps its records family by family: a family without a table maps benchmarks to
records, a family with one maps benchmarks to sizes to records, and it keeps its missing reasons
by key. Seen from outside, it is three plain values: a finite map from keys to records, a finite
map from keys to missing reasons, and whether it is frozen. `FlatTable` is that view with the
updates written on it directly:

* recording is refused when frozen, then when `checkKey` refuses the key, and both refusals leave
  everything as it was; otherwise the key's record is set and its reason erased, and a duplicate is
  reported exactly when the key held a record;
* marking missing is refused the same way, and also when the key holds a record; otherwise the
  key's reason is set;
* freezing sets the flag.

The table stands for its flat view (`Table.Represents`): it is well formed, and its flag, its
records and its reasons read as the view's. Each update keeps this and gives the same outcome on
both sides, so after any sequence of updates from the empty table the outcomes agree and every
query the table answers (`Table.Answers`) is answered by the flat view: the record of a key (a
family without a table holds nothing at a size other than zero), the number of records (counted
family by family and benchmark by benchmark), the missing cells in strictly ascending key order,
the keys of a list holding neither a record nor a reason, and the cells in strictly ascending key
order. A strictly sorted list is fixed by its members, so these answers do not depend on the order
of the updates, nor on the order the maps are enumerated in before sorting.

Main statements:

* `Table.represents_apply`: one update on both sides;
* `Table.answers_of_represents`: the queries;
* `Table.replay_refines_flat`: any sequence of updates from the empty table.
-/

namespace PredictorSweep

/-- One update of the table. -/
inductive TableOp where
  /-- Record a cell. -/
  | record (k : Key) (r : Record)
  /-- Mark a cell missing with a reason. -/
  | markMissing (k : Key) (why : String)
  /-- Freeze the table. -/
  | freeze

/-- Applies updates in order with `step`, collecting their outcomes. -/
def replayWith {σ : Type} (step : σ → TableOp → σ × Except TableError Unit) :
    σ → List TableOp → σ × List (Except TableError Unit)
  | s, [] => (s, [])
  | s, op :: ops =>
    let (s', o) := step s op
    let (s'', os) := replayWith step s' ops
    (s'', o :: os)

/-- Two stepping functions that keep a relation and agree on every outcome keep it over any
sequence of updates, with the same outcomes. -/
theorem replayWith_sim {σ τ : Type} {step : σ → TableOp → σ × Except TableError Unit}
    {step' : τ → TableOp → τ × Except TableError Unit} {R : σ → τ → Prop}
    (h : ∀ s a op, R s a → R (step s op).1 (step' a op).1 ∧ (step s op).2 = (step' a op).2)
    (ops : List TableOp) :
    ∀ s a, R s a →
      R (replayWith step s ops).1 (replayWith step' a ops).1 ∧
        (replayWith step s ops).2 = (replayWith step' a ops).2 := by
  induction ops with
  | nil => exact fun s a hr => ⟨hr, rfl⟩
  | cons op ops ih =>
    intro s a hr
    obtain ⟨hr', hout⟩ := h s a op hr
    obtain ⟨hrest, houts⟩ := ih _ _ hr'
    exact ⟨hrest, by simp [replayWith, hout, houts]⟩

namespace Table

/-- Applies one update; freezing always succeeds. -/
def apply (t : Table) : TableOp → Table × Except TableError Unit
  | .record k r => t.record k r
  | .markMissing k why => t.markMissing k why
  | .freeze => (t.freeze, .ok ())

/-- Applies updates in order, collecting their outcomes. -/
def replay (t : Table) (ops : List TableOp) : Table × List (Except TableError Unit) :=
  replayWith apply t ops

end Table

/-- The table seen as finite maps: records by key, missing reasons by key, and the frozen flag. -/
structure FlatTable where
  /-- The record of each recorded key. -/
  cells : Finmap fun _ : Key => Record
  /-- The reason of each key marked missing. -/
  marks : Finmap fun _ : Key => String
  /-- Whether updates are refused. -/
  frozen : Bool

namespace FlatTable

/-- Nothing recorded, nothing marked, open. -/
def empty : FlatTable := ⟨∅, ∅, false⟩

/-- Records a cell: refused when frozen or for a refused key; otherwise the record is set, the
reason erased, and a duplicate reported when the key held a record. -/
def record (a : FlatTable) (k : Key) (r : Record) : FlatTable × Except TableError Unit :=
  if a.frozen then (a, .error .frozen)
  else
    match checkKey k with
    | .error e => (a, .error e)
    | .ok () =>
      ({ a with cells := a.cells.insert k r, marks := a.marks.erase k },
        if k ∈ a.cells then .error (.duplicateCell k) else .ok ())

/-- Marks a cell missing: refused when frozen, for a refused key, or for a key holding a record;
otherwise the reason is set. -/
def markMissing (a : FlatTable) (k : Key) (why : String) : FlatTable × Except TableError Unit :=
  if a.frozen then (a, .error .frozen)
  else
    match checkKey k with
    | .error e => (a, .error e)
    | .ok () =>
      if k ∈ a.cells then (a, .error (.duplicateCell k))
      else ({ a with marks := a.marks.insert k why }, .ok ())

/-- Applies one update; freezing always succeeds. -/
def apply (a : FlatTable) : TableOp → FlatTable × Except TableError Unit
  | .record k r => a.record k r
  | .markMissing k why => a.markMissing k why
  | .freeze => ({ a with frozen := true }, .ok ())

/-- Applies updates in order, collecting their outcomes. -/
def replay (a : FlatTable) (ops : List TableOp) : FlatTable × List (Except TableError Unit) :=
  replayWith apply a ops

variable {a : FlatTable} {k : Key} {r : Record} {why : String}

theorem record_of_frozen (h : a.frozen = true) : a.record k r = (a, .error .frozen) := by
  simp [record, h]

theorem record_of_checkKey_error {e : TableError} (h : a.frozen = false)
    (hk : checkKey k = .error e) : a.record k r = (a, .error e) := by
  simp [record, h, hk]

theorem record_accepted (h : a.frozen = false) (hk : checkKey k = .ok ()) :
    a.record k r =
      ({ a with cells := a.cells.insert k r, marks := a.marks.erase k },
        if k ∈ a.cells then .error (.duplicateCell k) else .ok ()) := by
  simp [record, h, hk]

theorem markMissing_of_frozen (h : a.frozen = true) :
    a.markMissing k why = (a, .error .frozen) := by
  simp [markMissing, h]

theorem markMissing_of_checkKey_error {e : TableError} (h : a.frozen = false)
    (hk : checkKey k = .error e) : a.markMissing k why = (a, .error e) := by
  simp [markMissing, h, hk]

theorem markMissing_of_mem (h : a.frozen = false) (hk : checkKey k = .ok ()) (hmem : k ∈ a.cells) :
    a.markMissing k why = (a, .error (.duplicateCell k)) := by
  simp [markMissing, h, hk, hmem]

theorem markMissing_accepted (h : a.frozen = false) (hk : checkKey k = .ok ())
    (hmem : k ∉ a.cells) :
    a.markMissing k why = ({ a with marks := a.marks.insert k why }, .ok ()) := by
  simp [markMissing, h, hk, hmem]

end FlatTable

namespace Table

variable {t : Table} {a : FlatTable}

/-- A table stands for a flat table: it is well formed, and its flag, its records and its
reasons read as the flat table's. -/
structure Represents (t : Table) (a : FlatTable) : Prop where
  /-- The table is well formed. -/
  wellFormed : t.WellFormed
  /-- Both are frozen, or neither. -/
  frozen : t.frozen = a.frozen
  /-- Every key reads the same record. -/
  find? : ∀ k, t.find? k = a.cells.lookup k
  /-- Every key reads the same reason. -/
  reason? : ∀ k, t.reason? k = a.marks.lookup k

theorem represents_empty : Represents {} FlatTable.empty :=
  ⟨wellFormed_empty, rfl, fun k => (find?_empty k).trans (Finmap.lookup_empty (β := fun _ => Record) k).symm,
    fun k => (reason?_empty k).trans (Finmap.lookup_empty (β := fun _ => String) k).symm⟩

theorem find?_isSome_iff_mem (h : Represents t a) {k : Key} :
    (t.find? k).isSome ↔ k ∈ a.cells := by
  rw [h.find? k, Finmap.lookup_isSome]

theorem represents_record (h : Represents t a) (k : Key) (r : Record) :
    Represents (t.record k r).1 (a.record k r).1 ∧ (t.record k r).2 = (a.record k r).2 := by
  cases hfz : t.frozen
  · have hfz' : a.frozen = false := h.frozen ▸ hfz
    cases hck : checkKey k with
    | error e =>
      rw [record_of_checkKey_error hfz hck, FlatTable.record_of_checkKey_error hfz' hck]
      exact ⟨h, rfl⟩
    | ok u =>
      have hk : checkKey k = .ok () := hck
      refine ⟨⟨wellFormed_record h.wellFormed, ?_, fun k' => ?_, fun k' => ?_⟩, ?_⟩
      · rw [frozen_record, FlatTable.record_accepted hfz' hk]
        exact h.frozen
      · rw [find?_record hfz hk, FlatTable.record_accepted hfz' hk]
        by_cases hk' : k' = k
        · subst hk'
          simp [Finmap.lookup_insert]
        · simp [hk', Finmap.lookup_insert_of_ne _ hk', h.find? k']
      · rw [reason?_record hfz hk, FlatTable.record_accepted hfz' hk]
        by_cases hk' : k' = k
        · subst hk'
          simp [Finmap.lookup_erase]
        · simp [hk', Finmap.lookup_erase_ne hk', h.reason? k']
      · -- a duplicate on one side is a duplicate on the other
        rw [record_outcome hfz hk, FlatTable.record_accepted hfz' hk]
        by_cases hmem : k ∈ a.cells
        · simp [hmem, (find?_isSome_iff_mem h).mpr hmem]
        · have : (t.find? k).isSome = false := by
            simpa using fun hs => hmem ((find?_isSome_iff_mem h).mp hs)
          simp [hmem, this]
  · have hfz' : a.frozen = true := h.frozen ▸ hfz
    rw [record_of_frozen hfz, FlatTable.record_of_frozen hfz']
    exact ⟨h, rfl⟩

theorem represents_markMissing (h : Represents t a) (k : Key) (why : String) :
    Represents (t.markMissing k why).1 (a.markMissing k why).1 ∧
      (t.markMissing k why).2 = (a.markMissing k why).2 := by
  cases hfz : t.frozen
  · have hfz' : a.frozen = false := h.frozen ▸ hfz
    cases hck : checkKey k with
    | error e =>
      rw [markMissing_of_checkKey_error hfz hck, FlatTable.markMissing_of_checkKey_error hfz' hck]
      exact ⟨h, rfl⟩
    | ok u =>
      have hk : checkKey k = .ok () := hck
      by_cases hmem : k ∈ a.cells
      · -- the key holds a record: refused on both sides
        rw [markMissing_of_find?_isSome hfz hk ((find?_isSome_iff_mem h).mpr hmem),
          FlatTable.markMissing_of_mem hfz' hk hmem]
        exact ⟨h, rfl⟩
      · have hfree : t.find? k = none := by
          rw [h.find? k, Finmap.lookup_eq_none]
          exact hmem
        rw [FlatTable.markMissing_accepted hfz' hk hmem]
        refine ⟨⟨wellFormed_markMissing h.wellFormed, ?_, fun k' => ?_, fun k' => ?_⟩, ?_⟩
        · rw [frozen_markMissing]
          exact h.frozen
        · rw [find?_markMissing]
          exact h.find? k'
        · rw [reason?_markMissing hfz hk hfree]
          by_cases hk' : k' = k
          · subst hk'
            simp [Finmap.lookup_insert]
          · simp [hk', Finmap.lookup_insert_of_ne _ hk', h.reason? k']
        · rw [markMissing_accepted hfz hk hfree]
  · have hfz' : a.frozen = true := h.frozen ▸ hfz
    rw [markMissing_of_frozen hfz, FlatTable.markMissing_of_frozen hfz']
    exact ⟨h, rfl⟩

theorem represents_freeze (h : Represents t a) :
    Represents t.freeze { a with frozen := true } :=
  ⟨wellFormed_freeze h.wellFormed, rfl, h.find?, h.reason?⟩

/-- One update keeps a table standing for its flat view, with the same outcome on both sides. -/
theorem represents_apply (h : Represents t a) (op : TableOp) :
    Represents (t.apply op).1 (a.apply op).1 ∧ (t.apply op).2 = (a.apply op).2 := by
  cases op with
  | record k r => exact represents_record h k r
  | markMissing k why => exact represents_markMissing h k why
  | freeze => exact ⟨represents_freeze h, rfl⟩

/-! ## Queries -/

/-- The queries of the table, answered by a flat table. -/
structure Answers (t : Table) (a : FlatTable) : Prop where
  /-- Whether the table is frozen. -/
  frozen : t.frozen = a.frozen
  /-- The record of a key. -/
  find? : ∀ k, t.find? k = a.cells.lookup k
  /-- The number of records is the number of recorded keys. -/
  size : t.size = a.cells.keys.card
  /-- The missing cells are in strictly ascending key order ... -/
  missing_sorted : t.missing.Pairwise fun m m' => m.key.lt m'.key = true
  /-- ... and are exactly the reasons of the flat table ... -/
  mem_missing : ∀ m, m ∈ t.missing ↔ a.marks.lookup m.key = some m.reason
  /-- ... so sorting the reasons listed in any order gives them. -/
  missing_of_enum : ∀ ms : List MissingCell, ms.Nodup →
    (∀ m, m ∈ ms ↔ a.marks.lookup m.key = some m.reason) → sortByKey (·.key) ms = t.missing
  /-- The keys of a list with neither a record nor a reason, in order. -/
  incomplete : ∀ ks, t.incomplete ks = ks.filter fun k => k ∉ a.cells ∧ k ∉ a.marks
  /-- The cells are in strictly ascending key order ... -/
  cellList_sorted : t.cellList.Pairwise fun c c' => c.key.lt c'.key = true
  /-- ... and are exactly the records of the flat table ... -/
  mem_cellList : ∀ c, c ∈ t.cellList ↔ a.cells.lookup c.key = some c.record
  /-- ... so sorting the records listed in any order gives them. -/
  cellList_of_enum : ∀ cs : List Cell, cs.Nodup →
    (∀ c, c ∈ cs ↔ a.cells.lookup c.key = some c.record) → sortByKey (·.key) cs = t.cellList

/-- A listing without repeats of the entries of a map names each key once, since a map holds one
value at a key. -/
theorem nodup_keys_of_lookup {α : Type} {β : Type} {key : α → Key} {val : α → β}
    {m : Finmap fun _ : Key => β} {xs : List α} (hext : ∀ x y, key x = key y → val x = val y → x = y)
    (hnodup : xs.Nodup) (hmem : ∀ x, x ∈ xs ↔ m.lookup (key x) = some (val x)) :
    (xs.map key).Nodup := by
  refine hnodup.map_on fun x hx y hy hkey => hext x y hkey ?_
  have hx' := (hmem x).mp hx
  rw [hkey, (hmem y).mp hy] at hx'
  exact (Option.some.inj hx').symm

theorem answers_of_represents (h : Represents t a) : Answers t a := by
  have hwf := h.wellFormed
  -- a key read in the flat view was accepted, so it names a family
  have hknown_cell (c : Cell) (hc : a.cells.lookup c.key = some c.record) : c.key.Known := by
    refine Key.known_of_checkKey (hwf.cells_valid c.key ?_)
    rw [h.find?, hc]
    rfl
  have hknown_mark (m : MissingCell) (hm : a.marks.lookup m.key = some m.reason) : m.key.Known := by
    refine Key.known_of_checkKey (hwf.marks_valid m.key ?_)
    rw [h.reason?, hm]
    rfl
  have hmem_missing (m : MissingCell) : m ∈ t.missing ↔ a.marks.lookup m.key = some m.reason := by
    rw [missing, mem_sortByKey, mem_marks_iff, h.reason?]
  have hmem_cellList (c : Cell) : c ∈ t.cellList ↔ a.cells.lookup c.key = some c.record := by
    rw [cellList_eq, mem_sortByKey, mem_cells_iff, h.find?]
  refine ⟨h.frozen, h.find?, ?_, missing_pairwise hwf, hmem_missing, fun ms hms hmem => ?_,
    fun ks => ?_, t.cellList_pairwise, hmem_cellList, fun cs hcs hmem => ?_⟩
  · -- the recorded keys are the distinct keys of the cells
    have hkeys : a.cells.keys = (t.cells.map (·.key)).toFinset := by
      ext k
      rw [Finmap.mem_keys, List.mem_toFinset, ← find?_isSome_iff, find?_isSome_iff_mem h]
    rw [hkeys, List.toFinset_card_of_nodup t.cells_nodup, List.length_map, size_eq_length_cells]
  · refine sortByKey_eq_of_mem_iff (fun m hm => hknown_mark m ((hmem m).mp hm))
      (nodup_keys_of_lookup (fun ⟨_, _⟩ ⟨_, _⟩ hk hr => by cases hk; cases hr; rfl) hms hmem)
      (missing_pairwise hwf) fun m => ?_
    rw [hmem, hmem_missing]
  · unfold incomplete
    refine List.filter_congr fun k _ => ?_
    rw [h.find? k, h.reason? k]
    cases hc : a.cells.lookup k <;> cases hm : a.marks.lookup k <;>
      simp [← Finmap.lookup_isSome, hc, hm]
  · refine sortByKey_eq_of_mem_iff (fun c hc => hknown_cell c ((hmem c).mp hc))
      (nodup_keys_of_lookup (fun ⟨_, _⟩ ⟨_, _⟩ hk hr => by cases hk; cases hr; rfl) hcs hmem)
      t.cellList_pairwise fun c => ?_
    rw [hmem, hmem_cellList]

/-- Every sequence of updates from the empty table keeps it standing for the flat view, with the
same outcomes. -/
theorem represents_replay (ops : List TableOp) :
    Represents (Table.replay {} ops).1 (FlatTable.replay .empty ops).1 ∧
      (Table.replay {} ops).2 = (FlatTable.replay .empty ops).2 :=
  @replayWith_sim Table FlatTable Table.apply FlatTable.apply Represents
    (fun _ _ op h => represents_apply h op) ops {} FlatTable.empty represents_empty

/-- After any sequence of updates from the empty table, the table and its flat view report the same
outcomes, and the table answers every query as the flat view does. -/
theorem replay_refines_flat (ops : List TableOp) :
    (Table.replay {} ops).2 = (FlatTable.replay .empty ops).2 ∧
      (Table.replay {} ops).1.Answers (FlatTable.replay .empty ops).1 := by
  obtain ⟨hrep, hout⟩ := represents_replay ops
  exact ⟨hout, answers_of_represents hrep⟩

end Table

end PredictorSweep
