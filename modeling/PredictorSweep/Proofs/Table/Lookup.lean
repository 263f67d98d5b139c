import Mathlib
import Std.Data.HashMap.Lemmas
import PredictorSweep.Proofs.KeyOrder
/-!
# Reading the table after an update

The table keeps its records family by family and its missing marks by key. This module says once
what a family's records read after a record is set, then, for each update of the table, what every
key reads after it, and that every update keeps the table well formed: every key holding a record
or a mark was accepted by `checkKey`, and no key holds both. The views list each record and each
mark once, under its own key.

Proved here:

* `checkKey_eq_ok_iff`: a key is accepted exactly when its family is named, its benchmark is not
  empty, and its size fits the family;
* `FamilyCells.find?_insert`, `FamilyCells.mem_cells`: one family's records after a record is
  set, and its listing;
* `Table.find?_record`, `Table.reason?_record`, `Table.find?_markMissing`,
  `Table.reason?_markMissing`: what a key reads after an accepted update;
* `Table.mem_cells_iff`, `Table.cells_nodup`, `Table.size_eq_length_cells`,
  `Table.cellList_eq`: the views, read through the keys;
* `Table.WellFormed` and `Table.wellFormed_record`, `Table.wellFormed_markMissing`,
  `Table.wellFormed_freeze`;
* `Table.size_add_length_marks`: when the recorded and marked keys of a well-formed table are
  exactly the keys of a list without repeats, the two counts add up to its length;
* `Table.cell_foldl`: a pass of updates to distinct keys, read cell by cell.
-/

namespace PredictorSweep

/-! ## Accepted keys -/

/-- A key fits the table: its family is named, its benchmark is not empty, and its size is zero
for a family without a table and a valid table size otherwise. -/
def Key.ShapeValid (k : Key) : Prop :=
  ∃ f : Family, Family.ofName? k.family = some f ∧ k.benchmark ≠ "" ∧
    if f.sized then validateSize k.size = .ok () else k.size = 0

theorem validateKey_eq_ok_iff {k : Key} {f : Family} :
    validateKey k = .ok f ↔ Family.ofName? k.family = some f ∧ k.benchmark ≠ "" ∧
      if f.sized then validateSize k.size = .ok () else k.size = 0 := by
  unfold validateKey
  rcases hf : Family.ofName? k.family with _ | g
  · simp
  · by_cases hb : k.benchmark.isEmpty
    · simp [String.isEmpty_iff.mp hb]
    · have hb' : k.benchmark ≠ "" := fun h => hb (String.isEmpty_iff.mpr h)
      cases hs : g.sized
      · by_cases hz : k.size = 0 <;> by_cases hg : g = f <;> simp_all
      · cases validateSize k.size <;> by_cases hg : g = f <;> simp_all

theorem checkKey_eq_ok_iff {k : Key} : checkKey k = .ok () ↔ k.ShapeValid := by
  unfold checkKey Key.ShapeValid
  cases hv : validateKey k with
  | error e =>
    simp only [Except.map, reduceCtorEq, false_iff, not_exists]
    intro f hf
    rw [← validateKey_eq_ok_iff, hv] at hf
    cases hf
  | ok f =>
    simp only [Except.map, true_iff]
    exact ⟨f, validateKey_eq_ok_iff.mp hv⟩

/-- A key that is accepted falls in the family its text names. -/
theorem validateKey_of_checkKey {k : Key} (h : checkKey k = .ok ()) :
    ∃ f, validateKey k = .ok f ∧ Family.ofName? k.family = some f := by
  obtain ⟨f, hshape⟩ := checkKey_eq_ok_iff.mp h
  exact ⟨f, validateKey_eq_ok_iff.mpr hshape, hshape.1⟩

theorem validateKey_of_checkKey_error {k : Key} {e : TableError} (h : checkKey k = .error e) :
    validateKey k = .error e := by
  unfold checkKey at h
  cases hv : validateKey k with
  | error e' =>
    rw [hv] at h
    cases h
    rfl
  | ok f =>
    rw [hv] at h
    cases h

theorem Key.known_of_checkKey {k : Key} (h : checkKey k = .ok ()) : k.Known := by
  obtain ⟨f, hf, -⟩ := checkKey_eq_ok_iff.mp h
  exact ⟨f, Family.name_of_ofName? hf⟩

/-- An accepted key of a family without a table has size zero. -/
theorem size_eq_zero_of_validateKey {k : Key} {f : Family} (h : validateKey k = .ok f)
    (hflat : f.sized = false) : k.size = 0 := by
  obtain ⟨-, -, hsize⟩ := validateKey_eq_ok_iff.mp h
  simpa [hflat] using hsize

/-! ## One family's records -/

/-- Listing a map's entries under a label that tells their keys apart names each label once: a
map holds one entry per key. -/
theorem nodup_map_toList {α β γ : Type} [BEq α] [Hashable α] [LawfulBEq α] (m : Std.HashMap α β)
    {g : α × β → γ} (hg : ∀ e e', g e = g e' → e.1 = e'.1) : (m.toList.map g).Nodup := by
  refine List.pairwise_map.mpr (m.distinct_keys_toList.imp fun {e e'} hne heq => ?_)
  rw [hg e e' heq, beq_self_eq_true] at hne
  cases hne

namespace FamilyCells

variable {c : FamilyCells} {b b' : String} {size size' : Int} {r : Record}

/-- Setting a record makes its benchmark and size read it, and leaves every other place as it
was; a family without a table is set at size zero. -/
theorem find?_insert (hflat : c.isSized = false → size = 0) :
    (c.insert b size r).1.find? b' size' =
      if b' = b ∧ size' = size then some r else c.find? b' size' := by
  cases c with
  | flat m =>
    rw [hflat rfl]
    by_cases hs : size' = 0
    · by_cases hb : b' = b
      · subst hb hs
        simp [insert, find?]
      · simp [insert, find?, hs, hb, Std.HashMap.getElem?_insert, Ne.symm hb]
    · simp [insert, find?, hs]
  | sized m =>
    -- a benchmark without sizes reads as one with no size set
    have hread (b'' : String) : m[b'']?.bind (·[size']?) = (m.getD b'' ∅)[size']? := by
      rw [Std.HashMap.getD_eq_getD_getElem?]
      cases m[b'']? <;> simp
    by_cases hb : b' = b
    · subst hb
      by_cases hs : size' = size
      · subst hs
        simp [insert, find?]
      · simp [insert, find?, hs, hread, Std.HashMap.getElem?_insert, Ne.symm hs]
    · simp [insert, find?, hb, Std.HashMap.getElem?_insert, Ne.symm hb]

/-- Setting a record says whether its place held one. -/
theorem insert_snd (hflat : c.isSized = false → size = 0) :
    (c.insert b size r).2 = (c.find? b size).isSome := by
  cases c with
  | flat m =>
    rw [hflat rfl]
    simp [insert, find?]
  | sized m =>
    simp only [insert, find?, Std.HashMap.contains_eq_isSome_getElem?,
      Std.HashMap.getD_eq_getD_getElem?]
    cases m[b]? <;> simp

/-- A family's listing holds exactly its records, under the family's name. -/
theorem mem_cells {name : String} {x : Cell} :
    x ∈ c.cells name ↔ x.key.family = name ∧ c.find? x.key.benchmark x.key.size = some x.record := by
  obtain ⟨⟨family, bench, xsize⟩, rec⟩ := x
  cases c with
  | flat m =>
    simp only [cells, find?, List.mem_map]
    constructor
    · rintro ⟨⟨b, v⟩, he, hx⟩
      cases hx
      exact ⟨rfl, by simpa using Std.HashMap.mem_toList_iff_getElem?_eq_some.mp he⟩
    · rintro ⟨rfl, hfind⟩
      by_cases hs : xsize = 0
      · subst hs
        exact ⟨⟨bench, rec⟩, Std.HashMap.mem_toList_iff_getElem?_eq_some.mpr (by simpa using hfind),
          rfl⟩
      · simp [hs] at hfind
  | sized m =>
    simp only [cells, find?, List.mem_flatMap, List.mem_map, Option.bind_eq_some_iff]
    constructor
    · rintro ⟨⟨b, bySize⟩, he, ⟨s, v⟩, hs, hx⟩
      cases hx
      exact ⟨rfl, bySize, Std.HashMap.mem_toList_iff_getElem?_eq_some.mp he,
        Std.HashMap.mem_toList_iff_getElem?_eq_some.mp hs⟩
    · rintro ⟨rfl, bySize, hb, hs⟩
      exact ⟨⟨bench, bySize⟩, Std.HashMap.mem_toList_iff_getElem?_eq_some.mpr hb, ⟨xsize, rec⟩,
        Std.HashMap.mem_toList_iff_getElem?_eq_some.mpr hs, rfl⟩

/-- A family's listing names each place once. -/
theorem cells_nodup (name : String) (c : FamilyCells) : ((c.cells name).map (·.key)).Nodup := by
  cases c with
  | flat m =>
    -- the benchmarks are the keys of the family's records
    rw [cells, List.map_map]
    exact nodup_map_toList m fun e e' h => (Key.mk.inj h).2.1
  | sized m =>
    -- each benchmark's sizes are the keys of its records, and the benchmarks are distinct
    have hkeys : (cells name (sized m)).map (·.key) =
        m.toList.flatMap fun e => e.2.toList.map fun s => ⟨name, e.1, s.1⟩ := by
      simp [cells, List.map_flatMap, Function.comp_def]
    rw [hkeys, List.nodup_flatMap]
    refine ⟨fun e _ => nodup_map_toList e.2 fun s s' h => (Key.mk.inj h).2.2, ?_⟩
    refine m.distinct_keys_toList.imp fun {e e'} hne => ?_
    simp only [Function.onFun, List.disjoint_left, List.mem_map]
    rintro _ ⟨s, -, rfl⟩ ⟨s', -, hs⟩
    rw [(Key.mk.inj hs).2.1, beq_self_eq_true] at hne
    cases hne

/-- Adding up along a list from `k` adds its total to `k`. -/
theorem foldl_add_eq_add_sum {α : Type} (g : α → Nat) (l : List α) (k : Nat) :
    l.foldl (fun n x => n + g x) k = k + (l.map g).sum := by
  induction l generalizing k with
  | nil => simp
  | cons x l ih => simp [ih, Nat.add_assoc]

@[simp] theorem length_cells (name : String) (c : FamilyCells) : (c.cells name).length = c.count := by
  cases c with
  | flat m => simp [count, cells]
  | sized m =>
    simp [count, cells, List.length_flatMap, Std.HashMap.fold_eq_foldl_toList, foldl_add_eq_add_sum]

@[simp] theorem find?_empty (f : Family) (b : String) (size : Int) : (empty f).find? b size = none := by
  unfold empty
  split <;> simp [find?]

end FamilyCells

namespace Table

variable {t : Table} {k k' : Key} {r : Record} {why : String}

/-! ## Updates -/

theorem find?_of_ofName? {f : Family} (hf : Family.ofName? k.family = some f) :
    t.find? k = (t.families f).find? k.benchmark k.size := by
  simp [find?, hf]

theorem record_of_frozen (h : t.frozen = true) : t.record k r = (t, .error .frozen) := by
  simp [record, h]

theorem record_of_checkKey_error {e : TableError} (h : t.frozen = false)
    (hk : checkKey k = .error e) : t.record k r = (t, .error e) := by
  simp [record, h, validateKey_of_checkKey_error hk]

/-- An accepted record sets the record of its family at its benchmark and size, and clears the
key's mark. -/
theorem record_accepted {f : Family} (h : t.frozen = false) (hf : validateKey k = .ok f) :
    t.record k r =
      ({ t.setFamily f ((t.families f).insert k.benchmark k.size r).1
          ((FamilyCells.isSized_insert ..).trans (t.shaped f)) with markers := t.markers.erase k },
        if ((t.families f).insert k.benchmark k.size r).2 then .error (.duplicateCell k)
        else .ok ()) := by
  simp [record, h, hf]

/-- A family's records are kept in the family's shape, so an accepted key of a family without a
table is set at size zero. -/
theorem flat_size_of_validateKey {f : Family} (hf : validateKey k = .ok f) :
    (t.families f).isSized = false → k.size = 0 := fun hflat =>
  size_eq_zero_of_validateKey hf ((t.shaped f).symm.trans hflat)

/-- An accepted record reports a duplicate exactly when the key held a record. -/
theorem record_outcome (h : t.frozen = false) (hk : checkKey k = .ok ()) :
    (t.record k r).2 = if (t.find? k).isSome then .error (.duplicateCell k) else .ok () := by
  obtain ⟨f, hv, hf⟩ := validateKey_of_checkKey hk
  rw [record_accepted h hv, FamilyCells.insert_snd (flat_size_of_validateKey hv),
    find?_of_ofName? hf]

theorem markMissing_of_frozen (h : t.frozen = true) :
    t.markMissing k why = (t, .error .frozen) := by
  simp [markMissing, h]

theorem markMissing_of_checkKey_error {e : TableError} (h : t.frozen = false)
    (hk : checkKey k = .error e) : t.markMissing k why = (t, .error e) := by
  simp [markMissing, h, validateKey_of_checkKey_error hk]

theorem markMissing_of_find?_isSome (h : t.frozen = false) (hk : checkKey k = .ok ())
    (hfound : (t.find? k).isSome) : t.markMissing k why = (t, .error (.duplicateCell k)) := by
  obtain ⟨f, hv, -⟩ := validateKey_of_checkKey hk
  simp [markMissing, h, hv, hfound]

/-- An accepted mark on a key without a record sets the key's reason. -/
theorem markMissing_accepted (h : t.frozen = false) (hk : checkKey k = .ok ())
    (hfree : t.find? k = none) :
    t.markMissing k why = ({ t with markers := t.markers.insert k why }, .ok ()) := by
  obtain ⟨f, hv, -⟩ := validateKey_of_checkKey hk
  simp [markMissing, h, hv, hfree]

@[simp] theorem frozen_record : (t.record k r).1.frozen = t.frozen := by
  unfold record
  split
  · rfl
  · split <;> rfl

@[simp] theorem frozen_markMissing : (t.markMissing k why).1.frozen = t.frozen := by
  unfold markMissing
  split
  · rfl
  · split
    · rfl
    · split <;> rfl

@[simp] theorem families_markMissing : (t.markMissing k why).1.families = t.families := by
  unfold markMissing
  split
  · rfl
  · split
    · rfl
    · split <;> rfl

theorem find?_record (h : t.frozen = false) (hk : checkKey k = .ok ()) (k' : Key) :
    (t.record k r).1.find? k' = if k' = k then some r else t.find? k' := by
  obtain ⟨f, hv, hf⟩ := validateKey_of_checkKey hk
  rw [record_accepted h hv]
  cases hg : Family.ofName? k'.family with
  | none =>
    -- a key of no family reads nothing, and is not the recorded key
    have hne : k' ≠ k := fun heq => by rw [heq, hf] at hg; cases hg
    simp [find?, hg, hne]
  | some g =>
    simp only [find?, hg, Option.bind_some, setFamily]
    by_cases hgf : g = f
    · subst hgf
      rw [if_pos rfl, FamilyCells.find?_insert (flat_size_of_validateKey hv)]
      -- within the family, the key is its benchmark and size
      have hkey : k' = k ↔ k'.benchmark = k.benchmark ∧ k'.size = k.size := by
        have hfam : k'.family = k.family :=
          (Family.name_of_ofName? hg).symm.trans (Family.name_of_ofName? hf)
        constructor
        · rintro rfl
          exact ⟨rfl, rfl⟩
        · rintro ⟨hb, hs⟩
          cases k
          cases k'
          simp_all
      simp only [hkey]
    · have hne : k' ≠ k := fun heq => by rw [heq, hf] at hg; exact hgf (Option.some.inj hg).symm
      rw [if_neg hgf, if_neg hne]

theorem reason?_record (h : t.frozen = false) (hk : checkKey k = .ok ()) (k' : Key) :
    (t.record k r).1.reason? k' = if k' = k then none else t.reason? k' := by
  obtain ⟨f, hv, -⟩ := validateKey_of_checkKey hk
  rw [record_accepted h hv]
  by_cases hk' : k' = k
  · subst hk'
    simp [reason?]
  · simp [reason?, hk', Std.HashMap.getElem?_erase, Ne.symm hk']

@[simp] theorem find?_markMissing (k' : Key) : (t.markMissing k why).1.find? k' = t.find? k' := by
  simp only [find?, families_markMissing]

theorem reason?_markMissing (h : t.frozen = false) (hk : checkKey k = .ok ())
    (hfree : t.find? k = none) (k' : Key) :
    (t.markMissing k why).1.reason? k' = if k' = k then some why else t.reason? k' := by
  rw [markMissing_accepted h hk hfree]
  by_cases hk' : k' = k
  · subst hk'
    simp [reason?]
  · simp [reason?, hk', Std.HashMap.getElem?_insert, Ne.symm hk']

@[simp] theorem cells_markMissing : (t.markMissing k why).1.cells = t.cells := by
  simp only [cells, families_markMissing]

/-! ## The views -/

/-- The listing of a table holds exactly its records, each under its key. -/
theorem mem_cells_iff {c : Cell} : c ∈ t.cells ↔ t.find? c.key = some c.record := by
  simp only [cells, List.mem_flatMap, FamilyCells.mem_cells]
  constructor
  · rintro ⟨f, -, hfam, hfind⟩
    rw [find?_of_ofName? (hfam ▸ Family.ofName?_name f)]
    exact hfind
  · intro hfind
    cases hf : Family.ofName? c.key.family with
    | none => simp [find?, hf] at hfind
    | some f =>
      rw [find?_of_ofName? hf] at hfind
      exact ⟨f, Family.mem_all f, (Family.name_of_ofName? hf).symm, hfind⟩

/-- The cells holding records are listed family by family in listing order, and each family's
in strictly ascending key order, so the whole listing is in strictly ascending key order. -/
theorem cellList_pairwise (t : Table) :
    t.cellList.Pairwise fun c c' => c.key.lt c'.key = true := by
  refine List.pairwise_flatMap.mpr ⟨fun f _ => ?_, Family.all_pairwise_index.imp fun {f g} hfg => ?_⟩
  · exact sortByKey_pairwise_lt (·.key) (fun c hc => ⟨f, (FamilyCells.mem_cells.mp hc).1.symm⟩)
      (FamilyCells.cells_nodup _ _)
  · -- an earlier family's cells come before a later one's
    intro c hc c' hc'
    rw [familyCells, mem_sortByKey, FamilyCells.mem_cells] at hc hc'
    exact Key.lt_of_index_lt hc.1 hc'.1 hfg

theorem cellList_perm (t : Table) : t.cellList.Perm t.cells :=
  List.Perm.flatMap_left _ fun _ _ => sortByKey_perm _ _

/-- The listing of a table names each key once. -/
theorem cells_nodup (t : Table) : (t.cells.map (·.key)).Nodup := by
  refine (t.cellList_perm.map _).nodup_iff.mp (List.pairwise_map.mpr ?_)
  refine t.cellList_pairwise.imp fun {c c'} h heq => ?_
  rw [heq, Key.lt_irrefl] at h
  cases h

theorem mem_marks_iff {m : MissingCell} : m ∈ t.marks ↔ t.reason? m.key = some m.reason := by
  obtain ⟨key, why⟩ := m
  simp only [marks, reason?, List.mem_map]
  constructor
  · rintro ⟨⟨k, v⟩, he, hm⟩
    cases hm
    exact Std.HashMap.mem_toList_iff_getElem?_eq_some.mp he
  · intro hlookup
    exact ⟨⟨key, why⟩, Std.HashMap.mem_toList_iff_getElem?_eq_some.mpr hlookup, rfl⟩

theorem marks_nodup (t : Table) : (t.marks.map (·.key)).Nodup := by
  rw [marks, List.map_map]
  exact nodup_map_toList t.markers fun e e' h => h

theorem find?_isSome_iff : (t.find? k).isSome ↔ k ∈ t.cells.map (·.key) := by
  constructor
  · intro h
    obtain ⟨rec, hrec⟩ := Option.isSome_iff_exists.mp h
    exact List.mem_map.mpr ⟨⟨k, rec⟩, mem_cells_iff.mpr hrec, rfl⟩
  · intro h
    obtain ⟨c, hc, rfl⟩ := List.mem_map.mp h
    rw [mem_cells_iff.mp hc]
    rfl

theorem reason?_isSome_iff : (t.reason? k).isSome ↔ k ∈ t.marks.map (·.key) := by
  constructor
  · intro h
    obtain ⟨why, hwhy⟩ := Option.isSome_iff_exists.mp h
    exact List.mem_map.mpr ⟨⟨k, why⟩, mem_marks_iff.mpr hwhy, rfl⟩
  · intro h
    obtain ⟨m, hm, rfl⟩ := List.mem_map.mp h
    rw [mem_marks_iff.mp hm]
    rfl

/-- Every listed cell falls in a named family. -/
theorem known_of_mem_cells {c : Cell} (h : c ∈ t.cells) : c.key.Known := by
  simp only [cells, List.mem_flatMap, FamilyCells.mem_cells] at h
  obtain ⟨f, -, hfam, -⟩ := h
  exact ⟨f, hfam.symm⟩

/-- The count of records is the length of the listing. -/
theorem size_eq_length_cells (t : Table) : t.size = t.cells.length := by
  simp [size, cells, List.length_flatMap, FamilyCells.foldl_add_eq_add_sum]

/-- Listing family by family, each family sorted, is sorting the whole listing: keys order families
first. -/
theorem cellList_eq (t : Table) : t.cellList = sortByKey (·.key) t.cells := by
  refine (sortByKey_eq_of_mem_iff (fun c hc => known_of_mem_cells hc) t.cells_nodup
    t.cellList_pairwise fun c => ?_).symm
  exact t.cellList_perm.mem_iff.symm

/-! ## Well-formed tables -/

/-- What every table built by the updates satisfies. -/
structure WellFormed (t : Table) : Prop where
  /-- Every recorded key was accepted. -/
  cells_valid : ∀ k, (t.find? k).isSome → checkKey k = .ok ()
  /-- Every marked key was accepted. -/
  marks_valid : ∀ k, (t.reason? k).isSome → checkKey k = .ok ()
  /-- A marked key holds no record. -/
  marks_free : ∀ k, (t.reason? k).isSome → t.find? k = none

@[simp] theorem find?_empty (k : Key) : ({} : Table).find? k = none := by
  cases hf : Family.ofName? k.family <;> simp [find?, hf]

@[simp] theorem reason?_empty (k : Key) : ({} : Table).reason? k = none :=
  Std.HashMap.getElem?_empty

theorem wellFormed_empty : WellFormed {} :=
  ⟨fun k hk => by simp at hk, fun k hk => by simp at hk, fun k _ => find?_empty k⟩

theorem wellFormed_record (hwf : t.WellFormed) : (t.record k r).1.WellFormed := by
  cases hfz : t.frozen
  · cases hck : checkKey k with
    | error e => rw [record_of_checkKey_error hfz hck]; exact hwf
    | ok u =>
      have hk : checkKey k = .ok () := hck
      refine ⟨fun k' hk' => ?_, fun k' hk' => ?_, fun k' hk' => ?_⟩
      · rw [find?_record hfz hk] at hk'
        by_cases heq : k' = k
        · rw [heq]
          exact hk
        · rw [if_neg heq] at hk'
          exact hwf.cells_valid k' hk'
      · rw [reason?_record hfz hk] at hk'
        by_cases heq : k' = k
        · simp [heq] at hk'
        · rw [if_neg heq] at hk'
          exact hwf.marks_valid k' hk'
      · -- the recorded key's mark is cleared, and the other keys keep theirs
        rw [reason?_record hfz hk] at hk'
        by_cases heq : k' = k
        · simp [heq] at hk'
        · rw [if_neg heq] at hk'
          rw [find?_record hfz hk, if_neg heq]
          exact hwf.marks_free k' hk'
  · rw [record_of_frozen hfz]
    exact hwf

theorem wellFormed_markMissing (hwf : t.WellFormed) : (t.markMissing k why).1.WellFormed := by
  cases hfz : t.frozen
  · cases hck : checkKey k with
    | error e => rw [markMissing_of_checkKey_error hfz hck]; exact hwf
    | ok u =>
      have hk : checkKey k = .ok () := hck
      cases hfree : t.find? k with
      | some c => rw [markMissing_of_find?_isSome hfz hk (by simp [hfree])]; exact hwf
      | none =>
        refine ⟨fun k' hk' => ?_, fun k' hk' => ?_, fun k' hk' => ?_⟩
        · rw [find?_markMissing] at hk'
          exact hwf.cells_valid k' hk'
        · rw [reason?_markMissing hfz hk hfree] at hk'
          by_cases heq : k' = k
          · rw [heq]
            exact hk
          · rw [if_neg heq] at hk'
            exact hwf.marks_valid k' hk'
        · -- the marked key holds no record, and the other keys keep their marks
          rw [reason?_markMissing hfz hk hfree] at hk'
          rw [find?_markMissing]
          by_cases heq : k' = k
          · rw [heq]
            exact hfree
          · rw [if_neg heq] at hk'
            exact hwf.marks_free k' hk'
  · rw [markMissing_of_frozen hfz]
    exact hwf

theorem wellFormed_freeze (hwf : t.WellFormed) : t.freeze.WellFormed :=
  ⟨hwf.cells_valid, hwf.marks_valid, hwf.marks_free⟩

/-- The missing cells of a well-formed table are listed in strictly ascending key order. -/
theorem missing_pairwise (hwf : t.WellFormed) :
    t.missing.Pairwise fun m m' => m.key.lt m'.key = true :=
  sortByKey_pairwise_lt (fun m : MissingCell => m.key)
    (fun m hm => Key.known_of_checkKey (hwf.marks_valid m.key (by rw [mem_marks_iff.mp hm]; rfl)))
    t.marks_nodup

theorem checkKey_of_find?_isSome (hwf : t.WellFormed) (h : (t.find? k).isSome) :
    checkKey k = .ok () :=
  hwf.cells_valid k h

theorem checkKey_of_reason?_isSome (hwf : t.WellFormed) (h : (t.reason? k).isSome) :
    checkKey k = .ok () :=
  hwf.marks_valid k h

/-- No key both holds a record and is marked missing. -/
theorem find?_eq_none_of_reason? (hwf : t.WellFormed) (h : (t.reason? k).isSome) :
    t.find? k = none :=
  hwf.marks_free k h

/-- When the recorded and the marked keys of a well-formed table are together exactly the keys of
a list without repeats, the records and the marks add up to the list's length. -/
theorem size_add_length_marks (hwf : t.WellFormed) {ks : List Key} (hks : ks.Nodup)
    (hcover : ∀ k, (t.find? k).isSome ∨ (t.reason? k).isSome ↔ k ∈ ks) :
    t.size + t.marks.length = ks.length := by
  -- the two key lists are disjoint, so together they are a list without repeats holding the
  -- same keys as `ks`
  have hdisjoint : (t.cells.map (·.key) ++ t.marks.map (·.key)).Nodup := by
    rw [List.nodup_append]
    refine ⟨t.cells_nodup, t.marks_nodup, ?_⟩
    intro a ha b hb hab
    subst hab
    have hfree := find?_eq_none_of_reason? hwf (reason?_isSome_iff.mpr hb)
    rw [← Option.not_isSome_iff_eq_none, find?_isSome_iff] at hfree
    exact hfree ha
  have hperm : (t.cells.map (·.key) ++ t.marks.map (·.key)).Perm ks := by
    rw [List.perm_ext_iff_of_nodup hdisjoint hks]
    intro k
    rw [List.mem_append, ← find?_isSome_iff, ← reason?_isSome_iff]
    exact hcover k
  simpa [size_eq_length_cells] using hperm.length_eq

/-! ## Cells -/

/-- What a key reads in the table: its record and its missing reason. -/
def cell (t : Table) (k : Key) : Option Record × Option String := (t.find? k, t.reason? k)

@[simp] theorem cell_empty (k : Key) : ({} : Table).cell k = (none, none) := by
  simp [cell]

theorem cell_record (h : t.frozen = false) (hk : checkKey k = .ok ()) (k' : Key) :
    (t.record k r).1.cell k' = if k' = k then (some r, none) else t.cell k' := by
  unfold cell
  rw [find?_record h hk, reason?_record h hk]
  split <;> rfl

theorem cell_markMissing (h : t.frozen = false) (hk : checkKey k = .ok ()) (hfree : t.find? k = none)
    (k' : Key) :
    (t.markMissing k why).1.cell k' = if k' = k then (none, some why) else t.cell k' := by
  unfold cell
  rw [find?_markMissing, reason?_markMissing h hk hfree]
  split
  · rename_i hk'
    rw [hk', hfree]
  · rfl

/-- Recording under an accepted key, as one step of a keyed pass: the table stays well formed and
open, and only that key's cell changes. -/
theorem record_step (hwf : t.WellFormed) (h : t.frozen = false) (hk : checkKey k = .ok ()) :
    (t.record k r).1.WellFormed ∧ (t.record k r).1.frozen = false ∧
      ∀ k', (t.record k r).1.cell k' = if k' = k then (some r, none) else t.cell k' :=
  ⟨wellFormed_record hwf, frozen_record.trans h, cell_record h hk⟩

/-- Marking a free cell of an accepted key, as one step of a keyed pass: the table stays well
formed and open, and only that key's cell changes. -/
theorem markMissing_step (hwf : t.WellFormed) (h : t.frozen = false) (hk : checkKey k = .ok ())
    (hfree : t.find? k = none) :
    (t.markMissing k why).1.WellFormed ∧ (t.markMissing k why).1.frozen = false ∧
      ∀ k', (t.markMissing k why).1.cell k' = if k' = k then (none, some why) else t.cell k' :=
  ⟨wellFormed_markMissing hwf, frozen_markMissing.trans h, cell_markMissing h hk hfree⟩

/-- A pass over items with distinct keys, each step setting its own key's cell and leaving the
others, sets every item's cell and no other: a step may rely on its key still reading as at the
start, since no earlier step touched it. The table sits in a larger state, read by `tbl`. -/
theorem cell_foldl {σ α : Type} (tbl : σ → Table) {key : α → Key}
    {value : α → Option Record × Option String} {step : σ → α → σ} {t₀ : Table} {xs : List α}
    (hnodup : (xs.map key).Nodup)
    (hstep : ∀ s x, x ∈ xs → (tbl s).WellFormed → (tbl s).frozen = false →
      (tbl s).cell (key x) = t₀.cell (key x) →
      (tbl (step s x)).WellFormed ∧ (tbl (step s x)).frozen = false ∧
        ∀ k, (tbl (step s x)).cell k = if k = key x then value x else (tbl s).cell k)
    (s : σ) (hwf : (tbl s).WellFormed) (hfz : (tbl s).frozen = false)
    (hfresh : ∀ x ∈ xs, (tbl s).cell (key x) = t₀.cell (key x)) :
    (tbl (xs.foldl step s)).WellFormed ∧ (tbl (xs.foldl step s)).frozen = false ∧
      (∀ x ∈ xs, (tbl (xs.foldl step s)).cell (key x) = value x) ∧
      ∀ k, k ∉ xs.map key → (tbl (xs.foldl step s)).cell k = (tbl s).cell k := by
  induction xs generalizing s with
  | nil => simp [hwf, hfz]
  | cons x rest ih =>
    rw [List.map_cons, List.nodup_cons] at hnodup
    obtain ⟨hx, hrest⟩ := hnodup
    -- the first step sets `x`'s cell and leaves the cells of the rest as at the start
    obtain ⟨hwf₁, hfz₁, hcell₁⟩ :=
      hstep s x List.mem_cons_self hwf hfz (hfresh x List.mem_cons_self)
    have hfresh₁ : ∀ y ∈ rest, (tbl (step s x)).cell (key y) = t₀.cell (key y) := by
      intro y hy
      have hne : key y ≠ key x := fun h => hx (h ▸ List.mem_map_of_mem hy)
      rw [hcell₁, if_neg hne]
      exact hfresh y (List.mem_cons_of_mem x hy)
    obtain ⟨hwf', hfz', hset, hkeep⟩ :=
      ih hrest (fun s' y hy => hstep s' y (List.mem_cons_of_mem x hy)) (step s x) hwf₁ hfz₁
        hfresh₁
    rw [List.foldl_cons]
    refine ⟨hwf', hfz', fun y hy => ?_, fun k hk => ?_⟩
    · rcases List.mem_cons.mp hy with rfl | hy
      · rw [hkeep (key y) hx, hcell₁, if_pos rfl]
      · exact hset y hy
    · rw [List.map_cons, List.mem_cons, not_or] at hk
      rw [hkeep k hk.2, hcell₁, if_neg hk.1]

end Table

end PredictorSweep
