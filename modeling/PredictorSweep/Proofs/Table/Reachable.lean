import PredictorSweep.Proofs.Table.Flat
/-!
# What every reachable table satisfies

From the empty table, any sequence of updates, each accepted or refused, leaves a table in which
every key holding a record or a missing mark has the shape of a cell: a named family, a
benchmark, and a size that is zero for a family without a table and a power of two of at least 8
for a table-backed one. No key holds both a record and a mark, and once the table is frozen no
later update changes it.

Main statements:

* `Table.wellFormed_replay`: updates keep a table well formed;
* `Table.replay_of_frozen`: a frozen table is left as it is by any updates;
* `Table.reachable_invariant`: the three facts, for every table reached from the empty one.
-/

namespace PredictorSweep

namespace Table

variable {t : Table}

theorem wellFormed_apply (hwf : t.WellFormed) (op : TableOp) : (t.apply op).1.WellFormed := by
  cases op with
  | record k r => exact wellFormed_record hwf
  | markMissing k why => exact wellFormed_markMissing hwf
  | freeze => exact wellFormed_freeze hwf

@[simp] theorem replay_cons (t : Table) (op : TableOp) (ops : List TableOp) :
    (t.replay (op :: ops)).1 = ((t.apply op).1.replay ops).1 := rfl

theorem replay_append (t : Table) (ops later : List TableOp) :
    (t.replay (ops ++ later)).1 = ((t.replay ops).1.replay later).1 := by
  induction ops generalizing t with
  | nil => rfl
  | cons op ops ih => exact ih (t.apply op).1

/-- Updates keep a table well formed, whether they are accepted or refused. -/
theorem wellFormed_replay (hwf : t.WellFormed) (ops : List TableOp) :
    (t.replay ops).1.WellFormed := by
  induction ops generalizing t with
  | nil => exact hwf
  | cons op ops ih => exact ih (wellFormed_apply hwf op)

theorem apply_of_frozen (h : t.frozen = true) (op : TableOp) : (t.apply op).1 = t := by
  cases op with
  | record k r => exact congrArg Prod.fst (record_of_frozen h)
  | markMissing k why => exact congrArg Prod.fst (markMissing_of_frozen h)
  | freeze =>
    obtain ⟨frozen, families, markers, shaped⟩ := t
    cases h
    rfl

/-- A frozen table is left as it is by any updates. -/
theorem replay_of_frozen (h : t.frozen = true) (ops : List TableOp) : (t.replay ops).1 = t := by
  induction ops with
  | nil => rfl
  | cons op ops ih => rw [replay_cons, apply_of_frozen h op, ih]

/-- Every table reached from the empty one by updates, each accepted or refused: a key holding a
record or a mark has the shape of a cell, no key holds both, and after a freeze no update changes
the records or the marks. -/
theorem reachable_invariant (ops : List TableOp) :
    let t := (Table.replay {} ops).1
    (∀ k, (t.find? k).isSome ∨ (t.reason? k).isSome →
      ∃ f : Family, Family.ofName? k.family = some f ∧ k.benchmark ≠ "" ∧
        if f.sized then (∃ j : Nat, k.size = Int.pow 2 j) ∧ 8 ≤ k.size else k.size = 0) ∧
    (∀ k, t.find? k = none ∨ t.reason? k = none) ∧
    ∀ later, (Table.replay {} (ops ++ .freeze :: later)).1 = t.freeze := by
  intro t
  have hwf : t.WellFormed := wellFormed_replay wellFormed_empty ops
  refine ⟨fun k hk => ?_, fun k => ?_, fun later => ?_⟩
  · have hcheck : checkKey k = .ok () :=
      hk.elim (checkKey_of_find?_isSome hwf) (checkKey_of_reason?_isSome hwf)
    obtain ⟨f, hf, hb, hsize⟩ := checkKey_eq_ok_iff.mp hcheck
    refine ⟨f, hf, hb, ?_⟩
    cases hs : f.sized
    · simpa [hs] using hsize
    · -- a valid size is a power of two from 8 on
      have hvalid : validateSize k.size = .ok () := by simpa [hs] using hsize
      obtain ⟨hpow, hmin, -⟩ := validateSize_eq_ok_iff.mp hvalid
      simpa [hs] using ⟨hpow, hmin⟩
  · by_cases h : (t.reason? k).isSome
    · exact .inl (find?_eq_none_of_reason? hwf h)
    · exact .inr (Option.not_isSome_iff_eq_none.mp h)
  · rw [replay_append, replay_cons]
    exact replay_of_frozen rfl later

end Table

end PredictorSweep
