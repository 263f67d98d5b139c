import PredictorSweep.Text.Bytes
/-!
# The store's database

The result store keeps its entries in a database of values under byte-string keys. A value can be
set under a key, replacing the one there, read back and deleted, and the items whose keys start
with a prefix can be listed in ascending order of their keys' bytes. That is all the store asks of
its database: `LawfulKeyValueMap` states it as laws, and what is proved of the store holds of
every database that keeps them.

The program's own database is a list of items kept in ascending key order (`ItemList`).

Main definitions:

- `KeyValueMap`, `LawfulKeyValueMap`: a database and the laws it keeps;
- `ItemList`: values in a list in ascending key order.
-/

namespace PredictorSweep

/-- A database of values under byte-string keys. -/
class KeyValueMap (D : Type) (V : outParam Type) where
  /-- The database holding nothing. -/
  empty : D
  /-- The value under a key. -/
  get? : D → Bytes → Option V
  /-- Sets the value under a key, replacing the one there. -/
  set : D → Bytes → V → D
  /-- Removes the value under a key. -/
  delete : D → Bytes → D
  /-- The items whose keys start with a prefix, in ascending key order. -/
  scan : D → Bytes → List (Bytes × V)

/-- What a database keeps: a value set under a key is read back until the key is set again or
deleted, and other keys are untouched; a scan lists exactly the items under its prefix, in
ascending key order. -/
class LawfulKeyValueMap (D : Type) (V : outParam Type) [KeyValueMap D V] : Prop where
  get?_empty (k : Bytes) : KeyValueMap.get? (KeyValueMap.empty : D) k = none
  get?_set (d : D) (k : Bytes) (v : V) (k' : Bytes) :
    KeyValueMap.get? (KeyValueMap.set d k v) k' =
      if k' = k then some v else KeyValueMap.get? d k'
  get?_delete (d : D) (k k' : Bytes) :
    KeyValueMap.get? (KeyValueMap.delete d k) k' = if k' = k then none else KeyValueMap.get? d k'
  mem_scan (d : D) (p k : Bytes) (v : V) :
    (k, v) ∈ KeyValueMap.scan d p ↔ p.data <+: k.data ∧ KeyValueMap.get? d k = some v
  scan_ascending (d : D) (p : Bytes) : (KeyValueMap.scan d p).Pairwise fun a b => a.1 < b.1

/-- Of two different byte strings, one comes first. -/
theorem Bytes.lt_of_not_lt {a b : Bytes} (hlt : ¬a < b) (hne : a ≠ b) : b < a :=
  Classical.byContradiction fun hba => hne (congrArg Bytes.mk (List.le_antisymm hba hlt))

/-- Values under byte-string keys, in a list in ascending key order. -/
structure ItemList (V : Type) where
  /-- The items. -/
  items : List (Bytes × V) := []
  /-- The keys ascend, so no key is there twice. -/
  ascending : items.Pairwise (fun a b => a.1 < b.1) := by exact List.Pairwise.nil

namespace ItemList

variable {V : Type}

/-- An item put in its place in an ascending list, in place of the one under its key. -/
def insertItem (k : Bytes) (v : V) : List (Bytes × V) → List (Bytes × V)
  | [] => [(k, v)]
  | (k', v') :: rest =>
    if k < k' then (k, v) :: (k', v') :: rest
    else if k = k' then (k, v) :: rest
    else (k', v') :: insertItem k v rest

theorem mem_insertItem {k : Bytes} {v : V} {l : List (Bytes × V)} {x : Bytes × V}
    (h : x ∈ insertItem k v l) : x = (k, v) ∨ x ∈ l := by
  induction l with
  | nil => simpa [insertItem] using h
  | cons y l ih =>
    obtain ⟨k', v'⟩ := y
    simp only [insertItem] at h
    split at h
    · exact List.mem_cons.mp h
    · split at h
      · exact (List.mem_cons.mp h).imp_right (List.mem_cons_of_mem _)
      · rcases List.mem_cons.mp h with rfl | h
        · exact .inr List.mem_cons_self
        · exact (ih h).imp_right (List.mem_cons_of_mem _)

/-- Putting an item in its place keeps the keys ascending. -/
theorem ascending_insertItem (k : Bytes) (v : V) {l : List (Bytes × V)}
    (h : l.Pairwise fun a b => a.1 < b.1) : (insertItem k v l).Pairwise fun a b => a.1 < b.1 := by
  induction l with
  | nil => simp [insertItem]
  | cons y l ih =>
    obtain ⟨hy, hl⟩ := List.pairwise_cons.mp h
    obtain ⟨k', v'⟩ := y
    simp only [insertItem]
    split
    · -- the item goes first, before every key after it
      rename_i hlt
      exact List.Pairwise.cons (fun x hx => (List.mem_cons.mp hx).elim (· ▸ hlt)
        fun hx => List.lt_trans hlt (hy x hx)) h
    · split
      · rename_i heq
        exact List.Pairwise.cons (fun x hx => heq ▸ hy x hx) hl
      · -- the item goes further on, after this key
        rename_i hlt hne
        have hyk : k' < k := Bytes.lt_of_not_lt hlt hne
        refine List.Pairwise.cons (fun x hx => ?_) (ih hl)
        rcases mem_insertItem hx with rfl | hx
        · exact hyk
        · exact hy x hx

instance : KeyValueMap (ItemList V) V where
  empty := {}
  get? d k := d.items.lookup k
  set d k v := ⟨insertItem k v d.items, ascending_insertItem k v d.ascending⟩
  delete d k := ⟨d.items.filter (·.1 != k), d.ascending.filter _⟩
  scan d p := d.items.filter fun a => p.data.isPrefixOf a.1.data

end ItemList

end PredictorSweep
