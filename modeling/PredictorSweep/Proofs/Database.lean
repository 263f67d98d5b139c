import PredictorSweep.Store.Database
/-!
# The list database keeps the laws

A list of items in ascending key order is a database as the store needs one: reading a key finds
its item, setting a key puts the item in its place in place of the old one, deleting a key drops
its item, and a scan keeps the items under its prefix in their order. The keys ascend, so none is
there twice, and reading a key is then membership of its item.

Main statements:

* `lookup_eq_some_iff_mem`: in a list whose keys are distinct, a look-up is membership;
* `ItemList.lookup_insertItem`, `lookup_filter_ne`: setting and deleting, read back;
* `ItemList.instLawfulKeyValueMap`: the list database keeps the laws.
-/

namespace PredictorSweep

section Lookup

variable {α β : Type} [DecidableEq α]

/-- With no key twice, a look-up finds exactly the pairs of the list. -/
theorem lookup_eq_some_iff_mem {l : List (α × β)} {k : α} {b : β} (hnd : (l.map Prod.fst).Nodup) :
    l.lookup k = some b ↔ (k, b) ∈ l := by
  induction l with
  | nil => simp
  | cons p l ih =>
    obtain ⟨k', b'⟩ := p
    rw [List.map_cons, List.nodup_cons] at hnd
    by_cases hk : k = k'
    · subst hk
      -- the head answers; the key is not in the rest
      have hrest : (k, b) ∉ l := fun hmem => hnd.1 (List.mem_map.mpr ⟨_, hmem, rfl⟩)
      simp [hrest, eq_comm]
    · have hne : (k == k') = false := by simpa using hk
      simp [List.lookup_cons, hne, ih hnd.2, hk]

/-- A look-up in a list with a pair in front reads the pair first. -/
theorem lookup_cons_eq (a : α) (b : β) (l : List (α × β)) (p : α) :
    ((a, b) :: l).lookup p = if p = a then some b else l.lookup p := by
  by_cases h : p = a
  · simp [h]
  · have hne : (p == a) = false := by simpa using h
    simp [List.lookup_cons, hne, h]

/-- Removing the pairs of one key answers none there and leaves the other look-ups. -/
theorem lookup_filter_ne (l : List (α × β)) (q p : α) :
    (l.filter (·.1 != q)).lookup p = if p = q then none else l.lookup p := by
  induction l with
  | nil => split <;> rfl
  | cons x l ih =>
    obtain ⟨a, b⟩ := x
    by_cases haq : a = q
    · -- the pair is removed
      have hf : ((a, b) :: l).filter (·.1 != q) = l.filter (·.1 != q) := by simp [haq]
      rw [hf, ih, lookup_cons_eq]
      subst haq
      by_cases hp : p = a <;> simp [hp]
    · have hf : ((a, b) :: l).filter (·.1 != q) = (a, b) :: l.filter (·.1 != q) := by simp [haq]
      rw [hf, lookup_cons_eq, lookup_cons_eq, ih]
      by_cases hp : p = a
      · subst hp
        simp [haq]
      · by_cases hpq : p = q
        · subst hpq
          simp [hp]
        · simp [hp, hpq]

end Lookup

namespace ItemList

variable {V : Type}

/-- Ascending keys are distinct. -/
theorem keys_nodup {l : List (Bytes × V)} (h : l.Pairwise fun a b => a.1 < b.1) :
    (l.map Prod.fst).Nodup := by
  rw [List.Nodup, List.pairwise_map]
  refine h.imp ?_
  intro a b hab heq
  rw [heq] at hab
  exact List.lt_irrefl _ hab

/-- Setting a key, read back: the new item under it, the old ones elsewhere. -/
theorem lookup_insertItem (k : Bytes) (v : V) (l : List (Bytes × V)) (k' : Bytes) :
    (insertItem k v l).lookup k' = if k' = k then some v else l.lookup k' := by
  induction l with
  | nil => simp only [insertItem, lookup_cons_eq, List.lookup_nil]
  | cons y l ih =>
    obtain ⟨a, b⟩ := y
    simp only [insertItem]
    split
    · rw [lookup_cons_eq]
    · split
      · -- the old item under the key is replaced
        rename_i heq
        subst heq
        rw [lookup_cons_eq, lookup_cons_eq]
        by_cases hk : k' = k <;> simp [hk]
      · rename_i hne
        rw [lookup_cons_eq, lookup_cons_eq, ih]
        by_cases ha : k' = a
        · subst ha
          simp [Ne.symm hne]
        · simp [ha]

/-- The list database keeps the laws of a database. -/
instance instLawfulKeyValueMap : LawfulKeyValueMap (ItemList V) V where
  get?_empty _ := rfl
  get?_set d k v k' := lookup_insertItem k v d.items k'
  get?_delete d k k' := lookup_filter_ne d.items k k'
  mem_scan d p k v := by
    show (k, v) ∈ d.items.filter _ ↔ _ ∧ d.items.lookup k = some v
    rw [List.mem_filter, lookup_eq_some_iff_mem (keys_nodup d.ascending), List.isPrefixOf_iff_prefix]
    exact And.comm
  scan_ascending d _ := d.ascending.filter _

end ItemList

end PredictorSweep
