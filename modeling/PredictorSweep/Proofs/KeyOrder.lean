import Mathlib.Data.Prod.Lex
import Mathlib.Data.String.Basic
import PredictorSweep.Table.Basic
/-!
# The order of cell keys

Keys are compared by the listing position of their family, then by benchmark, then by size. On
texts that name no family this is not a linear order (two such texts are not ordered at all), but
every key a table accepts names a family, and every key a diagnostic carries names a family or
has an empty family text. On such *ranked* keys the order is the lexicographic order of the key's
*rank* `(family position, benchmark, size)`, which no two of them share: the empty text sits at
position `-1`, before every family.

Proved here:

* `Key.lt_iff_rank_lt`, `Key.eq_of_rank_eq`: on ranked keys the order is the order of ranks, and
  ranks tell keys apart;
* `sortByKey_pairwise_lt`: sorting items with distinct keys of named families lists them in
  strictly ascending key order, whatever order they came in;
* `eq_of_pairwise_of_mem_iff`, `sortByKey_eq_of_mem_iff`: such a listing is determined by its
  members, so sorting any listing of them gives it.
-/

namespace PredictorSweep

namespace Family

theorem ofName?_name (f : Family) : ofName? f.name = some f := by
  cases f <;> rfl

theorem name_of_ofName? {s : String} {f : Family} (h : ofName? s = some f) : f.name = s := by
  have := List.find?_some h
  simpa using this

theorem name_injective : Function.Injective name := by
  intro F f h
  have := ofName?_name F
  rwa [h, ofName?_name, Option.some.injEq, eq_comm] at this

@[simp] theorem nameSized_name (F : Family) : nameSized F.name = F.sized := by
  simp [nameSized, ofName?_name]

@[simp] theorem nameUsesHistory_name (F : Family) : nameUsesHistory F.name = F.usesHistory := by
  simp [nameUsesHistory, ofName?_name]

theorem index_injective : Function.Injective index := by
  intro f g h
  cases f <;> cases g <;> first | rfl | exact absurd h (by decide)

theorem orderOf_name (f : Family) : orderOf f.name = f.index := by
  simp [orderOf, ofName?_name]

theorem mem_all (f : Family) : f ∈ all := by
  cases f <;> decide

/-- The families are listed in the order of their positions. -/
theorem all_pairwise_index : all.Pairwise fun f g => f.index < g.index := by
  decide

end Family

namespace Key

/-- A key whose family text names one of the predictor families. -/
def Known (k : Key) : Prop := ∃ f : Family, f.name = k.family

theorem known_iff_isSome (k : Key) : k.Known ↔ (Family.ofName? k.family).isSome = true := by
  constructor
  · rintro ⟨f, hf⟩
    rw [← hf, Family.ofName?_name]
    rfl
  · intro h
    obtain ⟨f, hf⟩ := Option.isSome_iff_exists.mp h
    exact ⟨f, Family.name_of_ofName? hf⟩

instance : DecidablePred Known := fun k => decidable_of_iff _ (known_iff_isSome k).symm

/-- A key whose family text names a family or is empty. -/
def Ranked (k : Key) : Prop := k.Known ∨ k.family = ""

instance : DecidablePred Ranked := fun k => inferInstanceAs (Decidable (k.Known ∨ k.family = ""))

theorem Known.ranked {k : Key} (h : k.Known) : k.Ranked := Or.inl h

/-- The position of a key in the key order: family position, then benchmark, then size. -/
def rank (k : Key) : Int ×ₗ (String ×ₗ Int) :=
  toLex (Family.orderOf k.family, toLex (k.benchmark, k.size))

theorem orderOf_blank : Family.orderOf "" = -1 := by decide

theorem family_eq_of_orderOf_eq {a b : Key} (ha : a.Ranked) (hb : b.Ranked)
    (h : Family.orderOf a.family = Family.orderOf b.family) : a.family = b.family := by
  rcases ha with ⟨f, hf⟩ | ha <;> rcases hb with ⟨g, hg⟩ | hb
  · -- two families sit at their own listing positions
    rw [← hf, ← hg, Family.orderOf_name, Family.orderOf_name] at h
    rw [← hf, ← hg, Family.index_injective (Int.ofNat_inj.mp h)]
  · -- a family sits at a listing position, the empty text at `-1`
    rw [← hf, hb, Family.orderOf_name, orderOf_blank] at h
    omega
  · rw [ha, ← hg, Family.orderOf_name, orderOf_blank] at h
    omega
  · rw [ha, hb]

theorem eq_of_rank_eq {a b : Key} (ha : a.Ranked) (hb : b.Ranked) (h : a.rank = b.rank) :
    a = b := by
  simp only [rank, toLex_inj, Prod.mk.injEq] at h
  obtain ⟨horder, hbench, hsize⟩ := h
  have hfamily := family_eq_of_orderOf_eq ha hb horder
  cases a
  cases b
  simp_all

/-- On ranked keys, `Key.lt` is the lexicographic order of ranks. -/
theorem lt_iff_rank_lt {a b : Key} (ha : a.Ranked) (hb : b.Ranked) :
    a.lt b = true ↔ a.rank < b.rank := by
  simp only [lt, rank, Prod.Lex.toLex_lt_toLex]
  by_cases hfamily : a.family = b.family
  · -- equal families: the family positions tie and the rest decides
    by_cases hbench : a.benchmark = b.benchmark <;> simp [hfamily, hbench]
  · -- different named families sit at different positions
    have horder : Family.orderOf a.family ≠ Family.orderOf b.family :=
      fun h => hfamily (family_eq_of_orderOf_eq ha hb h)
    simp [hfamily, horder]

theorem lt_irrefl (k : Key) : k.lt k = false := by
  simp [lt]

/-- The order is asymmetric on all keys, named families or not. -/
theorem lt_asymm {a b : Key} (h : a.lt b = true) : b.lt a = false := by
  simp only [lt] at h ⊢
  by_cases hfamily : a.family = b.family
  · by_cases hbench : a.benchmark = b.benchmark
    · -- same family and benchmark: the sizes decide
      simp only [hfamily, hbench, ne_eq, not_true_eq_false, if_false, decide_eq_true_eq] at h ⊢
      simp only [decide_eq_false_iff_not, not_lt]
      exact le_of_lt h
    · have hbench' : b.benchmark ≠ a.benchmark := Ne.symm hbench
      simp only [hfamily, hbench, hbench', ne_eq, not_true_eq_false, not_false_eq_true, if_false,
        if_true, decide_eq_true_eq] at h ⊢
      simp only [decide_eq_false_iff_not, not_lt]
      exact le_of_lt h
  · have hfamily' : b.family ≠ a.family := Ne.symm hfamily
    simp only [hfamily, hfamily', ne_eq, not_false_eq_true, if_true, decide_eq_true_eq] at h ⊢
    simp only [decide_eq_false_iff_not, not_lt]
    exact le_of_lt h

/-- Keys of two families are ordered as the families are listed. -/
theorem lt_of_index_lt {a b : Key} {f g : Family} (ha : a.family = f.name) (hb : b.family = g.name)
    (h : f.index < g.index) : a.lt b = true := by
  have hne : a.family ≠ b.family := by
    rw [ha, hb]
    intro heq
    rw [Family.name_injective heq] at h
    omega
  simp only [lt, ne_eq, hne, not_false_eq_true, if_true, decide_eq_true_eq]
  rw [ha, hb, Family.orderOf_name, Family.orderOf_name]
  exact_mod_cast h

/-- Between keys of one family and size, the order is the order of benchmarks. -/
theorem benchmark_lt_of_lt {a b : Key} (hfamily : a.family = b.family) (hsize : a.size = b.size)
    (h : a.lt b = true) : a.benchmark < b.benchmark := by
  simp only [lt, hfamily, hsize, ne_eq, not_true_eq_false, if_false] at h
  by_cases hbench : a.benchmark = b.benchmark
  · simp [hbench] at h
  · simpa [hbench] using h

end Key

/-! ## Sorting by key -/

/-- Two lists in strictly ascending order for an asymmetric relation are equal when they have the
same members: a sorted listing is determined by what it lists. -/
theorem eq_of_pairwise_of_mem_iff {α : Type} {r : α → α → Prop} (hasymm : ∀ a b, r a b → ¬r b a)
    {l₁ l₂ : List α} (h₁ : l₁.Pairwise r) (h₂ : l₂.Pairwise r) (h : ∀ a, a ∈ l₁ ↔ a ∈ l₂) :
    l₁ = l₂ := by
  have hnodup {l : List α} (hl : l.Pairwise r) : l.Nodup := by
    refine hl.imp fun {a b} hab heq => ?_
    subst heq
    exact hasymm a a hab hab
  have hperm : l₁.Perm l₂ := (List.perm_ext_iff_of_nodup (hnodup h₁) (hnodup h₂)).mpr h
  exact hperm.eq_of_pairwise (fun a b _ _ hab hba => absurd hba (hasymm a b hab)) h₁ h₂

theorem mem_sortByKey {α : Type} {key : α → Key} {xs : List α} {x : α} :
    x ∈ sortByKey key xs ↔ x ∈ xs :=
  List.mem_mergeSort

theorem sortByKey_perm {α : Type} (key : α → Key) (xs : List α) : (sortByKey key xs).Perm xs :=
  List.mergeSort_perm xs _

/-- Among items whose keys name families, the sort's comparison is "rank not greater", a total
order, so the merge sort leaves no pair out of order. -/
theorem sortByKey_pairwise_le {α : Type} (key : α → Key) {xs : List α}
    (hknown : ∀ x ∈ xs, (key x).Known) :
    (sortByKey key xs).Pairwise fun x y => (key x).rank ≤ (key y).rank := by
  -- sort the items together with the proof that their keys are known, where the comparison is
  -- transitive and total
  let ys := xs.attachWith (fun x => (key x).Known) hknown
  let le : {x // (key x).Known} → {x // (key x).Known} → Bool :=
    fun a b => !(key b.1).lt (key a.1)
  have hle (a b : {x // (key x).Known}) : le a b = true ↔ (key a.1).rank ≤ (key b.1).rank := by
    simp only [le, Bool.not_eq_true', ← not_lt, ← Key.lt_iff_rank_lt b.2.ranked a.2.ranked,
      Bool.not_eq_true]
  have hsorted : (ys.mergeSort le).Pairwise fun a b => le a b = true := by
    refine List.pairwise_mergeSort (fun a b c hab hbc => ?_) (fun a b => ?_) ys
    · exact (hle a c).mpr (le_trans ((hle a b).mp hab) ((hle b c).mp hbc))
    · rcases le_total (key a.1).rank (key b.1).rank with h | h
      · simp [(hle a b).mpr h]
      · simp [(hle b a).mpr h]
  have hmap : (ys.mergeSort le).map Subtype.val = sortByKey key xs := by
    rw [@List.map_mergeSort _ _ le (fun a b => !(key b).lt (key a)) _ _ (fun _ _ _ _ => rfl)]
    have : ys.map Subtype.val = xs := List.unattach_attachWith
    rw [this]
    rfl
  rw [← hmap, List.pairwise_map]
  exact hsorted.imp fun h => (hle _ _).mp h

/-- Sorting items whose keys are distinct and name families lists them in strictly ascending key
order. -/
theorem sortByKey_pairwise_lt {α : Type} (key : α → Key) {xs : List α}
    (hknown : ∀ x ∈ xs, (key x).Known) (hnodup : (xs.map key).Nodup) :
    (sortByKey key xs).Pairwise fun x y => (key x).lt (key y) = true := by
  have hdistinct : (sortByKey key xs).Pairwise fun x y => key x ≠ key y := by
    have := ((sortByKey_perm key xs).map key).nodup_iff.mpr hnodup
    exact List.pairwise_map.mp this
  refine (hdistinct.and (sortByKey_pairwise_le key hknown)).imp_of_mem ?_
  intro x y hx hy ⟨hne, hle⟩
  have hxk := hknown x (mem_sortByKey.mp hx)
  have hyk := hknown y (mem_sortByKey.mp hy)
  refine (Key.lt_iff_rank_lt hxk.ranked hyk.ranked).mpr (lt_of_le_of_ne hle fun h => hne ?_)
  exact Key.eq_of_rank_eq hxk.ranked hyk.ranked h

/-- Sorting any listing of the members of a list in strictly ascending key order gives that list:
the sort does not see the order the members came in. -/
theorem sortByKey_eq_of_mem_iff {α : Type} {key : α → Key} {xs ys : List α}
    (hknown : ∀ x ∈ xs, (key x).Known) (hnodup : (xs.map key).Nodup)
    (hys : ys.Pairwise fun x y => (key x).lt (key y) = true) (hmem : ∀ x, x ∈ xs ↔ x ∈ ys) :
    sortByKey key xs = ys := by
  refine eq_of_pairwise_of_mem_iff (fun x y h => by simp [Key.lt_asymm h])
    (sortByKey_pairwise_lt key hknown hnodup) hys fun x => ?_
  rw [mem_sortByKey]
  exact hmem x

end PredictorSweep
