import PredictorSweep.Diagnostic
import PredictorSweep.Proofs.KeyOrder
/-!
# The report order of diagnostics

Diagnostics are put in report order by insertion: each in turn passes leftwards over the elements
it sorts before and stops at the first it does not. Whatever the order, sorting this way neither
drops nor adds a diagnostic.

The sort test compares stage ranks, then keys, then metric names. Stages outside the pipeline all
rank with `execute`, and keys whose family text names no family are not ordered among themselves,
so on arbitrary diagnostics the test is no strict weak order and "the" stable sort is not defined.
On the diagnostics a sweep reports, whose stages are pipeline stages and whose keys are ranked
(a family name or an empty family text), the test is the strict order of the *order key*
`(stage rank, key rank, metric)`, and the insertion sort is the stable sort by that key: it equals
the merge sort of the library, which keeps tied elements in input order.

Proved here:

* `insertSorted_perm`, `insertionSort_perm`: insertion keeps every element, each as often;
* `insertSorted_split`: where an inserted element lands;
* `insertionSort_map`: insertion commutes with a map that the comparison factors through;
* `insertionSort_eq_mergeSort`: inserting by the strict order of a key is the stable merge sort
  by that key;
* `Diagnostic.before_eq_true_iff`, `Diagnostic.sort_eq_mergeSort`: the same for diagnostics of
  pipeline stages and ranked keys;
* `DiagnosticList.items_stable_sort`: the diagnostics a list hands out are those added, in the
  stable order of stage, key and metric, and its length is the number added.
-/

namespace PredictorSweep

section Insertion

variable {α : Type} (lt : α → α → Bool)

theorem insertSorted_go_perm (x : α) (ys acc : List α) :
    (insertSorted.go lt x ys acc).Perm (x :: (ys.reverse ++ acc)) := by
  induction ys generalizing acc with
  | nil => simp [insertSorted.go]
  | cons y ys ih =>
    unfold insertSorted.go
    split
    · -- `x` passes `y`, which joins the part already passed
      have h := ih (y :: acc)
      rwa [List.reverse_cons, List.append_assoc, List.singleton_append]
    · -- `x` stops after `y`
      exact List.perm_middle

theorem insertSorted_perm (x : α) (xs : List α) : (insertSorted lt x xs).Perm (x :: xs) := by
  have h := insertSorted_go_perm lt x xs.reverse []
  rwa [List.reverse_reverse, List.append_nil] at h

theorem insertionSort_perm (xs : List α) : (insertionSort lt xs).Perm xs := by
  -- inserting the rest into any sorted prefix keeps the prefix and the rest
  have h : ∀ acc : List α,
      (xs.foldl (fun acc x => insertSorted lt x acc) acc).Perm (acc ++ xs) := by
    induction xs with
    | nil => simp
    | cons x xs ih =>
      intro acc
      rw [List.foldl_cons]
      have hx : (insertSorted lt x acc ++ xs).Perm (x :: acc ++ xs) :=
        (insertSorted_perm lt x acc).append_right xs
      exact ((ih _).trans hx).trans List.perm_middle.symm
  unfold insertionSort
  simpa using h []

theorem insertSorted_go_split (x : α) (ys acc : List α) (hacc : ∀ y ∈ acc, lt x y = true) :
    ∃ pre post, ys.reverse ++ acc = pre ++ post ∧
      insertSorted.go lt x ys acc = pre ++ x :: post ∧
      (∀ y ∈ post, lt x y = true) ∧ ∀ pre' y, pre = pre' ++ [y] → lt x y = false := by
  induction ys generalizing acc with
  | nil => exact ⟨[], acc, rfl, rfl, hacc, fun pre' y h => absurd h.symm (by simp)⟩
  | cons y ys ih =>
    unfold insertSorted.go
    by_cases hxy : lt x y = true
    · -- `x` passes `y`, which joins the part already passed
      rw [if_pos hxy]
      have hacc' : ∀ z ∈ y :: acc, lt x z = true := by
        intro z hz
        rcases List.mem_cons.mp hz with rfl | hz
        · exact hxy
        · exact hacc z hz
      obtain ⟨pre, post, hsplit, heq, hpost, hlast⟩ := ih (y :: acc) hacc'
      refine ⟨pre, post, ?_, heq, hpost, hlast⟩
      rw [List.reverse_cons, List.append_assoc, List.singleton_append]
      exact hsplit
    · -- `x` stops right after `y`, the last element it was compared with
      rw [if_neg hxy]
      refine ⟨(y :: ys).reverse, acc, rfl, rfl, hacc, ?_⟩
      intro pre' z h
      rw [List.reverse_cons] at h
      have hz : y = z := by simpa using congrArg List.getLast? h
      rw [← hz]
      simpa using hxy

/-- Inserting `x` splits the list in two: `x` passed every element after it, and did not pass the
last element before it. -/
theorem insertSorted_split (x : α) (xs : List α) :
    ∃ pre post, xs = pre ++ post ∧ insertSorted lt x xs = pre ++ x :: post ∧
      (∀ y ∈ post, lt x y = true) ∧ ∀ pre' y, pre = pre' ++ [y] → lt x y = false := by
  obtain ⟨pre, post, hsplit, heq, hpost, hlast⟩ :=
    insertSorted_go_split lt x xs.reverse [] (by simp)
  rw [List.reverse_reverse, List.append_nil] at hsplit
  exact ⟨pre, post, hsplit, heq, hpost, hlast⟩

end Insertion

section Map

variable {α β : Type} (f : α → β) (lt : β → β → Bool)

theorem insertSorted_go_map (x : α) (ys acc : List α) :
    (insertSorted.go (fun a b => lt (f a) (f b)) x ys acc).map f =
      insertSorted.go lt (f x) (ys.map f) (acc.map f) := by
  induction ys generalizing acc with
  | nil => simp [insertSorted.go]
  | cons y ys ih =>
    simp only [List.map_cons, insertSorted.go]
    by_cases hxy : lt (f x) (f y) = true
    · simp [hxy, ih]
    · simp [hxy]

theorem insertSorted_map (x : α) (xs : List α) :
    (insertSorted (fun a b => lt (f a) (f b)) x xs).map f = insertSorted lt (f x) (xs.map f) := by
  unfold insertSorted
  rw [insertSorted_go_map, List.map_reverse, List.map_nil]

/-- Sorting by a comparison that factors through `f`, then applying `f`, is sorting the images. -/
theorem insertionSort_map (xs : List α) :
    (insertionSort (fun a b => lt (f a) (f b)) xs).map f = insertionSort lt (xs.map f) := by
  -- inserting the rest into any prefix commutes with `f`
  have h : ∀ acc : List α,
      (xs.foldl (fun acc x => insertSorted (fun a b => lt (f a) (f b)) x acc) acc).map f =
        (xs.map f).foldl (fun acc x => insertSorted lt x acc) (acc.map f) := by
    induction xs with
    | nil => simp
    | cons x xs ih =>
      intro acc
      rw [List.foldl_cons, ih, List.map_cons, List.foldl_cons, insertSorted_map]
  exact h []

end Map

/-! ## Inserting by a key is the stable sort by that key -/

section Stable

variable {α β : Type} [LinearOrder β] (key : α → β)

/-- The core library's tie-breaking comparison on tagged elements is the lexicographic order of
key and tag. -/
theorem zipIdxLE_key_iff (p q : α × Nat) :
    List.zipIdxLE (fun a b => decide (key a ≤ key b)) p q = true ↔
      toLex (key p.1, p.2) ≤ toLex (key q.1, q.2) := by
  rw [Prod.Lex.toLex_le_toLex]
  simp only [List.zipIdxLE]
  by_cases h₁ : key p.1 ≤ key q.1 <;> by_cases h₂ : key q.1 ≤ key p.1
  · -- equal keys: the tags decide
    have heq : key p.1 = key q.1 := le_antisymm h₁ h₂
    simp [heq]
  · have hlt : key p.1 < key q.1 := lt_of_not_ge h₂
    simp [h₁, h₂, hlt]
  · have hlt : key q.1 < key p.1 := lt_of_not_ge h₁
    simp [h₁, hlt.ne', not_lt_of_gt hlt]
  · exact absurd (le_total (key p.1) (key q.1)) (by simp [h₁, h₂])

/-- Inserting a tagged element whose tag is above every tag already sorted keeps the list sorted
by key, then tag. -/
theorem insertSorted_tagged_pairwise {acc : List (α × Nat)} {x : α × Nat}
    (hacc : acc.Pairwise fun p q => toLex (key p.1, p.2) ≤ toLex (key q.1, q.2))
    (hx : ∀ p ∈ acc, p.2 < x.2) :
    (insertSorted (fun p q => decide (key p.1 < key q.1)) x acc).Pairwise
      fun p q => toLex (key p.1, p.2) ≤ toLex (key q.1, q.2) := by
  obtain ⟨pre, post, rfl, heq, hpost, hlast⟩ := insertSorted_split _ x acc
  rw [heq]
  obtain ⟨hpre, hpost', hcross⟩ := List.pairwise_append.mp hacc
  -- `x` sorts strictly before every element it passed
  have hx_post : ∀ q ∈ post, toLex (key x.1, x.2) ≤ toLex (key q.1, q.2) := by
    intro q hq
    have hlt : key x.1 < key q.1 := by simpa using hpost q hq
    exact Prod.Lex.toLex_le_toLex.mpr (.inl hlt)
  -- every element before `x` is at most the one `x` stopped at, which is at most `x`
  have hpre_x : ∀ p ∈ pre, toLex (key p.1, p.2) ≤ toLex (key x.1, x.2) := by
    rcases List.eq_nil_or_concat pre with rfl | ⟨pre', y, rfl⟩
    · simp
    · rw [List.concat_eq_append] at hlast hpre ⊢
      have hky : key y.1 ≤ key x.1 := not_lt.mp (by simpa using hlast pre' y rfl)
      have hy : y.2 < x.2 := hx y (by simp)
      have hyx : toLex (key y.1, y.2) ≤ toLex (key x.1, x.2) := by
        rcases lt_or_eq_of_le hky with h | h
        · exact Prod.Lex.toLex_le_toLex.mpr (.inl h)
        · exact Prod.Lex.toLex_le_toLex.mpr (.inr ⟨h, hy.le⟩)
      intro p hp
      rcases List.mem_append.mp hp with hp | hp
      · exact le_trans ((List.pairwise_append.mp hpre).2.2 p hp y (by simp)) hyx
      · rw [List.mem_singleton.mp hp]
        exact hyx
  refine List.pairwise_append.mpr ⟨hpre, List.pairwise_cons.mpr ⟨hx_post, hpost'⟩, ?_⟩
  intro p hp q hq
  rcases List.mem_cons.mp hq with rfl | hq
  · exact hpre_x p hp
  · exact hcross p hp q hq

/-- Inserting tagged elements in increasing tag order, each above the tags already sorted, keeps
the list sorted by key, then tag. -/
theorem foldl_insertSorted_tagged_pairwise (xs acc : List (α × Nat))
    (hacc : acc.Pairwise fun p q => toLex (key p.1, p.2) ≤ toLex (key q.1, q.2))
    (hxs : xs.Pairwise fun p q => p.2 < q.2) (hsep : ∀ p ∈ acc, ∀ q ∈ xs, p.2 < q.2) :
    (xs.foldl (fun acc x => insertSorted (fun p q => decide (key p.1 < key q.1)) x acc)
      acc).Pairwise fun p q => toLex (key p.1, p.2) ≤ toLex (key q.1, q.2) := by
  induction xs generalizing acc with
  | nil => simpa using hacc
  | cons x xs ih =>
    rw [List.foldl_cons]
    obtain ⟨hx_xs, hxs⟩ := List.pairwise_cons.mp hxs
    refine ih _ (insertSorted_tagged_pairwise key hacc fun p hp => hsep p hp x (by simp)) hxs ?_
    intro p hp q hq
    rcases List.mem_cons.mp ((insertSorted_perm _ x acc).mem_iff.mp hp) with rfl | hp
    · exact hx_xs q hq
    · exact hsep p hp q (List.mem_cons_of_mem x hq)

omit [LinearOrder β] in
/-- A position tags one element of a list. -/
theorem eq_of_mem_zipIdx_of_snd_eq {l : List α} {p q : α × Nat} (hp : p ∈ l.zipIdx)
    (hq : q ∈ l.zipIdx) (h : p.2 = q.2) : p = q := by
  obtain ⟨a, i⟩ := p
  obtain ⟨b, j⟩ := q
  obtain rfl : i = j := h
  obtain ⟨_, ha⟩ := List.mem_zipIdx' hp
  obtain ⟨_, hb⟩ := List.mem_zipIdx' hq
  rw [ha, hb]

/-- Sorting by insertion with the strict order of a key gives the library's stable merge sort by
that key: elements of equal key keep their input order. -/
theorem insertionSort_eq_mergeSort (l : List α) :
    insertionSort (fun a b => decide (key a < key b)) l =
      l.mergeSort (fun a b => decide (key a ≤ key b)) := by
  -- tag each element with its position; by key, then tag, the tagged elements are all distinct,
  -- so the tagged insertion sort and the tagged merge sort, both sorted, coincide
  let le : α → α → Bool := fun a b => decide (key a ≤ key b)
  have hinc : l.zipIdx.Pairwise fun p q => p.2 < q.2 := by
    apply List.pairwise_map.mp
    rw [List.zipIdx_map_snd]
    exact List.pairwise_lt_range'
  have hins := foldl_insertSorted_tagged_pairwise key l.zipIdx [] .nil hinc (by simp)
  have hmerge : (l.zipIdx.mergeSort (List.zipIdxLE le)).Pairwise
      fun p q => toLex (key p.1, p.2) ≤ toLex (key q.1, q.2) := by
    refine (List.pairwise_mergeSort (List.zipIdxLE_trans ?_) (List.zipIdxLE_total ?_)
      l.zipIdx).imp fun {p q} h => (zipIdxLE_key_iff key p q).mp h
    · intro a b c hab hbc
      simpa [le] using le_trans (by simpa [le] using hab) (by simpa [le] using hbc)
    · intro a b
      simpa [le] using le_total (key a) (key b)
  have htagged : insertionSort (fun p q => decide (key p.1 < key q.1)) l.zipIdx =
      l.zipIdx.mergeSort (List.zipIdxLE le) := by
    refine List.Perm.eq_of_pairwise ?_ hins hmerge
      ((insertionSort_perm _ _).trans (List.mergeSort_perm _ _).symm)
    intro p q hp hq hpq hqp
    have hp' := (insertionSort_perm _ _).mem_iff.mp hp
    have hq' := List.mem_mergeSort.mp hq
    have hkey := Prod.ext_iff.mp (toLex.injective (le_antisymm hpq hqp))
    exact eq_of_mem_zipIdx_of_snd_eq hp' hq' hkey.2
  calc insertionSort (fun a b => decide (key a < key b)) l
      = insertionSort (fun a b => decide (key a < key b)) (l.zipIdx.map Prod.fst) := by
        rw [List.zipIdx_map_fst]
    _ = (insertionSort (fun p q => decide (key p.1 < key q.1)) l.zipIdx).map Prod.fst :=
        (insertionSort_map Prod.fst _ l.zipIdx).symm
    _ = l.mergeSort le := by rw [htagged, List.mergeSort_zipIdx]

end Stable

/-! ## Diagnostics -/

namespace Stage

/-- Whether a stage is one of the five of the pipeline. -/
def inPipeline : Stage → Bool
  | other _ => false
  | _ => true

theorem eq_of_rank_eq {s t : Stage} (hs : s.inPipeline = true) (ht : t.inPipeline = true)
    (h : s.rank = t.rank) : s = t := by
  cases s <;> cases t <;> simp_all [inPipeline, rank]

end Stage

namespace Diagnostic

/-- A diagnostic of a pipeline stage about a ranked key: the diagnostics a sweep reports. -/
def Reported (d : Diagnostic) : Prop := d.stage.inPipeline = true ∧ d.key.Ranked

instance : DecidablePred Reported := fun d =>
  inferInstanceAs (Decidable (d.stage.inPipeline = true ∧ d.key.Ranked))

/-- The place of a diagnostic in report order: stage rank, then key rank, then metric. -/
def orderKey (d : Diagnostic) : Nat ×ₗ ((Int ×ₗ (String ×ₗ Int)) ×ₗ String) :=
  toLex (d.stage.rank, toLex (d.key.rank, d.metric))

/-- On reported diagnostics the sort test is the strict order of order keys. -/
theorem before_eq_true_iff {a b : Diagnostic} (ha : a.Reported) (hb : b.Reported) :
    before a b = true ↔ a.orderKey < b.orderKey := by
  simp only [before, orderKey, Prod.Lex.toLex_lt_toLex]
  by_cases hstage : a.stage = b.stage
  · by_cases hkey : a.key = b.key
    · -- same stage and key: the metrics decide
      simp [hstage, hkey]
    · -- same stage, different ranked keys: the key order decides, and key ranks differ
      have hrank : a.key.rank ≠ b.key.rank := fun h => hkey (Key.eq_of_rank_eq ha.2 hb.2 h)
      simp [hstage, hkey, Key.lt_iff_rank_lt ha.2 hb.2, hrank]
  · -- different pipeline stages have different ranks
    have hrank : a.stage.rank ≠ b.stage.rank := fun h => hstage (Stage.eq_of_rank_eq ha.1 hb.1 h)
    simp [hstage, hrank]

/-- Reported diagnostics are sorted stably by order key. -/
theorem sort_eq_mergeSort {ds : List Diagnostic} (h : ∀ d ∈ ds, d.Reported) :
    sort ds = ds.mergeSort fun a b => decide (a.orderKey ≤ b.orderKey) := by
  -- sort the diagnostics together with the proof that they are reported, where the sort test is
  -- the strict order of order keys everywhere
  let xs := ds.attachWith Reported h
  have hxs : xs.map Subtype.val = ds := List.unattach_attachWith
  have hbefore : (fun a b : {d : Diagnostic // d.Reported} => before a.1 b.1) =
      fun a b => decide (a.1.orderKey < b.1.orderKey) := by
    funext a b
    exact Bool.eq_iff_iff.mpr ((before_eq_true_iff a.2 b.2).trans decide_eq_true_iff.symm)
  calc sort ds = insertionSort before (xs.map Subtype.val) := by rw [hxs]; rfl
    _ = (insertionSort (fun a b : {d : Diagnostic // d.Reported} => before a.1 b.1) xs).map Subtype.val :=
        (insertionSort_map Subtype.val before xs).symm
    _ = (xs.mergeSort fun a b => decide (a.1.orderKey ≤ b.1.orderKey)).map Subtype.val := by
        rw [hbefore, insertionSort_eq_mergeSort fun a : {d : Diagnostic // d.Reported} => a.1.orderKey]
    _ = ds.mergeSort fun a b => decide (a.orderKey ≤ b.orderKey) := by
        rw [List.map_mergeSort (l := xs) (f := Subtype.val)
          (r := fun a b => decide (a.1.orderKey ≤ b.1.orderKey))
          (s := fun a b => decide (a.orderKey ≤ b.orderKey)) fun _ _ _ _ => rfl, hxs]

theorem ofStage_append (ds es : List Diagnostic) (s : Stage) :
    ofStage (ds ++ es) s = ofStage ds s ++ ofStage es s :=
  List.filter_append ds es

theorem ofStage_eq_nil {ds : List Diagnostic} {s : Stage} (h : ∀ d ∈ ds, d.stage ≠ s) :
    ofStage ds s = [] := by
  unfold ofStage
  rw [List.filter_eq_nil_iff]
  intro d hd
  simpa using h d hd

theorem sort_perm (ds : List Diagnostic) : (sort ds).Perm ds :=
  insertionSort_perm before ds

/-- Sorting keeps the number of diagnostics of each stage. -/
theorem length_ofStage_sort (ds : List Diagnostic) (s : Stage) :
    (ofStage (sort ds) s).length = (ofStage ds s).length :=
  ((sort_perm ds).filter _).length_eq

end Diagnostic

namespace DiagnosticList

theorem foldl_add_added (calls : List (List Diagnostic)) (l : DiagnosticList) :
    (calls.foldl add l).added = l.added ++ calls.flatten := by
  induction calls generalizing l with
  | nil => simp
  | cons ds calls ih => simp [ih, add]

/-- After any additions of reported diagnostics, the list hands out exactly the diagnostics
added, sorted by stage, key and metric, with ties in the order they were added: the stable sort
of the diagnostics in order of addition. Its length is the number added. -/
theorem items_stable_sort (calls : List (List Diagnostic))
    (h : ∀ d ∈ calls.flatten, d.Reported) :
    let l := calls.foldl add {}
    l.items = calls.flatten.mergeSort (fun a b => decide (a.orderKey ≤ b.orderKey)) ∧
    l.items.Perm calls.flatten ∧
    l.items.Pairwise (fun a b => a.orderKey ≤ b.orderKey) ∧
    (∀ a b, a.orderKey = b.orderKey → [a, b].Sublist calls.flatten → [a, b].Sublist l.items) ∧
    l.len = calls.flatten.length := by
  intro l
  have hadded : l.added = calls.flatten := by simp [l, foldl_add_added]
  have hitems : l.items = calls.flatten.mergeSort fun a b => decide (a.orderKey ≤ b.orderKey) := by
    rw [items, hadded]
    exact Diagnostic.sort_eq_mergeSort h
  -- the order by order keys is transitive and total, as the merge sort's lemmas ask
  have htrans : ∀ a b c : Diagnostic, decide (a.orderKey ≤ b.orderKey) = true →
      decide (b.orderKey ≤ c.orderKey) = true → decide (a.orderKey ≤ c.orderKey) = true := by
    intro a b c hab hbc
    simpa using le_trans (by simpa using hab) (by simpa using hbc)
  have htotal : ∀ a b : Diagnostic,
      (decide (a.orderKey ≤ b.orderKey) || decide (b.orderKey ≤ a.orderKey)) = true := by
    intro a b
    simpa using le_total a.orderKey b.orderKey
  refine ⟨hitems, ?_, ?_, ?_, ?_⟩
  · rw [hitems]
    exact List.mergeSort_perm _ _
  · rw [hitems]
    exact (List.pairwise_mergeSort htrans htotal _).imp fun h => by simpa using h
  · intro a b hab hsub
    rw [hitems]
    exact List.pair_sublist_mergeSort htrans htotal (by simp [hab]) hsub
  · simp [len, hadded]

/-- The diagnostics of the list test: one added call of five, from two keys of the same cell
and metric order apart to stages at both ends. -/
theorem items_stable_sort_sample :
    let calls : List (List Diagnostic) :=
      [[{ stage := .aggregate, key := ⟨"bimod", "li", 512⟩, reason := "" },
        { stage := .parse, key := ⟨"bimod", "gcc", 512⟩, metric := "sim_IPC", reason := "" },
        { stage := .parse, key := ⟨"bimod", "gcc", 512⟩, metric := "bpred_misses", reason := "" },
        { stage := .execute, key := ⟨"gshare", "gcc", 512⟩, reason := "" },
        { stage := .execute, key := ⟨"nottaken", "vortex", 0⟩, reason := "" }]]
    (∀ d ∈ calls.flatten, d.Reported) ∧
    let l := calls.foldl add {}
    l.items = calls.flatten.mergeSort (fun a b => decide (a.orderKey ≤ b.orderKey)) ∧
    l.items.Perm calls.flatten ∧
    l.items.Pairwise (fun a b => a.orderKey ≤ b.orderKey) ∧
    (∀ a b, a.orderKey = b.orderKey → [a, b].Sublist calls.flatten → [a, b].Sublist l.items) ∧
    l.len = calls.flatten.length := by
  intro calls
  have h : ∀ d ∈ calls.flatten, d.Reported := by decide
  exact ⟨h, items_stable_sort calls h⟩

end DiagnosticList

end PredictorSweep
