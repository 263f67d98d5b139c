import PredictorSweep.Proofs.YamlScalars
import PredictorSweep.Yaml.Decode
/-!
# Decoding what the writer wrote

The writer's values come back from the reader as nodes; `Node.reads` says which nodes a written
value can come back as: a scalar of the same text, tagged as the reader tags the style the
writer chose for it, and collections whose items and entries read the written ones in order. A
reader that keeps to this is faithful to the writer; on such nodes the typed decoders give back
what was written, and a record decodes a mapping of distinct field names entry by entry.

Main statements:

- `Node.reads`, `Node.readsEntries`: the nodes that read written values;
- `Decoder.text_of_reads`, `Decoder.integer_of_reads`, `Decoder.flag_of_reads`,
  `Decoder.list_of_reads`: typed decoders read back what was written;
- `Decoder.distinctKeys_of_textKeys`: distinct text keys record no error;
- `Decoder.record_textKeys`: a record decodes a mapping of distinct fields as a fold over its
  entries.
-/

namespace PredictorSweep.Yaml

/-! ### Nodes that read written values -/

namespace Node

/-- Whether a node is what the reader composes from a mapping key the writer wrote: a scalar of
the key's text, tagged as the reader tags the style the writer chose for it. -/
def readsKey (n : Node) (key : String) : Bool :=
  match n with
  | .scalar t tag _ _ =>
    t == key && tag == scalarTag "" key (chooseStyle key (Value.ofString key).style true)
  | _ => false

mutual

/-- Whether a node is what the reader composes from a written value: a scalar of the same text,
tagged as the reader tags the style the writer chose; a sequence or a mapping whose items or
entries read the written ones in order. -/
def reads : Node → Value → Bool
  | .scalar t tag _ _, .scalar t' asked =>
    t == t' && tag == scalarTag "" t' (chooseStyle t' asked false)
  | .sequence items tag _, .sequence vs => tag == "!!seq" && readsItems items vs
  | .mapping entries tag _, .mapping es => tag == "!!map" && readsEntries entries es
  | _, _ => false

/-- Whether nodes read written items, one by one. -/
def readsItems : List Node → List Value → Bool
  | [], [] => true
  | n :: ns, v :: vs => n.reads v && readsItems ns vs
  | _, _ => false

/-- Whether node entries read written entries, one by one. -/
def readsEntries : List (Node × Node) → List (String × Value) → Bool
  | [], [] => true
  | (k, n) :: ns, (key, v) :: vs => k.readsKey key && n.reads v && readsEntries ns vs
  | _, _ => false

end

theorem reads_scalar {n : Node} {t : String} {asked : ScalarStyle}
    (h : n.reads (.scalar t asked) = true) :
    ∃ style line, n = .scalar t (scalarTag "" t (chooseStyle t asked false)) style line := by
  cases n with
  | scalar t' tag style line =>
    simp only [reads, Bool.and_eq_true, beq_iff_eq] at h
    obtain ⟨rfl, rfl⟩ := h
    exact ⟨style, line, rfl⟩
  | _ => simp [reads] at h

theorem reads_sequence {n : Node} {vs : List Value} (h : n.reads (.sequence vs) = true) :
    ∃ items line, n = .sequence items "!!seq" line ∧ readsItems items vs = true := by
  cases n with
  | sequence items tag line =>
    simp only [reads, Bool.and_eq_true, beq_iff_eq] at h
    obtain ⟨rfl, h⟩ := h
    exact ⟨items, line, rfl, h⟩
  | _ => simp [reads] at h

theorem reads_mapping {n : Node} {es : List (String × Value)} (h : n.reads (.mapping es) = true) :
    ∃ entries line, n = .mapping entries "!!map" line ∧ readsEntries entries es = true := by
  cases n with
  | mapping entries tag line =>
    simp only [reads, Bool.and_eq_true, beq_iff_eq] at h
    obtain ⟨rfl, h⟩ := h
    exact ⟨entries, line, rfl, h⟩
  | _ => simp [reads] at h

/-- A key the writer wrote is read as a string scalar of its text. -/
theorem readsKey_str {k : Node} {key : String} (h : k.readsKey key = true) :
    ∃ style line, k = .scalar key "!!str" style line := by
  cases k with
  | scalar t tag style line =>
    simp only [readsKey, Bool.and_eq_true, beq_iff_eq, scalarTag_ofString] at h
    obtain ⟨rfl, rfl⟩ := h
    exact ⟨style, line, rfl⟩
  | _ => simp [readsKey] at h

theorem readsItems_cons {items : List Node} {v : Value} {vs : List Value}
    (h : readsItems items (v :: vs) = true) :
    ∃ n rest, items = n :: rest ∧ n.reads v = true ∧ readsItems rest vs = true := by
  match items, h with
  | n :: rest, h =>
    simp only [readsItems, Bool.and_eq_true] at h
    exact ⟨n, rest, rfl, h.1, h.2⟩

theorem readsItems_nil {items : List Node} (h : readsItems items [] = true) : items = [] := by
  match items, h with
  | [], _ => rfl

/-- The first entry of node entries that read written ones: a string scalar of the written key,
and a node that reads the written value. -/
theorem readsEntries_cons {entries : List (Node × Node)} {key : String} {v : Value}
    {es : List (String × Value)} (h : readsEntries entries ((key, v) :: es) = true) :
    ∃ style line n rest, entries = (.scalar key "!!str" style line, n) :: rest ∧
      n.reads v = true ∧ readsEntries rest es = true := by
  match entries, h with
  | (k, n) :: rest, h =>
    simp only [readsEntries, Bool.and_eq_true] at h
    obtain ⟨style, line, rfl⟩ := readsKey_str h.1.1
    exact ⟨style, line, n, rest, rfl, h.1.2, h.2⟩

theorem readsEntries_nil {entries : List (Node × Node)} (h : readsEntries entries [] = true) :
    entries = [] := by
  match entries, h with
  | [], _ => rfl

/-- The keys of node entries that read written entries are string scalars of the written keys. -/
theorem readsEntries_keys {entries : List (Node × Node)} {es : List (String × Value)}
    (h : readsEntries entries es = true) :
    (∀ e ∈ entries, ∃ style line, e.1 = .scalar e.1.keyText "!!str" style line) ∧
      entries.map (·.1.keyText) = es.map (·.1) := by
  induction es generalizing entries with
  | nil => simp [readsEntries_nil h]
  | cons e es ih =>
    obtain ⟨key, v⟩ := e
    obtain ⟨style, line, n, rest, rfl, -, hrest⟩ := readsEntries_cons h
    obtain ⟨hkeys, hmap⟩ := ih hrest
    refine ⟨?_, by rw [List.map_cons, List.map_cons, hmap]; rfl⟩
    intro e he
    rcases List.mem_cons.mp he with rfl | he
    · exact ⟨style, line, rfl⟩
    · exact hkeys e he

end Node

/-- A relation that holds between every element of a list and every later one holds between
an element numbered by its place and every element after that place. -/
theorem pairwise_zipIdx_drop {α : Type} {R : α → α → Prop} {l : List α} (h : l.Pairwise R)
    {x : α} {i : Nat} (hx : (x, i) ∈ l.zipIdx) {y : α} (hy : y ∈ l.drop (i + 1)) : R x y := by
  rw [List.mem_zipIdx_iff_getElem?] at hx
  have hxt : x ∈ l.take (i + 1) := by
    apply List.mem_of_getElem? (i := i)
    rw [List.getElem?_take_of_lt (Nat.lt_succ_self i)]
    exact hx
  rw [← List.take_append_drop (i + 1) l, List.pairwise_append] at h
  exact h.2.2 x hxt y hy

/-- Keys that are string scalars of distinct texts. -/
def TextKeys (entries : List (Node × Node)) : Prop :=
  (∀ e ∈ entries, ∃ style line, e.1 = .scalar e.1.keyText "!!str" style line) ∧
    (entries.map (·.1.keyText)).Nodup

theorem textKeys_of_readsEntries {entries : List (Node × Node)} {es : List (String × Value)}
    (h : Node.readsEntries entries es = true) (hnodup : (es.map (·.1)).Nodup) :
    TextKeys entries :=
  ⟨(Node.readsEntries_keys h).1, (Node.readsEntries_keys h).2 ▸ hnodup⟩

namespace Decoder

@[simp] theorem isolated_pure {α : Type} (a : α) : isolated (pure a : Decoder α) = pure (.ok a) := rfl

@[simp] theorem throw_bind {α β : Type} (m : String) (f : α → Decoder β) :
    (throw m >>= f : Decoder β) = throw m := rfl

@[simp] theorem runOn_pure {α : Type} (doc : Document) (a : α) : runOn doc (pure a) = .ok a := rfl

@[simp] theorem runOn_throw {α : Type} (doc : Document) (m : String) :
    runOn doc (throw m : Decoder α) = .error m := rfl

@[simp] theorem text_str (t : String) (style : ScalarStyle) (line : Nat) :
    text (.scalar t "!!str" style line) = pure (some t) := by
  simp [text, followAlias, resolved]

theorem isMergeKey_str (t : String) (style : ScalarStyle) (line : Nat) :
    isMergeKey (.scalar t "!!str" style line) = false := by
  unfold isMergeKey
  split
  case h_1 heq =>
    injection heq with _ htag
    subst htag
    rfl
  case h_2 => rfl

/-- Keys of distinct texts hold no repeat, so nothing is recorded. -/
theorem distinctKeys_of_textKeys {entries : List (Node × Node)} (h : TextKeys entries) :
    distinctKeys entries = pure true := by
  obtain ⟨hkeys, hnodup⟩ := h
  have hpair : (entries.map (·.1)).Pairwise (fun k k' => k.sameKey k' = false) := by
    rw [List.pairwise_map]
    refine (List.pairwise_map.mp (List.nodup_iff_pairwise_ne.mp hnodup)).imp_of_mem ?_
    intro e e' he he' hne
    obtain ⟨s, l, hs⟩ := hkeys e he
    obtain ⟨s', l', hs'⟩ := hkeys e' he'
    rw [hs, hs']
    simpa [Node.sameKey] using hne
  unfold distinctKeys
  simp only []
  generalize hr : List.flatMap _ _ = repeats
  have hnil : repeats = [] := by
    rw [← hr, List.flatMap_eq_nil_iff]
    intro p hp
    rw [List.filterMap_eq_nil_iff]
    intro k' hk'
    simp [pairwise_zipIdx_drop hpair hp hk']
  subst hnil
  simp


theorem text_of_readsKey {k : Node} {key : String} (h : k.readsKey key = true) :
    text k = pure (some key) := by
  obtain ⟨style, line, rfl⟩ := Node.readsKey_str h
  exact text_str key style line

/-- Text is read back as written, whatever style the writer chose for it. -/
theorem text_of_reads {n : Node} {s : String} (h : n.reads (Value.ofString s) = true) :
    text n = pure (some s) := by
  rw [Value.ofString_scalar] at h
  obtain ⟨style, line, rfl⟩ := Node.reads_scalar h
  rw [scalarTag_ofString]
  exact text_str s style line

/-- An integer of the signed 64-bit range is read back as written. -/
theorem integer_of_reads {n : Node} {i : Int} (hlo : -(Nat.pow 2 63 : Int) ≤ i)
    (hhi : i < Nat.pow 2 63) (h : n.reads (Value.ofInt i) = true) (target : String) :
    integer target n = pure (some i) := by
  obtain ⟨style, line, rfl⟩ := Node.reads_scalar h
  have hplain : plainTag (toString i) = "!!int" := by
    unfold plainTag
    rw [resolve_int hlo hhi (Or.inl rfl)]
  have hmerge : (toString i == "<<") = false := by
    rw [beq_eq_false_iff_ne]
    intro heq
    have := mem_toString_int (c := '<') (by rw [heq]; decide)
    simp at this
  have htag : scalarTag "" (toString i) (chooseStyle (toString i) .plain false) = "!!int" := by
    rw [chooseStyle_toString_int]
    simp only [scalarTag, hmerge, hplain]
    rfl
  have hstr : ("!!int" == "!!str") = false := by decide
  simp only [integer, followAlias, htag, resolved, hstr, Bool.false_eq_true,
    ↓reduceIte]
  rw [resolve_int hlo hhi (Or.inr rfl)]
  rfl

/-- A boolean is read back as written. -/
theorem flag_of_reads {n : Node} {b : Bool} (h : n.reads (Value.ofBool b) = true) :
    flag n = pure (some b) := by
  obtain ⟨style, line, rfl⟩ := Node.reads_scalar h
  cases b
  case false =>
    have htag : scalarTag "" "false" (chooseStyle "false" .plain false) = "!!bool" := by decide
    simp only [flag, followAlias, Bool.false_eq_true, ↓reduceIte, htag]
    rfl
  case true =>
    have htag : scalarTag "" "true" (chooseStyle "true" .plain false) = "!!bool" := by decide
    simp only [flag, followAlias, ↓reduceIte, htag]
    rfl

theorem mapM_of_reads {α : Type} {item : Node → Decoder (Option α)} {w : α → Value}
    {xs : List α} (hitem : ∀ x ∈ xs, ∀ m, m.reads (w x) = true → item m = pure (some x))
    {items : List Node} (h : Node.readsItems items (xs.map w) = true) :
    items.mapM item = pure (xs.map some) := by
  induction xs generalizing items with
  | nil =>
    rw [Node.readsItems_nil h]
    rfl
  | cons x xs ih =>
    obtain ⟨m, rest, rfl, hm, hrest⟩ := Node.readsItems_cons h
    rw [List.mapM_cons, hitem x List.mem_cons_self m hm, pure_bind,
      ih (fun x' hx' => hitem x' (List.mem_cons_of_mem x hx')) hrest]
    simp

/-- A list is read back as written when each of its items is. -/
theorem list_of_reads {α : Type} {target : String} {item : Node → Decoder (Option α)}
    {w : α → Value} {xs : List α} (hitem : ∀ x ∈ xs, ∀ m, m.reads (w x) = true → item m = pure (some x))
    {n : Node} (h : n.reads (.sequence (xs.map w)) = true) :
    list target item n = pure (some (some xs)) := by
  obtain ⟨items, line, rfl, h⟩ := Node.reads_sequence h
  simp only [list, followAlias, mapM_of_reads hitem h, pure_bind]
  simp [List.reduceOption, List.filterMap_map]

/-- The loop of a record over entries whose keys are distinct texts, none met before: each value
is decoded into its field, in order. -/
theorem forIn_textKeys {σ : Type} (setField : String → Node → σ → Decoder σ)
    (body : Node × Node → σ × List String → Decoder (ForInStep (σ × List String)))
    {entries : List (Node × Node)} (h : TextKeys entries)
    (hbody : ∀ e ∈ entries, ∀ acc seen, e.1.keyText ∉ seen →
      body e (acc, seen) =
        setField e.1.keyText e.2 acc >>= fun acc' => pure (.yield (acc', e.1.keyText :: seen)))
    (acc : σ) (seen : List String) (hseen : ∀ e ∈ entries, e.1.keyText ∉ seen) :
    (forIn entries (acc, seen) body >>= fun r => pure r.1) =
      entries.foldlM (fun acc e => setField e.1.keyText e.2 acc) acc := by
  induction entries generalizing acc seen with
  | nil => simp
  | cons e rest ih =>
    obtain ⟨hkeys, hnodup⟩ := h
    rw [List.map_cons, List.nodup_cons] at hnodup
    have hrest : TextKeys rest := ⟨fun e' he' => hkeys e' (List.mem_cons_of_mem e he'), hnodup.2⟩
    -- the key just decoded joins the ones seen; the keys after it differ from it
    have hseen' : ∀ e' ∈ rest, e'.1.keyText ∉ e.1.keyText :: seen := by
      intro e' he' hmem
      rcases List.mem_cons.mp hmem with heq | hmem
      · exact hnodup.1 (heq ▸ List.mem_map_of_mem he')
      · exact hseen e' (List.mem_cons_of_mem e he') hmem
    rw [List.forIn_cons, hbody e List.mem_cons_self acc seen (hseen e List.mem_cons_self),
      List.foldlM_cons, bind_assoc, bind_assoc]
    refine bind_congr fun acc' => ?_
    rw [pure_bind]
    exact ih hrest (fun e' he' => hbody e' (List.mem_cons_of_mem e he')) acc' _ hseen'

theorem record_textKeys {σ : Type} {target : String} {fields : List String}
    {setField : String → Node → σ → Decoder σ} {fuel : Nat} {entries : List (Node × Node)}
    {tag : String} {line : Nat} (h : TextKeys entries) (hfields : ∀ e ∈ entries, e.1.keyText ∈ fields)
    (init : σ) :
    record target fields setField (fuel + 1) (.mapping entries tag line) init =
      entries.foldlM (fun acc e => setField e.1.keyText e.2 acc) init := by
  rw [record.eq_2]
  simp only [followAlias, distinctKeys_of_textKeys h, pure_bind, Bool.not_true,
    Bool.false_eq_true, ↓reduceIte]
  refine forIn_textKeys setField _ h ?_ init [] (fun _ _ => List.not_mem_nil)
  intro ⟨k, v⟩ he acc seen hseen
  obtain ⟨style, l, hk⟩ := h.1 _ he
  have hf := hfields _ he
  simp only at hk hf hseen ⊢
  generalize k.keyText = name at hk hf hseen ⊢
  subst hk
  simp [isMergeKey_str, text_str, hf, hseen]

/-- A record decodes a mapping that reads written entries of distinct field names as a fold
over its entries. -/
theorem record_readsEntries {σ : Type} {target : String} {fields : List String}
    {setField : String → Node → σ → Decoder σ} {fuel : Nat} {entries : List (Node × Node)}
    {es : List (String × Value)} {tag : String} {line : Nat}
    (h : Node.readsEntries entries es = true) (hnodup : (es.map (·.1)).Nodup)
    (hfields : ∀ key ∈ es.map (·.1), key ∈ fields) (init : σ) :
    record target fields setField (fuel + 1) (.mapping entries tag line) init =
      entries.foldlM (fun acc e => setField e.1.keyText e.2 acc) init := by
  refine record_textKeys (textKeys_of_readsEntries h hnodup) (fun e he => hfields _ ?_) init
  rw [← (Node.readsEntries_keys h).2]
  exact List.mem_map_of_mem he

end Decoder

end PredictorSweep.Yaml
