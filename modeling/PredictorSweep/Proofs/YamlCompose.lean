import PredictorSweep.Proofs.YamlBlock
import PredictorSweep.Proofs.YamlRead
/-!
# Reading the tokens of a block document

The lexer cuts the text of a block document of words into the tokens of `docKinds`: a mapping
start, then for each section a key, its word, a value indicator and the section's own mapping,
whose entries are keys and words again, a word or a sequence of items after each. Closing tokens
end every collection. Read from such tokens, the reader builds a node that reads the written
document back (`ofTokens_docKinds`).

The reader looks only at the kinds of the tokens, save for the lines it gives its nodes, which
reading a value back ignores; so the lemmas here speak of the kinds of the tokens still to come
(`Composer.upcoming`). Each read takes at least one token, so fuel of the tokens' number
suffices; each lemma asks for fuel of the length of what it reads.

Main statements:

- `docKinds`: the token kinds of a block document of words;
- `Composer.node_scalar`, `Composer.blockItems_words`, `Composer.blockEntries_section`,
  `Composer.blockEntries_doc`: a scalar, items, a section's and the document's entries;
- `ofTokens_docKinds`: the tokens of a block document read as a document that reads it.
-/

namespace PredictorSweep.Yaml

/-! ### The tokens of a block document -/

/-- The token of a word, in the style the writer chose for it. -/
def wordKind : Value → TokenKind
  | .scalar t asked => .scalar t (chooseStyle t asked false)
  | _ => .streamEnd

/-- The tokens of an entry's value: a word, or a sequence of items. -/
def leafKinds : Value → List TokenKind
  | .sequence items =>
    .blockSequenceStart :: (items.flatMap (fun x => [.blockEntry, wordKind x]) ++ [.blockEnd])
  | v => [wordKind v]

/-- The tokens of an entry: a key, its word, a value indicator and the value. -/
def entryKinds (e : String × Value) : List TokenKind :=
  .key :: .scalar e.1 .plain :: .value :: leafKinds e.2

/-- The tokens of a section's mapping: its start, its entries and its end. -/
def mappingKinds : Value → List TokenKind
  | .mapping fs => .blockMappingStart :: (fs.flatMap entryKinds ++ [.blockEnd])
  | _ => []

/-- The tokens of a section: a key, its word, a value indicator, then its mapping. -/
def sectionKinds (e : String × Value) : List TokenKind :=
  .key :: .scalar e.1 .plain :: .value :: mappingKinds e.2

/-- The tokens of a block document. -/
def docKinds (es : List (String × Value)) : List TokenKind :=
  .streamStart :: .blockMappingStart :: (es.flatMap sectionKinds ++ [.blockEnd, .streamEnd])

/-! ### The reader's tokens -/

/-- A step that succeeds passes its value on. -/
@[simp] theorem except_ok_bind {ε α β : Type} (a : α) (f : α → Except ε β) :
    (Except.ok a >>= f) = f a := rfl

namespace Composer

/-- The kinds of the tokens still to be read. -/
def upcoming (c : Composer) : List TokenKind := (c.tokens.toList.drop c.pos).map (·.kind)

variable {c : Composer} {k : TokenKind} {ks : List TokenKind}

theorem peek_of_upcoming (hs : c.stop = none) (hu : c.upcoming = k :: ks) :
    ∃ t, c.peek = .ok t ∧ t.kind = k := by
  unfold upcoming at hu
  obtain ⟨t, rest, hdrop, rfl, -⟩ := List.map_eq_cons_iff.mp hu
  have hpos : c.pos < c.tokens.size := by
    have := congrArg List.length hdrop
    simp only [List.length_drop, Array.length_toList, List.length_cons] at this
    omega
  have hget : c.tokens[c.pos] = t := by
    have h0 := congrArg (·[0]?) hdrop
    simp only [List.getElem?_drop, Nat.add_zero, List.getElem?_cons_zero,
      Array.getElem?_toList] at h0
    exact Option.some_inj.mp ((Array.getElem?_eq_getElem hpos).symm.trans h0)
  refine ⟨t, ?_, rfl⟩
  simp [peek, hs, Array.getD_eq_getD_getElem?, Array.getElem?_eq_getElem hpos, hget]

theorem upcoming_advance (hu : c.upcoming = k :: ks) : c.advance.upcoming = ks := by
  unfold upcoming at hu ⊢
  simp only [advance, ← List.drop_drop]
  rw [List.map_drop, hu, List.drop_one, List.tail_cons]

/-- Before a token that is neither an anchor nor a tag a node has no properties. -/
theorem properties_none (hs : c.stop = none) (hu : c.upcoming = k :: ks)
    (hk : ∀ a, k ≠ .anchor a) (ht : ∀ h s, k ≠ .tag h s) : c.properties = .ok ({}, c) := by
  obtain ⟨tok, hpeek, hkind⟩ := peek_of_upcoming hs hu
  simp only [properties, hpeek, except_ok_bind, hkind]

theorem properties_scalar (hs : c.stop = none) {t : String} {st : ScalarStyle}
    (hu : c.upcoming = .scalar t st :: ks) : c.properties = .ok ({}, c) :=
  properties_none hs hu (fun _ h => by cases h) (fun _ _ h => by cases h)

/-- A scalar token is read as a scalar node, tagged as its text and style say. -/
theorem node_scalar (hs : c.stop = none) {t : String} {st : ScalarStyle}
    (hu : c.upcoming = .scalar t st :: ks) (n : Nat) (block indentless : Bool) :
    ∃ line, node (n + 1) c block indentless = .ok (.scalar t (scalarTag "" t st) st line, c.advance) := by
  obtain ⟨tok, hpeek, hkind⟩ := peek_of_upcoming hs hu
  have hentry : (TokenKind.scalar t st == .blockEntry) = false := rfl
  refine ⟨tok.start.line + 1, ?_⟩
  simp [node, hpeek, hkind, hentry, properties_scalar hs hu, fullTag, anchorNode]

theorem isOneOf_scalar (tok : Token) {t : String} {st : ScalarStyle}
    (h : tok.kind = .scalar t st) (kinds : List TokenKind)
    (hk : ∀ k ∈ kinds, (TokenKind.scalar t st == k) = false) : isOneOf tok kinds = false := by
  simp only [isOneOf, h, List.contains_eq_any_beq, List.any_eq_false]
  intro k hk' hbeq
  rw [hk k hk'] at hbeq
  exact absurd hbeq (by decide)

theorem wordKind_scalar {v : Value} (hv : v.isWordScalar = true) :
    ∃ t st, wordKind v = .scalar t st := by
  cases v with
  | scalar t asked => exact ⟨t, _, rfl⟩
  | sequence _ => simp [Value.isWordScalar] at hv
  | mapping _ => simp [Value.isWordScalar] at hv

/-- The scalar node of a word's token reads the word back. -/
theorem reads_wordKind {v : Value} {t : String} {st : ScalarStyle} (h : wordKind v = .scalar t st)
    (line : Nat) : (Node.scalar t (scalarTag "" t st) st line).reads v = true := by
  cases v with
  | scalar t' asked =>
    simp only [wordKind, TokenKind.scalar.injEq] at h
    obtain ⟨rfl, rfl⟩ := h
    simp [Node.reads]
  | sequence _ => simp [wordKind] at h
  | mapping _ => simp [wordKind] at h

/-- Reading a token takes a unit of fuel, and fuel above the number of tokens to come leaves
fuel above the number after it. -/
theorem fuel_step (hu : c.upcoming = k :: ks) {n : Nat} (hn : c.upcoming.length < n) :
    ∃ m, n = m + 1 ∧ c.advance.upcoming.length < m := by
  rw [upcoming_advance hu]
  rw [hu, List.length_cons] at hn
  exact ⟨n - 1, by omega, by omega⟩

/-- The items of a sequence of words, each after a block entry, up to the sequence's end. -/
theorem blockItems_words (items : List Value) (hw : ∀ x ∈ items, x.isWordScalar = true)
    {c : Composer} (hs : c.stop = none)
    (hu : c.upcoming = items.flatMap (fun x => [.blockEntry, wordKind x]) ++ .blockEnd :: ks)
    (n : Nat) (hn : c.upcoming.length < n) (start : Mark) (acc : Array Node) :
    ∃ nodes c', blockItems n c start acc = .ok (⟨acc.toList ++ nodes⟩, c') ∧
      Node.readsItems nodes items = true ∧ c'.upcoming = ks ∧ c'.stop = none := by
  induction items generalizing c n acc with
  | nil =>
    obtain ⟨m, rfl, -⟩ := fuel_step hu hn
    obtain ⟨tok, hpeek, hkind⟩ := peek_of_upcoming hs hu
    refine ⟨[], c.advance, ?_, rfl, upcoming_advance hu, hs⟩
    simp [blockItems, hpeek, hkind]
  | cons x xs ih =>
    obtain ⟨t, st, hword⟩ := wordKind_scalar (hw x List.mem_cons_self)
    -- the block entry, then the word
    have hu1 : c.upcoming = .blockEntry :: (.scalar t st ::
        (xs.flatMap (fun x => [.blockEntry, wordKind x]) ++ .blockEnd :: ks)) := by
      rw [hu, List.flatMap_cons, hword]
      rfl
    have hu2 := upcoming_advance hu1
    obtain ⟨m, rfl, hm⟩ := fuel_step hu1 hn
    obtain ⟨m', rfl, hm'⟩ := fuel_step hu2 hm
    obtain ⟨tok, hpeek, hkind⟩ := peek_of_upcoming hs hu1
    obtain ⟨tok2, hpeek2, hkind2⟩ := peek_of_upcoming (c := c.advance) hs hu2
    obtain ⟨line, hnode⟩ := node_scalar (c := c.advance) hs hu2 m' true false
    obtain ⟨nodes, c', hrest, hreads', hu', hs'⟩ := ih (fun y hy => hw y (List.mem_cons_of_mem _ hy))
      (c := c.advance.advance) hs (upcoming_advance hu2) (m' + 1) (by omega)
      (acc.push (.scalar t (scalarTag "" t st) st line))
    refine ⟨.scalar t (scalarTag "" t st) st line :: nodes, c', ?_, ?_, hu', hs'⟩
    · have hone := isOneOf_scalar tok2 hkind2 [.blockEntry, .blockEnd]
        (by intro k hk; simp only [List.mem_cons, List.not_mem_nil, or_false] at hk
            rcases hk with rfl | rfl <;> rfl)
      rw [blockItems]
      simp only [hpeek, hkind, except_ok_bind, hpeek2, hone, Bool.false_eq_true, ↓reduceIte, hnode]
      rw [hrest]
      simp
    · simp [Node.readsItems, reads_wordKind hword line, hreads']

/-- A block sequence of words is read as a sequence node of their scalars. -/
theorem node_blockSequence (items : List Value) (hw : ∀ x ∈ items, x.isWordScalar = true)
    (hs : c.stop = none)
    (hu : c.upcoming = .blockSequenceStart ::
      (items.flatMap (fun x => [.blockEntry, wordKind x]) ++ .blockEnd :: ks))
    (n : Nat) (hn : c.upcoming.length < n) (indentless : Bool) :
    ∃ nd c', node n c true indentless = .ok (nd, c') ∧ nd.reads (.sequence items) = true ∧
      c'.upcoming = ks ∧ c'.stop = none := by
  obtain ⟨m, rfl, hm⟩ := fuel_step hu hn
  obtain ⟨tok, hpeek, hkind⟩ := peek_of_upcoming hs hu
  have hprops := properties_none hs hu (fun _ h => by cases h) (fun _ _ h => by cases h)
  obtain ⟨nodes, c', hitems, hreads, hu', hs'⟩ := blockItems_words items hw (c := c.advance) hs
    (upcoming_advance hu) m hm tok.start #[]
  have hentry : (TokenKind.blockSequenceStart == .blockEntry) = false := rfl
  refine ⟨.sequence nodes (collectionTag "" "!!seq") (tok.start.line + 1), c', ?_, ?_, hu', hs'⟩
  · simp [node, hpeek, hkind, hprops, fullTag, hentry, reserve, hitems, fill]
  · simp [Node.reads, collectionTag, hreads]

/-- The value after a value indicator, read by what reads its tokens when the first of them
opens content. -/
theorem blockValue_of {v : Value} {k : TokenKind} {vk : List TokenKind} (hs : c.stop = none)
    (hu : c.upcoming = .value :: k :: (vk ++ ks))
    (hfirst : [TokenKind.key, .value, .blockEnd].contains k = false)
    {n : Nat} (hn : c.upcoming.length < n)
    (hnode : ∀ (c' : Composer) (m : Nat), c'.stop = none → c'.upcoming = k :: (vk ++ ks) →
      c'.upcoming.length < m →
      ∃ nd c'', node m c' true true = .ok (nd, c'') ∧ nd.reads v = true ∧ c''.upcoming = ks ∧
        c''.stop = none) :
    ∃ nd c', blockValue n c = .ok (nd, c') ∧ nd.reads v = true ∧ c'.upcoming = ks ∧
      c'.stop = none := by
  obtain ⟨m, rfl, hm⟩ := fuel_step hu hn
  obtain ⟨tok, hpeek, hkind⟩ := peek_of_upcoming hs hu
  have hu2 := upcoming_advance hu
  obtain ⟨tok2, hpeek2, hkind2⟩ := peek_of_upcoming (c := c.advance) hs hu2
  have hone : isOneOf tok2 [.key, .value, .blockEnd] = false := by
    simp only [isOneOf, hkind2]
    exact hfirst
  obtain ⟨nd, c'', hnd, hr, hu', hs'⟩ := hnode c.advance m hs hu2 hm
  exact ⟨nd, c'', by simp [blockValue, hpeek, hkind, hpeek2, hone, hnd], hr, hu', hs'⟩

/-- The value of a section's entry: a word, or a sequence of words. -/
theorem blockValue_leaf {v : Value} (hv : v.isLeaf = true) (hs : c.stop = none)
    (hu : c.upcoming = .value :: (leafKinds v ++ ks)) (n : Nat) (hn : c.upcoming.length < n) :
    ∃ nd c', blockValue n c = .ok (nd, c') ∧ nd.reads v = true ∧ c'.upcoming = ks ∧
      c'.stop = none := by
  cases v with
  | scalar t asked =>
    have hu1 : c.upcoming = .value :: .scalar t (chooseStyle t asked false) :: ([] ++ ks) := hu
    refine blockValue_of hs hu1 rfl hn ?_
    intro c' m hs' hu' hm
    obtain ⟨m', rfl, -⟩ := fuel_step hu' hm
    obtain ⟨line, hnode⟩ := node_scalar hs' hu' m' true true
    exact ⟨_, _, hnode, reads_wordKind rfl line, upcoming_advance hu', hs'⟩
  | sequence items =>
    have hw : ∀ x ∈ items, x.isWordScalar = true := by
      simp only [Value.isLeaf, Bool.and_eq_true, List.all_eq_true] at hv
      exact hv.2
    have hu1 : c.upcoming = .value :: .blockSequenceStart ::
        ((items.flatMap (fun x => [.blockEntry, wordKind x]) ++ [.blockEnd]) ++ ks) := hu
    refine blockValue_of hs hu1 rfl hn ?_
    intro c' m hs' hu' hm
    exact node_blockSequence items hw hs' (by simpa using hu') m hm true
  | mapping _ => simp [Value.isLeaf] at hv

/-- A key the writer writes plain is read back as a key. -/
theorem readsKey_plain {key : String} (hk : isKey key = true) (line : Nat) :
    (Node.scalar key (scalarTag "" key .plain) .plain line).readsKey key = true := by
  simp only [isKey, Bool.and_eq_true, ScalarStyle.beq_eq_true] at hk
  simp [Node.readsKey, hk.2]

/-- The entries of a block mapping, each a key, its word, a value indicator and the tokens of
its value, up to the mapping's end; each value is read by the lemma `hval` gives for it. -/
theorem blockEntries_of (kindsOf : Value → List TokenKind) (es : List (String × Value))
    (hkey : ∀ e ∈ es, isKey e.1 = true)
    (hval : ∀ e ∈ es, ∀ (c : Composer) (rest : List TokenKind) (n : Nat), c.stop = none →
      c.upcoming = .value :: (kindsOf e.2 ++ rest) → c.upcoming.length < n →
      ∃ nd c', blockValue n c = .ok (nd, c') ∧ nd.reads e.2 = true ∧ c'.upcoming = rest ∧
        c'.stop = none)
    {c : Composer} (hs : c.stop = none)
    (hu : c.upcoming =
      es.flatMap (fun e => .key :: .scalar e.1 .plain :: .value :: kindsOf e.2) ++ .blockEnd :: ks)
    (n : Nat) (hn : c.upcoming.length < n) (start : Mark) (acc : Array (Node × Node)) :
    ∃ entries c', blockEntries n c start acc = .ok (⟨acc.toList ++ entries⟩, c') ∧
      Node.readsEntries entries es = true ∧ c'.upcoming = ks ∧ c'.stop = none := by
  induction es generalizing c n acc with
  | nil =>
    obtain ⟨m, rfl, -⟩ := fuel_step hu hn
    obtain ⟨tok, hpeek, hkind⟩ := peek_of_upcoming hs hu
    refine ⟨[], c.advance, ?_, rfl, upcoming_advance hu, hs⟩
    simp [blockEntries, hpeek, hkind]
  | cons e es ih =>
    obtain ⟨key, v⟩ := e
    set rest := es.flatMap (fun e => .key :: .scalar e.1 .plain :: .value :: kindsOf e.2) ++
      .blockEnd :: ks with hrest_def
    -- the key indicator, the key's word, then the value from its indicator on
    have hu1 : c.upcoming = .key :: .scalar key .plain :: .value :: (kindsOf v ++ rest) := by
      rw [hu, List.flatMap_cons]
      simp [hrest_def]
    have hu2 := upcoming_advance hu1
    have hu3 := upcoming_advance hu2
    obtain ⟨m, rfl, hm⟩ := fuel_step hu1 hn
    obtain ⟨m', rfl, hm'⟩ := fuel_step hu2 hm
    obtain ⟨tok, hpeek, hkind⟩ := peek_of_upcoming hs hu1
    obtain ⟨tok2, hpeek2, hkind2⟩ := peek_of_upcoming (c := c.advance) hs hu2
    obtain ⟨line, hnode⟩ := node_scalar (c := c.advance) hs hu2 m' true true
    obtain ⟨nd, c'', hv, hreads, hu', hs'⟩ := hval (key, v) List.mem_cons_self c.advance.advance
      rest (m' + 1) hs hu3 (by omega)
    have hlen : c''.upcoming.length < m' + 1 := by
      rw [hu']
      rw [hu3] at hm'
      simp only [List.length_cons, List.length_append] at hm'
      omega
    obtain ⟨entries, c''', hrest, hreads', hu'', hs''⟩ :=
      ih (fun e he => hkey e (List.mem_cons_of_mem _ he))
        (fun e he => hval e (List.mem_cons_of_mem _ he)) hs' hu' (m' + 1) hlen
        (acc.push (.scalar key (scalarTag "" key .plain) .plain line, nd))
    refine ⟨(.scalar key (scalarTag "" key .plain) .plain line, nd) :: entries, c''', ?_, ?_,
      hu'', hs''⟩
    · have hone := isOneOf_scalar tok2 hkind2 [.key, .value, .blockEnd]
        (by intro k hk; simp only [List.mem_cons, List.not_mem_nil, or_false] at hk
            rcases hk with rfl | rfl | rfl <;> rfl)
      rw [blockEntries]
      simp only [hpeek, hkind, except_ok_bind, hpeek2, hone, Bool.false_eq_true, ↓reduceIte,
        hnode, hv]
      rw [hrest]
      simp
    · have hk := readsKey_plain (hkey (key, v) List.mem_cons_self) line
      simp [Node.readsEntries, hk, hreads, hreads']

/-- A block mapping is read as a mapping node of its entries, each value read by the lemma
`hval` gives for it. -/
theorem node_blockMapping (kindsOf : Value → List TokenKind) (es : List (String × Value))
    (hkey : ∀ e ∈ es, isKey e.1 = true)
    (hval : ∀ e ∈ es, ∀ (c : Composer) (rest : List TokenKind) (n : Nat), c.stop = none →
      c.upcoming = .value :: (kindsOf e.2 ++ rest) → c.upcoming.length < n →
      ∃ nd c', blockValue n c = .ok (nd, c') ∧ nd.reads e.2 = true ∧ c'.upcoming = rest ∧
        c'.stop = none)
    (hs : c.stop = none)
    (hu : c.upcoming = .blockMappingStart ::
      (es.flatMap (fun e => .key :: .scalar e.1 .plain :: .value :: kindsOf e.2) ++ .blockEnd :: ks))
    (n : Nat) (hn : c.upcoming.length < n) (indentless : Bool) :
    ∃ nd c', node n c true indentless = .ok (nd, c') ∧ nd.reads (.mapping es) = true ∧
      c'.upcoming = ks ∧ c'.stop = none := by
  obtain ⟨m, rfl, hm⟩ := fuel_step hu hn
  obtain ⟨tok, hpeek, hkind⟩ := peek_of_upcoming hs hu
  have hprops := properties_none hs hu (fun _ h => by cases h) (fun _ _ h => by cases h)
  obtain ⟨entries, c', hentries, hreads, hu', hs'⟩ := blockEntries_of kindsOf es hkey hval
    (c := c.advance) hs (upcoming_advance hu) m hm tok.start #[]
  have hentry : (TokenKind.blockMappingStart == .blockEntry) = false := rfl
  refine ⟨.mapping entries (collectionTag "" "!!map") (tok.start.line + 1), c', ?_, ?_, hu', hs'⟩
  · simp [node, hpeek, hkind, hprops, fullTag, hentry, reserve, hentries, fill]
  · simp [Node.reads, collectionTag, hreads]

/-- The value of a section: its mapping of entries of words. -/
theorem blockValue_section {v : Value} (hv : v.isSection = true) (hs : c.stop = none)
    (hu : c.upcoming = .value :: (mappingKinds v ++ ks)) (n : Nat) (hn : c.upcoming.length < n) :
    ∃ nd c', blockValue n c = .ok (nd, c') ∧ nd.reads v = true ∧ c'.upcoming = ks ∧
      c'.stop = none := by
  cases v with
  | mapping fs =>
    simp only [Value.isSection, Bool.and_eq_true, List.all_eq_true] at hv
    have hentry : ∀ e ∈ fs, isKey e.1 = true ∧ e.2.isLeaf = true := by
      rintro ⟨k, v⟩ he
      simpa using hv.2 _ he
    have hu1 : c.upcoming = .value :: .blockMappingStart ::
        ((fs.flatMap entryKinds ++ [.blockEnd]) ++ ks) := by
      rw [hu]
      simp [mappingKinds]
    refine blockValue_of hs hu1 rfl hn ?_
    intro c' m hs' hu' hm
    exact node_blockMapping leafKinds fs (fun e he => (hentry e he).1)
      (fun e he c rest n hs hu hn => blockValue_leaf (hentry e he).2 hs hu n hn) hs'
      (by rw [hu', List.append_assoc]; rfl) m hm true
  | scalar _ _ => simp [Value.isSection] at hv
  | sequence _ => simp [Value.isSection] at hv

end Composer

/-- The tokens of a block document of words are read as one document, whose root reads the
document's mapping back. -/
theorem ofTokens_docKinds {es : List (String × Value)} (h : IsBlockDoc es) {ts : Tokens}
    (hs : ts.stop = none) (hkinds : ts.tokens.toList.map (·.kind) = docKinds es) :
    ∃ doc, Document.ofTokens ts = .ok (some doc) ∧ doc.root.reads (.mapping es) = true := by
  let c : Composer := { tokens := ts.tokens, stop := ts.stop }
  have hu : c.upcoming = .streamStart :: .blockMappingStart ::
      (es.flatMap (fun e => .key :: .scalar e.1 .plain :: .value :: mappingKinds e.2) ++
        .blockEnd :: [.streamEnd]) := by
    simp only [Composer.upcoming, c, List.drop_zero, hkinds, docKinds]
    simp
    rfl
  have hs0 : c.stop = none := hs
  have hu1 := Composer.upcoming_advance hu
  have hlen : c.advance.upcoming.length < ts.tokens.size + 2 := by
    have : c.upcoming.length = ts.tokens.size := by
      simp [Composer.upcoming, c]
    rw [hu] at this
    rw [hu1]
    simp only [List.length_cons] at this ⊢
    omega
  obtain ⟨tok, hpeek, -⟩ := Composer.peek_of_upcoming hs0 hu
  obtain ⟨tok1, hpeek1, hkind1⟩ := Composer.peek_of_upcoming (c := c.advance) hs0 hu1
  obtain ⟨nd, c', hnode, hreads, hu', hs'⟩ := Composer.node_blockMapping mappingKinds es
    (fun e he => (h.2 e he).1)
    (fun e he c rest n hs hu hn => Composer.blockValue_section (h.2 e he).2 hs hu n hn)
    (c := c.advance) hs0 hu1 _ hlen false
  obtain ⟨tok2, hpeek2, -⟩ := Composer.peek_of_upcoming hs' hu'
  refine ⟨{ root := nd, anchored := c'.anchored, aliases := c'.aliases, weight := c'.pos }, ?_,
    hreads⟩
  simp only [Document.ofTokens]
  simp [c, hpeek, hpeek1, hkind1, hnode, hpeek2]

end PredictorSweep.Yaml
