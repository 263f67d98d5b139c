import Mathlib.Data.List.Basic
import PredictorSweep.Files.Tree
/-!
# Plain names in a working directory

A working directory stores each entry under its clean path, and looks a path up by splitting it
at its separators. A name with no separator splits into itself: the search for the separator
never matches and the text is cut off at its end. So a plain name at the top of the working
directory is looked up in one step, its parent is the working directory itself, and listing the
working directory lists such entries by name.

Main statements:

* `splitOn_slash_of_not_mem`: a text without a separator splits into itself;
* `FileTree.readFile_top`: reading a file stored under a plain name;
* `FileTree.readDir_top`, `FileTree.children_top`: listing the working directory.
-/

namespace PredictorSweep

/-! ## Splitting a text without separators -/

/-- Reading a character at a byte position gives one of the text's characters, or the default
character when no character starts there. -/
theorem utf8GetAux_mem_or_default (l : List Char) (i p : String.Pos.Raw) :
    String.Pos.Raw.utf8GetAux l i p ∈ l ∨ String.Pos.Raw.utf8GetAux l i p = default := by
  induction l generalizing i with
  | nil => exact .inr rfl
  | cons c cs ih =>
    have hstep : String.Pos.Raw.utf8GetAux (c :: cs) i p =
        if i = p then c else String.Pos.Raw.utf8GetAux cs (i + c) p := rfl
    rw [hstep]
    split
    · exact .inl List.mem_cons_self
    · rcases ih (i + c) with h | h
      · exact .inl (List.mem_cons_of_mem c h)
      · exact .inr h

/-- Taking characters up to a position at or past the end takes them all. -/
theorem go₂_of_le (l : List Char) (i e : String.Pos.Raw)
    (h : i.byteIdx + (String.ofList l).utf8ByteSize ≤ e.byteIdx) :
    String.Pos.Raw.extract.go₂ l i e = l := by
  induction l generalizing i with
  | nil => rfl
  | cons c cs ih =>
    have hstep : String.Pos.Raw.extract.go₂ (c :: cs) i e =
        if i = e then [] else c :: String.Pos.Raw.extract.go₂ cs (i + c) e := rfl
    have hc := Char.utf8Size_pos c
    simp only [String.ofList_cons, String.utf8ByteSize_append, String.utf8ByteSize_singleton] at h
    rw [hstep, if_neg]
    · rw [ih]
      simp
      omega
    · intro he
      subst he
      omega

/-- The text from its start to a position at or past its end is the whole text. -/
theorem extract_zero_of_le {s : String} {e : String.Pos.Raw} (h : s.utf8ByteSize ≤ e.byteIdx) :
    String.Pos.Raw.extract s 0 e = s := by
  show (if (0 : String.Pos.Raw).byteIdx ≥ e.byteIdx then ""
    else String.ofList (String.Pos.Raw.extract.go₁ s.toList 0 0 e)) = s
  split
  · rename_i he
    have hzero : s.utf8ByteSize = 0 := by
      simp at he
      omega
    rw [String.utf8ByteSize_eq_zero_iff.mp hzero]
  · -- the start is already reached, so the characters are taken from the first one on
    have hgo : String.Pos.Raw.extract.go₁ s.toList 0 0 e =
        String.Pos.Raw.extract.go₂ s.toList 0 e := by
      cases s.toList <;> rfl
    rw [hgo, go₂_of_le _ _ _ (by simpa using h), String.ofList_toList]

theorem get_ne_of_not_mem {s : String} {x : Char} (h : x ∉ s.toList) (hx : x ≠ default)
    (p : String.Pos.Raw) : String.Pos.Raw.get s p ≠ x := by
  unfold String.Pos.Raw.get
  rcases utf8GetAux_mem_or_default s.toList 0 p with hm | hd
  · exact fun he => h (he ▸ hm)
  · rw [hd]
    exact hx.symm

/-- A text without a separator splits into itself: every character read is compared with the
separator and differs, until the end cuts off the whole text. -/
theorem splitOn_slash_of_not_mem {s : String} (h : '/' ∉ s.toList) : s.splitOn "/" = [s] := by
  have hget := get_ne_of_not_mem h (by decide)
  have hsep : String.Pos.Raw.get "/" 0 = '/' := by decide
  -- the search restarts at the separator's first character after every mismatch
  have hkey : ∀ b i j r, b = 0 → j = 0 → s.splitOnAux "/" b i j r = (s :: r).reverse := by
    intro b i j r
    refine String.splitOnAux.induct s "/"
      (motive := fun b i j r => b = 0 → j = 0 → s.splitOnAux "/" b i j r = (s :: r).reverse)
      ?_ ?_ ?_ ?_ b i j r
    · intro b i j r hend hb hj
      subst hb
      rw [String.splitOnAux.eq_1, if_pos hend]
      simp only [List.reverse_cons]
      rw [extract_zero_of_le (by simpa [String.Pos.Raw.atEnd] using hend)]
    · intro b i j r _ hmatch _ _ _ _ _ hj
      subst hj
      exact absurd (by simpa [hsep] using hmatch) (hget i)
    · intro b i j r _ hmatch _ _ _ _ _ hj
      subst hj
      exact absurd (by simpa [hsep] using hmatch) (hget i)
    · intro b i j r hend hmatch ih hb hj
      rw [String.splitOnAux.eq_1, if_neg hend, if_neg hmatch]
      exact ih hb rfl
  simp only [String.splitOn]
  exact hkey 0 0 0 [] rfl rfl

/-! ## Plain names at the top of the working directory -/

theorem parentPath_of_not_mem {q : String} (h : '/' ∉ q.toList) : parentPath q = "" := by
  unfold parentPath
  rw [splitOn_slash_of_not_mem h]
  rfl

theorem pathNames_of_clean {n : String} (hclean : Path.clean n = n) (hdot : n ≠ ".")
    (hslash : '/' ∉ n.toList) : pathNames n = [n] := by
  unfold pathNames
  simp only [hclean]
  rw [if_neg (by simpa using hdot)]
  exact splitOn_slash_of_not_mem hslash

namespace FileTree

variable {t : FileTree}

/-- Listing the working directory lists its children. -/
theorem readDir_top (t : FileTree) : t.readDir "" = .ok (t.children "") := by
  rfl

/-- A file stored under a plain name at the top is read in one step. -/
theorem readFile_top {n c : String} {x : Bool} (hclean : Path.clean n = n) (hdot : n ≠ ".")
    (hdd : n ≠ "..") (hslash : '/' ∉ n.toList) (hfind : t.find? n = some (.file c x)) :
    t.readFile n = .ok c := by
  unfold readFile lookup
  rw [pathNames_of_clean hclean hdot hslash]
  simp [walk, childPath, hfind, hdd]

/-- The children of the working directory, when every entry is stored under a plain name, are
the entries sorted by name. -/
theorem children_top (h : ∀ p ∈ t.entries, '/' ∉ p.1.toList ∧ p.1 ≠ "") :
    t.children "" = t.entries.mergeSort fun a b => decide (a.1 ≤ b.1) := by
  unfold children
  dsimp only
  congr 1
  refine Eq.trans (List.filterMap_congr fun p hp => ?_) (List.filterMap_some (l := t.entries))
  obtain ⟨q, e⟩ := p
  obtain ⟨hslash, hne⟩ := h _ hp
  simp [parentPath_of_not_mem hslash, splitOn_slash_of_not_mem hslash, hne]

end FileTree

end PredictorSweep
