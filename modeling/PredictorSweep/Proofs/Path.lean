import Mathlib.Data.String.Basic
import PredictorSweep.Path
/-!
# The last name of a joined path

Cleaning a path only drops or resolves the names before a plain one (a name that is not empty,
not `.` or `..`, and has no separator): such a name, written last, stays last and is written
after nothing or after a separator. So joining a directory with a plain name, whatever the
directory holds, gives a path whose last name is that name.

Proved here:

* `Path.clean_ends_with`: a path whose last name is plain cleans to a text that ends in it;
* `Path.base_append_name`: the last name of such a text is the plain name;
* `Path.base_join_name`: the last name of a directory joined with a plain name is the name.
-/

namespace PredictorSweep.Path

/-- A name that cleaning keeps as it stands and that is a path's last name when written last. -/
structure PlainName (n : String) : Prop where
  ne_empty : n ≠ ""
  ne_dot : n ≠ "."
  ne_dotDot : n ≠ ".."
  no_separator : '/' ∉ n.toList

/-- A text that ends in the name `n` after nothing or after a separator. -/
def EndsWith (p n : String) : Prop :=
  ∃ pre : List Char, p.toList = pre ++ n.toList ∧ ∀ c ∈ pre.getLast?, c = '/'

variable {n : String}

theorem PlainName.step_eq (hn : PlainName n) (rooted : Bool) (kept : List String) :
    step rooted kept n = n :: kept := by
  simp [step, hn.ne_empty, hn.ne_dot, hn.ne_dotDot]

theorem PlainName.splitOn_eq (hn : PlainName n) : n.toList.splitOn '/' = [n.toList] :=
  List.splitOn_eq_singleton hn.no_separator

theorem PlainName.toList_ne_nil (hn : PlainName n) : n.toList ≠ [] := by
  simpa using hn.ne_empty

theorem EndsWith.ne_empty {p : String} (hp : EndsWith p n) (hn : PlainName n) : p ≠ "" := by
  obtain ⟨pre, hpre, -⟩ := hp
  intro h
  have := congrArg String.toList h
  simp only [hpre, String.toList_empty, List.append_eq_nil_iff] at this
  exact hn.toList_ne_nil this.2

/-- A separator written in front keeps the ending. -/
theorem EndsWith.separator_append {p : String} (hp : EndsWith p n) : EndsWith ("/" ++ p) n := by
  obtain ⟨pre, hpre, hlast⟩ := hp
  refine ⟨'/' :: pre, by rw [String.toList_append, hpre]; simp, fun c hc => ?_⟩
  rw [List.getLast?_cons] at hc
  cases hx : pre.getLast? with
  | none => simpa [hx] using hc.symm
  | some x =>
    have hcx : c = x := by simpa [hx, eq_comm] using hc
    exact hcx ▸ hlast x (by simp [hx])

/-- Names joined by separators end in the last of them, after nothing or a separator. -/
theorem endsWith_intercalate (kept : List String) (last : String) :
    EndsWith ("/".intercalate (kept ++ [last])) last := by
  by_cases hkept : kept = []
  · subst hkept
    exact ⟨[], by simp, by simp⟩
  · refine ⟨("/".intercalate kept).toList ++ ['/'], ?_, by simp⟩
    rw [String.intercalate_append_of_ne_nil hkept (by simp)]
    simp

/-- A path whose last name is plain cleans to a text ending in that name: cleaning keeps the
name last, and writes at most a separator in front of what it kept. -/
theorem clean_ends_with {p : String} (hp : p ≠ "") (hn : PlainName n) (segs : List (List Char))
    (hsplit : p.toList.splitOn '/' = segs ++ [n.toList]) : EndsWith (clean p) n := by
  unfold clean
  simp only [hp, if_false, hsplit, List.map_append, List.map_cons, List.map_nil,
    String.ofList_toList, List.foldl_append, List.foldl_cons, List.foldl_nil, hn.step_eq,
    List.reverse_cons]
  have hbody := endsWith_intercalate
    (List.foldl (step (p.startsWith "/")) [] (segs.map String.ofList)).reverse n
  split
  · exact hbody.separator_append
  · rw [if_neg (hbody.ne_empty hn)]
    exact hbody

/-- The last name of a text that ends in a plain name after nothing or a separator. -/
theorem base_append_name {p : String} (hp : EndsWith p n) (hn : PlainName n) : base p = n := by
  obtain ⟨pre, hpre, hlast⟩ := hp
  have hnoSep : ∀ c ∈ n.toList.reverse, decide (c ≠ '/') = true := fun c hc => by
    have : c ≠ '/' := fun h => hn.no_separator (h ▸ List.mem_reverse.mp hc)
    simpa using this
  obtain ⟨c, cs, hc⟩ : ∃ c cs, n.toList.reverse = c :: cs :=
    List.exists_cons_of_ne_nil (by simpa using hn.toList_ne_nil)
  have hcSep : c ≠ '/' := by simpa using hnoSep c (by simp [hc])
  -- read backwards, the text is the reversed name and then either nothing or a separator
  have hrev : p.toList.reverse = n.toList.reverse ++ pre.reverse := by simp [hpre]
  have hpreTake : pre.reverse.takeWhile (fun c => decide (c ≠ '/')) = [] := by
    by_cases hne : pre = []
    · simp [hne]
    · obtain ⟨d, ds, hd⟩ := List.exists_cons_of_ne_nil (List.reverse_ne_nil_iff.mpr hne)
      have : d = '/' := hlast d (by simp [← List.head?_reverse, hd])
      simp [hd, this]
  have htrim : trimTrailing p = p := by
    have hdrop : p.toList.reverse.dropWhile (fun x => decide (x = '/')) = p.toList.reverse := by
      rw [hrev, hc, List.cons_append, List.dropWhile_cons_of_neg (by simpa using hcSep)]
    rw [trimTrailing, hdrop, List.reverse_reverse, String.ofList_toList]
  have hne : p ≠ "" := EndsWith.ne_empty ⟨pre, hpre, hlast⟩ hn
  unfold base
  simp only [hne, if_false, htrim]
  rw [hrev, List.takeWhile_append_of_pos hnoSep, hpreTake, List.append_nil, List.reverse_reverse,
    String.ofList_toList]

/-- Whatever the directory, the last name of the directory joined with a plain name is the
name. -/
theorem base_join_name (dir : String) (hn : PlainName n) : base (join [dir, n]) = n := by
  refine base_append_name ?_ hn
  by_cases hdir : dir = ""
  · -- an empty directory is left out: the name is cleaned on its own
    have hjoin : join [dir, n] = clean n := by simp [join, hdir, hn.ne_empty]
    rw [hjoin]
    exact clean_ends_with hn.ne_empty hn [] hn.splitOn_eq
  · have hjoin : join [dir, n] = clean (dir ++ "/" ++ n) := by
      simp [join, hdir, hn.ne_empty]
    rw [hjoin]
    refine clean_ends_with (by simp) hn (dir.toList.splitOn '/') ?_
    simp [List.splitOn_append_cons_self, hn.splitOn_eq]

end PredictorSweep.Path
