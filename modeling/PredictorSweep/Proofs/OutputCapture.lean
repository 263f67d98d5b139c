import PredictorSweep.Execution.Batch
/-!
# What a capture keeps

A capture over a memory buffer keeps exactly the first `limit` bytes of everything written to
it, and every write reports its own length. Its truncation flag says that a byte was dropped,
with one exception: a write of no bytes that finds the buffer full sets it too, although nothing
is lost. A pipe never delivers such a write, so the capture of a stream depends on its bytes
alone, however the pipe splits them.

Main statements:

- `LimitedWriter.write_buffer`, `LimitedWriter.write_truncated_iff`: one write;
- `LimitedWriter.writeAll_buffer`, `LimitedWriter.writeAll_truncated_iff`: writes in turn, from
  any consistent capture;
- `capture_keeps_prefix`: a fresh capture after any writes;
- `capture_truncated_without_loss`: an empty write on a full buffer marks it truncated;
- `capture_of_ne_nil`, `capture_pipeChunks`: the capture of a stream.
-/

namespace PredictorSweep

namespace Text

@[simp] theorem bytes_append (s t : String) : bytes (s ++ t) = bytes s ++ bytes t := by
  simp [bytes, String.toByteArray_append]

@[simp] theorem length_bytes (s : String) : (bytes s).length = s.utf8ByteSize := by
  simp [bytes, String.size_toByteArray]

theorem bytes_join (l : List String) : bytes (String.join l) = (l.map bytes).flatten := by
  induction l with
  | nil => rfl
  | cons s l ih => rw [String.join_cons, bytes_append, ih, List.map_cons, List.flatten_cons]

end Text

/-- Some write of no bytes comes once at least `k` bytes have been written. -/
def EmptyWriteAfter (k : Nat) (ps : List (List UInt8)) : Prop :=
  ∃ pre post, ps = pre ++ [] :: post ∧ k ≤ pre.flatten.length

theorem not_emptyWriteAfter_nil (k : Nat) : ¬ EmptyWriteAfter k [] := by
  rintro ⟨pre, post, h, -⟩
  simp at h

theorem emptyWriteAfter_cons (k : Nat) (p : List UInt8) (ps : List (List UInt8)) :
    EmptyWriteAfter k (p :: ps) ↔ (p = [] ∧ k = 0) ∨ EmptyWriteAfter (k - p.length) ps := by
  constructor
  · rintro ⟨pre, post, hps, hk⟩
    cases pre with
    | nil =>
      simp only [List.nil_append, List.cons.injEq] at hps
      exact .inl ⟨hps.1, by simpa using hk⟩
    | cons q pre =>
      simp only [List.cons_append, List.cons.injEq] at hps
      obtain ⟨rfl, rfl⟩ := hps
      refine .inr ⟨pre, post, rfl, ?_⟩
      simp only [List.flatten_cons, List.length_append] at hk
      omega
  · rintro (⟨rfl, rfl⟩ | ⟨pre, post, rfl, hk⟩)
    · exact ⟨[], ps, rfl, Nat.zero_le _⟩
    · refine ⟨p :: pre, post, rfl, ?_⟩
      simp only [List.flatten_cons, List.length_append]
      omega

/-- Writes that all carry bytes hold no empty write. -/
theorem not_emptyWriteAfter {ps : List (List UInt8)} (hne : ∀ p ∈ ps, p ≠ []) (k : Nat) :
    ¬ EmptyWriteAfter k ps := by
  rintro ⟨pre, post, rfl, -⟩
  exact hne [] (by simp) rfl

namespace LimitedWriter

/-- A capture is consistent when its count is the length of its buffer, within its limit. -/
structure Valid (w : LimitedWriter) : Prop where
  written_eq : w.written = w.buffer.length
  written_le : w.written ≤ w.limit

theorem valid_fresh (limit : Nat) : Valid { limit } := ⟨rfl, Nat.zero_le _⟩

/-- The three things a write can do: find the buffer full, keep what fits of `p`, or keep all of
it. -/
theorem write_cases (w : LimitedWriter) (p : List UInt8) :
    (w.limit ≤ w.written ∧ w.write p = ({ w with truncated := true }, p.length)) ∨
    (w.written < w.limit ∧ w.limit - w.written < p.length ∧
      w.write p = ({ w with buffer := w.buffer ++ p.take (w.limit - w.written),
                            written := w.limit, truncated := true }, p.length)) ∨
    (w.written < w.limit ∧ p.length ≤ w.limit - w.written ∧
      w.write p = ({ w with buffer := w.buffer ++ p, written := w.written + p.length },
        p.length)) := by
  unfold write
  by_cases hfull : w.limit ≤ w.written
  · exact .inl ⟨hfull, by rw [if_pos hfull]⟩
  · rw [if_neg hfull]
    by_cases hcut : w.limit - w.written < p.length
    · refine .inr (.inl ⟨by omega, hcut, ?_⟩)
      rw [if_pos hcut]
      simp only [List.length_take]
      congr 2
      omega
    · exact .inr (.inr ⟨by omega, by omega, by rw [if_neg hcut]⟩)

variable {w : LimitedWriter} {p : List UInt8} {ps : List (List UInt8)}

@[simp] theorem write_count : (w.write p).2 = p.length := by
  rcases write_cases w p with ⟨-, hw⟩ | ⟨-, -, hw⟩ | ⟨-, -, hw⟩ <;> rw [hw]

@[simp] theorem write_limit : (w.write p).1.limit = w.limit := by
  rcases write_cases w p with ⟨-, hw⟩ | ⟨-, -, hw⟩ | ⟨-, -, hw⟩ <;> rw [hw]

/-- A write keeps the first `limit` bytes of what the buffer held and `p`. -/
theorem write_buffer (h : Valid w) : (w.write p).1.buffer = (w.buffer ++ p).take w.limit := by
  have hkept : w.buffer.take w.limit = w.buffer :=
    List.take_of_length_le (h.written_eq ▸ h.written_le)
  rw [List.take_append, hkept, ← h.written_eq]
  rcases write_cases w p with ⟨hfull, hw⟩ | ⟨-, -, hw⟩ | ⟨-, hfit, hw⟩
  · simp [hw, Nat.sub_eq_zero_of_le hfull]
  · simp only [hw]
  · simp [hw, List.take_of_length_le hfit]

/-- A write counts what it keeps: the count moves up to the limit at most. -/
theorem write_written (h : Valid w) :
    (w.write p).1.written = min w.limit (w.written + p.length) := by
  have := h.written_le
  rcases write_cases w p with ⟨hfull, hw⟩ | ⟨-, hcut, hw⟩ | ⟨-, hfit, hw⟩ <;> simp only [hw] <;>
    omega

theorem write_valid (h : Valid w) : Valid (w.write p).1 where
  written_eq := by
    rw [write_written h, write_buffer h, List.length_take, List.length_append, h.written_eq]
  written_le := by
    rw [write_written h, write_limit]
    exact Nat.min_le_left _ _

/-- A write marks the capture truncated when it drops a byte, or when it finds the buffer full. -/
theorem write_truncated_iff :
    (w.write p).1.truncated = true ↔
      w.truncated = true ∨ w.limit < w.written + p.length ∨ (w.limit ≤ w.written ∧ p = []) := by
  rcases write_cases w p with ⟨hfull, hw⟩ | ⟨hroom, hcut, hw⟩ | ⟨hroom, hfit, hw⟩ <;>
    simp only [hw]
  · simp only [true_iff]
    cases p with
    | nil => exact .inr (.inr ⟨hfull, rfl⟩)
    | cons b p => exact .inr (.inl (by simp; omega))
  · simp only [true_iff]
    exact .inr (.inl (by omega))
  · constructor
    · exact .inl
    · rintro (ht | hdrop | ⟨hfull, -⟩)
      · exact ht
      · omega
      · omega

@[simp] theorem writeAll_nil : w.writeAll [] = (w, []) := rfl

@[simp] theorem writeAll_cons :
    w.writeAll (p :: ps) =
      (((w.write p).1.writeAll ps).1, p.length :: ((w.write p).1.writeAll ps).2) := by
  simp [writeAll]

/-- Every write reports its whole length. -/
theorem writeAll_counts : (w.writeAll ps).2 = ps.map List.length := by
  induction ps generalizing w with
  | nil => rfl
  | cons p ps ih => simp [ih]

@[simp] theorem writeAll_limit : (w.writeAll ps).1.limit = w.limit := by
  induction ps generalizing w with
  | nil => rfl
  | cons p ps ih => simp [ih]

theorem writeAll_valid (h : Valid w) : Valid (w.writeAll ps).1 := by
  induction ps generalizing w with
  | nil => exact h
  | cons p ps ih => simpa using ih (write_valid h)

/-- Cutting a list at `n` before more is appended and cut at `n` changes nothing. -/
theorem take_take_append (l m : List UInt8) (n : Nat) :
    (l.take n ++ m).take n = (l ++ m).take n := by
  rw [List.take_append, List.take_append, List.take_take, Nat.min_self, List.length_take]
  congr 2
  omega

/-- Writes in turn keep the first `limit` bytes of what the buffer held and all they carry. -/
theorem writeAll_buffer (h : Valid w) :
    (w.writeAll ps).1.buffer = (w.buffer ++ ps.flatten).take w.limit := by
  induction ps generalizing w with
  | nil => simpa using (List.take_of_length_le (h.written_eq ▸ h.written_le)).symm
  | cons p ps ih =>
    rw [writeAll_cons, ih (write_valid h), write_limit, write_buffer h, take_take_append,
      List.flatten_cons, List.append_assoc]

theorem writeAll_written (h : Valid w) :
    (w.writeAll ps).1.written = min w.limit (w.written + ps.flatten.length) := by
  rw [(writeAll_valid h).written_eq, writeAll_buffer h, List.length_take, List.length_append,
    h.written_eq]

/-- The run law of the flag: writes in turn mark the capture truncated exactly when it already
was, when they carry more than there is room for, or when one of them carries no bytes and
comes once the buffer is full. -/
theorem writeAll_truncated_iff (h : Valid w) :
    (w.writeAll ps).1.truncated = true ↔
      w.truncated = true ∨ w.limit < w.written + ps.flatten.length ∨
        EmptyWriteAfter (w.limit - w.written) ps := by
  induction ps generalizing w with
  | nil =>
    have := h.written_le
    simp only [writeAll_nil, List.flatten_nil, List.length_nil, Nat.add_zero]
    have := not_emptyWriteAfter_nil (w.limit - w.written)
    constructor
    · exact .inl
    · rintro (ht | hlt | he)
      · exact ht
      · omega
      · exact absurd he this
  | cons p ps ih =>
    rw [writeAll_cons, ih (write_valid h), write_truncated_iff, write_limit,
      write_written h, emptyWriteAfter_cons]
    simp only [List.flatten_cons, List.length_append]
    have := h.written_le
    by_cases hdrop : w.limit < w.written + p.length
    · constructor
      · intro _
        exact .inr (.inl (by omega))
      · intro _
        exact .inl (.inr (.inl hdrop))
    · have hmin : min w.limit (w.written + p.length) = w.written + p.length := by omega
      rw [hmin, Nat.sub_sub]
      grind

end LimitedWriter

section Fresh

variable (L : Nat) (ps : List (List UInt8))

theorem capture_buffer : (capture L ps).buffer = ps.flatten.take L := by
  simpa [capture] using @LimitedWriter.writeAll_buffer _ ps (LimitedWriter.valid_fresh L)

theorem capture_written : (capture L ps).written = min L ps.flatten.length := by
  simpa [capture] using @LimitedWriter.writeAll_written _ ps (LimitedWriter.valid_fresh L)

theorem capture_truncated_iff :
    (capture L ps).truncated = true ↔ L < ps.flatten.length ∨ EmptyWriteAfter L ps := by
  simpa [capture] using @LimitedWriter.writeAll_truncated_iff _ ps (LimitedWriter.valid_fresh L)

/-- A fresh capture after any writes: each write reports its length, the buffer holds the first
`L` bytes of all they carry and counts them, and it is marked truncated exactly when they carry
more than `L` bytes or a write of no bytes comes once `L` bytes have been written. -/
theorem capture_keeps_prefix :
    (({ limit := L } : LimitedWriter).writeAll ps).2 = ps.map List.length ∧
    (capture L ps).buffer = ps.flatten.take L ∧
    (capture L ps).written = min L ps.flatten.length ∧
    ((capture L ps).truncated = true ↔ L < ps.flatten.length ∨ EmptyWriteAfter L ps) :=
  ⟨LimitedWriter.writeAll_counts, capture_buffer L ps, capture_written L ps,
    capture_truncated_iff L ps⟩

end Fresh

/-- A write of no bytes on a full buffer marks the capture truncated, although every byte
written was kept. -/
theorem capture_truncated_without_loss :
    (capture 1 [[97], []]).truncated = true ∧ (capture 1 [[97], []]).buffer = [97] := by
  decide

/-- Writes that all carry bytes leave a fresh capture holding their first `L` bytes, and mark
it truncated exactly when they carry more. -/
theorem capture_of_ne_nil {ps : List (List UInt8)} (hne : ∀ p ∈ ps, p ≠ []) (L : Nat) :
    capture L ps = { limit := L, buffer := ps.flatten.take L,
                     written := min L ps.flatten.length,
                     truncated := decide (L < ps.flatten.length) } := by
  have hlimit : (capture L ps).limit = L := LimitedWriter.writeAll_limit
  have htrunc : (capture L ps).truncated = decide (L < ps.flatten.length) := by
    rw [Bool.eq_iff_iff, capture_truncated_iff, or_iff_left (not_emptyWriteAfter hne L),
      decide_eq_true_iff]
  have hbuf := capture_buffer L ps
  have hwritten := capture_written L ps
  cases hc : capture L ps with
  | mk l b n t =>
    rw [hc] at hlimit hbuf hwritten htrunc
    simp only at hlimit hbuf hwritten htrunc
    subst hlimit hbuf hwritten htrunc
    rfl

/-- How the bytes of a stream are split into writes does not change its capture, as long as
every write carries bytes. -/
theorem capture_eq_of_flatten_eq {ps qs : List (List UInt8)} (hp : ∀ p ∈ ps, p ≠ [])
    (hq : ∀ q ∈ qs, q ≠ []) (h : ps.flatten = qs.flatten) (L : Nat) :
    capture L ps = capture L qs := by
  rw [capture_of_ne_nil hp, capture_of_ne_nil hq, h]

theorem flatten_pipeChunks (ws : List Shell.Write) (n : Nat) :
    (pipeChunks ws n).flatten = Text.bytes (streamText ws n) := by
  rw [pipeChunks, List.flatten_filter_not_isEmpty, streamText, Text.bytes_join, List.map_map]
  rfl

/-- The capture of one stream of a run holds the first `L` bytes of its text and is marked
truncated exactly when the text has more than `L` bytes. -/
theorem capture_pipeChunks (L : Nat) (ws : List Shell.Write) (n : Nat) :
    capture L (pipeChunks ws n) =
      { limit := L, buffer := (Text.bytes (streamText ws n)).take L,
        written := min L (streamText ws n).utf8ByteSize,
        truncated := decide (L < (streamText ws n).utf8ByteSize) } := by
  have hne : ∀ p ∈ pipeChunks ws n, p ≠ [] := by
    intro p hp
    simpa [pipeChunks] using (List.mem_filter.mp hp).2
  rw [capture_of_ne_nil hne, flatten_pipeChunks, Text.length_bytes]

end PredictorSweep
