/-!
# Capturing a stream up to a cap

A capture keeps the first bytes written to it, up to its limit, in a memory buffer. It reports
every write as taken in full, so that the writers that receive the same bytes beside it keep
going; what does not fit is dropped and the capture is marked truncated. A write that finds the
buffer already full marks it truncated as well, even when it carries no bytes.

Main definitions:

- `LimitedWriter`, `LimitedWriter.write`: one write;
- `LimitedWriter.writeAll`: writes in turn, with the counts they report;
- `capture`: what a fresh capture holds after a sequence of writes.
-/

namespace PredictorSweep

/-- A capture with a byte limit over a memory buffer, which takes every write. -/
structure LimitedWriter where
  /-- The most bytes kept. -/
  limit : Nat
  /-- The bytes kept. -/
  buffer : List UInt8 := []
  /-- How many bytes were kept. -/
  written : Nat := 0
  /-- Whether a write found the buffer full or did not fit. -/
  truncated : Bool := false
  deriving Repr, DecidableEq

namespace LimitedWriter

/-- Writes `p`: the capture after it and the count reported, always the length of `p`. Writing
to the memory buffer never fails. -/
def write (w : LimitedWriter) (p : List UInt8) : LimitedWriter × Nat :=
  if w.limit ≤ w.written then ({ w with truncated := true }, p.length)
  else
    let remaining := w.limit - w.written
    if remaining < p.length then
      let kept := p.take remaining
      ({ w with buffer := w.buffer ++ kept, written := w.written + kept.length,
                truncated := true }, p.length)
    else ({ w with buffer := w.buffer ++ p, written := w.written + p.length }, p.length)

/-- Writes each of `ps` in turn: the capture after them and the counts reported. -/
def writeAll (w : LimitedWriter) : List (List UInt8) → LimitedWriter × List Nat
  | [] => (w, [])
  | p :: ps =>
    let r := (w.write p).1.writeAll ps
    (r.1, (w.write p).2 :: r.2)

end LimitedWriter

/-- What a fresh capture with limit `limit` holds after the writes `ps`. -/
def capture (limit : Nat) (ps : List (List UInt8)) : LimitedWriter :=
  (({ limit } : LimitedWriter).writeAll ps).1

end PredictorSweep
