import PredictorSweep.Predictor.Family
/-!
# Cell keys

A key names one cell of a sweep: a predictor family, a benchmark and a table size (zero for a
family without a table). Keys are written `family/benchmark[/size]`, with `*` for an empty
benchmark and no size part for size zero. Keys are ordered by the listing position of their
family (a text that names no family ranks `-1`), then by benchmark bytes, then by size.

Main definitions:

- `Key`, `Key.render`;
- `Key.lt`: the order on keys, a Boolean test.
-/

namespace PredictorSweep

/-- A sweep cell: family name, benchmark and table size. -/
structure Key where
  /-- The predictor family name. -/
  family : String
  /-- The benchmark name. -/
  benchmark : String
  /-- The table size, zero for a family without a table. -/
  size : Int := 0
  deriving Repr, DecidableEq, Hashable, Inhabited

namespace Key

/-- The written form `family/benchmark[/size]`: an empty benchmark shows as `*`, and a zero size
is left out. -/
def render (k : Key) : String :=
  let bench := if k.benchmark.isEmpty then "*" else k.benchmark
  if k.size = 0 then k.family ++ "/" ++ bench
  else k.family ++ "/" ++ bench ++ "/" ++ toString k.size

instance : ToString Key := ⟨render⟩

/-- Whether `a` sorts before `b`: by family position when the family names differ (two texts that
name no family are not ordered), then by benchmark, then by size. -/
def lt (a b : Key) : Bool :=
  if a.family ≠ b.family then decide (Family.orderOf a.family < Family.orderOf b.family)
  else if a.benchmark ≠ b.benchmark then decide (a.benchmark < b.benchmark)
  else decide (a.size < b.size)

end Key

end PredictorSweep
