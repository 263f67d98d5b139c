/-!
# Run contexts

Every long operation runs under a context that may stop it: the background, which never does; one
cancelled before the operation starts; or one that expires a fixed time after the operation
starts. An operation also may be handed no context at all, which it refuses before doing anything.

Time is counted in nanoseconds from the start of the operation. A context with a deadline is done
from its deadline on.

Main definitions:

- `RunContext`;
- `RunContext.errorAt`: the error of a context that is done at a time;
- `RunContext.expiry`: the time a context expires, if it does.
-/

namespace PredictorSweep

/-- The context an operation runs under. -/
inductive RunContext where
  /-- No context at all. -/
  | absent
  /-- A context that is never done. -/
  | background
  /-- A context cancelled before the operation starts. -/
  | cancelled
  /-- A context that expires the given nanoseconds after the operation starts. -/
  | deadline (nanos : Nat)
  deriving Repr, DecidableEq, Inhabited

namespace RunContext

/-- The refusal of an operation handed no context. -/
def absentMessage : String := "context must not be nil"

/-- The error of the context at time `t`, if it is done by then. -/
def errorAt : RunContext → Nat → Option String
  | .cancelled, _ => some "context canceled"
  | .deadline d, t => if d ≤ t then some "context deadline exceeded" else none
  | _, _ => none

/-- The time the context expires, if it has a deadline. -/
def expiry : RunContext → Option Nat
  | .deadline d => some d
  | _ => none

/-- Whether the context is done at time `t`. -/
def doneAt (c : RunContext) (t : Nat) : Bool := (c.errorAt t).isSome

end RunContext

end PredictorSweep
