import Polystore.Error
import Polystore.Text.Integer

/-!
# Calls that do not return

Besides the errors that it reports, a call can panic, and then it gives no result.  Panics happen
where a machine has a bound that the inputs are free to pass: a list cannot be made to hold more
bytes than an allocation may have, and a point in time cannot be further ahead than the clock
counts.  Memory itself is taken not to run out.
-/

namespace Polystore

/-- Why a call does not return. -/
inductive Panic where
  /-- A list is to hold more bytes than an allocation may have. -/
  | capacity
  /-- A point in time is further ahead than the clock counts. -/
  | instant
deriving DecidableEq, Repr

/-- How a call fails: with an error that it reports, or with a panic. -/
inductive Failure where
  | error (cause : Error)
  | panic (cause : Panic)
deriving Repr

/-- Room for so many elements of some bytes each can be asked for at once: the bytes of an
allocation are counted in a signed word. -/
def CanReserve (bytes count : Nat) : Prop :=
  bytes * count < Text.signedRange

instance (bytes count : Nat) : Decidable (CanReserve bytes count) :=
  inferInstanceAs (Decidable (_ < _))

end Polystore
