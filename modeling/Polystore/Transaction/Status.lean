/-!
# The status of a transaction

A transaction stages operations while it is active; a commit or a rollback ends
that.
-/

namespace Polystore.Transaction

/-- Whether a transaction still takes operations, and if not, what became of
them. -/
inductive Status where
  | active
  | committed
  | aborted
deriving DecidableEq, Repr

/-- The name of a status. -/
def Status.name : Status → String
  | active => "Active"
  | committed => "Committed"
  | aborted => "Aborted"

end Polystore.Transaction
