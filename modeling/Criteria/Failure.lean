/-!
# Failures

Why an operation on values fails.

A failure names the cause; which operation failed and what a message says is up
to the caller.

## Main definitions

* `Failure`: The cause of a failed operation.
-/

namespace Criteria

/-- The cause of a failed operation. -/
inductive Failure where
  /-- The value has the right type but no reading. -/
  | unreadable
  /-- The operation is not defined for the types of its operands. -/
  | mismatch
  /-- The result is beyond the range of its type. -/
  | overflow
  /-- A decimal operation has no result. -/
  | undefinedResult
  /-- The value has no member of that name. -/
  | noMember
  /-- A table has no such key. -/
  | noKey
  /-- A list has no such place. -/
  | noPlace
  /-- The instant is beyond what the system clock can name. -/
  | beyondClock
  /-- The result is too large to be kept. -/
  | exhausted
  deriving DecidableEq, Inhabited

end Criteria
