/-!
# What can go wrong in the store

Every statement on the store has a task, such as *insert user*.  A statement that fails changes
nothing and answers with its task and the cause.
-/

set_option autoImplicit false

namespace Microblog

/-- Why a statement failed. -/
inductive Cause where
  /-- A row with the same key, or with the same value where values may not repeat, is there. -/
  | uniqueness
  /-- A row is named that does not exist. -/
  | reference
  /-- A value is missing. -/
  | missing
  /-- The values of a row contradict each other. -/
  | check
  /-- The value of this column cannot be read. -/
  | column (name : String)
  /-- The value at this place of an answer cannot be read. -/
  | place (n : Nat)
  /-- A row that has to be there was not found. -/
  | noRow
  /-- A table is missing, or a limit of the store is reached. -/
  | other
deriving DecidableEq, Repr

namespace Cause

/-- Whether an insertion that ignores conflicts goes on without the row. -/
def isIgnored : Cause → Bool
  | uniqueness | missing | check => true
  | _ => false

end Cause

/-- A statement that failed. -/
structure StoreError where
  /-- What was to be done. -/
  task : String
  cause : Cause
deriving DecidableEq, Repr

namespace StoreError

/-- The error in words. -/
def message (e : StoreError) : String := "Failed to " ++ e.task

end StoreError

/-- Say what an outcome was about. -/
def during {α : Type} (task : String) : Except Cause α → Except StoreError α
  | .ok a => .ok a
  | .error cause => .error ⟨task, cause⟩

end Microblog
