import PoolExit.Exit.Task

/-!
# The order of tasks

The tasks of a pool are done together, its claims before its withdrawals, and the pools come in the
order in which they first appear.  The tasks are gone through once, with a slot for each pool that
has appeared so far.
-/

namespace PoolExit

/-- What has come so far for a pool. -/
structure Slot where
  key : Venue × Pubkey
  claims : List Task := []
  withdrawals : List Task := []

/-- Puts a task behind those of its kind. -/
def Slot.put (slot : Slot) (t : Task) : Slot :=
  match t.kind with
  | .claim => { slot with claims := slot.claims ++ [t] }
  | .withdraw => { slot with withdrawals := slot.withdrawals ++ [t] }

/-- Puts a task into the slot of its pool; a pool that has none gets the next one. -/
def putIn (slots : List Slot) (t : Task) : List Slot :=
  match slots.findIdx? (·.key = t.poolKey) with
  | some index => slots.modify index (·.put t)
  | none => slots ++ [{ key := t.poolKey : Slot }.put t]

/-- The slots when all tasks have come. -/
def gathered (tasks : List Task) : List Slot := tasks.foldl putIn []

/-- Pools in the order of their first tasks, and in each pool claims before withdrawals. -/
def claimsFirst (tasks : List Task) : List Task :=
  (gathered tasks).flatMap fun slot => slot.claims ++ slot.withdrawals

end PoolExit
