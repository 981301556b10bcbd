import PoolExit.Exit.Task

/-!
# Items

An item is a task on its way through a run.  Its status only ever rises, from `pending` over `signed`
and `sent` to one of the three final ones, and a final status stays.
-/

namespace PoolExit

/-- How far a task has come. -/
inductive Status where
  | pending
  | signed
  | sent
  | confirmed
  | error
  | skipped
deriving DecidableEq, Repr

namespace Status

/-- The name of a status. -/
def name : Status → String
  | .pending => "pending"
  | .signed => "signed"
  | .sent => "sent"
  | .confirmed => "confirmed"
  | .error => "error"
  | .skipped => "skipped"

/-- Whether a status is final. -/
def isTerminal : Status → Bool
  | .confirmed | .error | .skipped => true
  | _ => false

/-- The place of a status on the way; the final ones share the last place. -/
def rank : Status → Nat
  | .pending => 0
  | .signed => 1
  | .sent => 2
  | .confirmed | .error | .skipped => 3

/-- Whether one status may follow another. -/
def canAdvanceTo (s next : Status) : Bool := !s.isTerminal && s.rank < next.rank

end Status

/-- A task on its way through a run. -/
structure Item where
  task : Task
  status : Status := .pending
  /-- The signature under which the task was last submitted. -/
  submissionId : Option String := none
  /-- Why the task failed or was skipped. -/
  error : Option String := none
  /-- The fee of the last submission. -/
  feeLevel : Option UInt64 := none
  attempts : Nat := 0
deriving DecidableEq

namespace Item

/-- An item at its start. -/
def pending (task : Task) : Item := { task }

/-- Moves on to a status that may follow, and says whether it did. -/
def advance (i : Item) (next : Status) : Bool × Item :=
  if i.status.canAdvanceTo next then (true, { i with status := next }) else (false, i)

/-- Ends with a status and a reason, unless the item has ended before. -/
def stop (i : Item) (next : Status) (reason : String) : Bool × Item :=
  match i.advance next with
  | (true, j) => (true, { j with error := some reason })
  | (false, j) => (false, j)

/-- Ends with an error. -/
def fail (i : Item) (reason : String) : Bool × Item := i.stop .error reason

/-- Ends without having been done. -/
def skip (i : Item) (reason : String) : Bool × Item := i.stop .skipped reason

/-- Notes one more attempt. -/
def attempted (i : Item) : Item := { i with attempts := i.attempts + 1 }

/-- Notes a submission. -/
def submitted (i : Item) (id : String) (feeLevel : UInt64) : Item :=
  { (i.advance .sent).2 with submissionId := some id, feeLevel := some feeLevel }

/-- Notes a confirmation. -/
def landed (i : Item) (id : String) (feeLevel : UInt64) : Item :=
  ({ i with submissionId := some id, feeLevel := some feeLevel }.advance .confirmed).2

end Item

end PoolExit
