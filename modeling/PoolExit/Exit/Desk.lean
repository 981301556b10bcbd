import PoolExit.Exit.Run

/-!
# The desk

A desk takes on one run at a time.  While a run is under way it holds a token, which tells whether the
run has been cancelled; further runs are refused, and the board is the run's.
-/

namespace PoolExit

/-- A desk: the board, and the token of the run under way. -/
structure Desk where
  board : Board := {}
  token : Option Bool := none
deriving DecidableEq

namespace Desk

/-- Whether options are taken on as a new run: they have to be valid, and no run under way. -/
def accept (d : Desk) (o : Options) : Except ExitError Unit :=
  match o.validate with
  | .error e => .error e
  | .ok () => if d.board.isActive then .error .runInProgress else .ok ()

/-- Cancels the run under way, and says whether there is one. -/
def abort (d : Desk) : Bool × Desk :=
  match d.token with
  | some _ => (true, { d with token := some true })
  | none => (false, d)

/-- Whether the run under way has been cancelled. -/
def stopped (d : Desk) : Bool := d.token.getD false

/-- Shows a board.  The token is handed out with the first board of a run and taken back with the
last one. -/
def publish (d : Desk) (board : Board) : Desk :=
  { board, token := if board.isActive then some d.stopped else none }

/-- The reason shown where a run was dropped half-way. -/
def droppedReason : String := "运行被中断"

/-- A run under way is dropped half-way; it counts as cancelled. -/
def drop (d : Desk) : Desk :=
  if d.board.isActive then d.publish (d.board.closed (some droppedReason) true) else d

end Desk

end PoolExit
