import PoolExit.Exit.Notice
import PoolExit.Flow

/-!
# What an exit asks of the world

A `Call` goes to a venue, to the wallet or to the ledger.  A `Step` is a call, a call that is given up
when the run is cancelled meanwhile, the question whether the run has been cancelled, or something
shown to the outside: the board or an event.  A `Talk` is a flow of steps.
-/

namespace PoolExit

/-- A venue's adapter: how it understands listings.  Adapters are called by their position. -/
structure Adapter where
  venue : Venue
  resolve : Json → Except VenueError Position

/-- A call to a venue, the wallet or the ledger. -/
inductive Call where
  | discover (adapter : Nat) (owner : Pubkey)
  | build (adapter : Nat) (order : BuildOrder)
  | signAll (transactions : List Transaction)
  | signOne (transaction : Transaction)
  | blockHeight
  | simulate (transaction : Transaction)
  | submit (transaction : Transaction)
  | confirm (signature : Signature) (expiryHeight : UInt64)

/-- What a call is answered with. -/
abbrev Call.Answer : Call → Type
  | .discover .. => Except VenueError (List Listing)
  | .build .. => Except VenueError Draft
  | .signAll _ => Except SignerError (List Transaction)
  | .signOne _ => Except SignerError Transaction
  | .blockHeight => Except LedgerError UInt64
  | .simulate _ => Except LedgerError Unit
  | .submit _ => Except LedgerError Signature
  | .confirm .. => Except LedgerError Unit

/-- One step of an exit. -/
inductive Step where
  /-- A call that is waited for. -/
  | call (c : Call)
  /-- A call that loses against a cancellation: without an answer, it was given up. -/
  | race (c : Call)
  /-- Whether the run has been cancelled. -/
  | stopped
  | publish (board : Board)
  | note (notice : Notice)

/-- What a step is answered with. -/
abbrev Step.Answer : Step → Type
  | .call c => c.Answer
  | .race c => Option c.Answer
  | .stopped => Bool
  | .publish _ => Unit
  | .note _ => Unit

/-- A flow of steps. -/
abbrev Talk (α : Type) := Flow Step Step.Answer α

namespace Talk

variable {α : Type}

/-- Makes a call and waits for its answer. -/
def call (c : Call) : Talk c.Answer := Flow.question (Step.call c)

/-- Whether the run has been cancelled. -/
def stopped : Talk Bool := Flow.question Step.stopped

/-- Shows an event. -/
def note (n : Notice) : Talk Unit := Flow.question (Step.note n)

/-- Shows the board. -/
def publish (board : Board) : Talk Unit := Flow.question (Step.publish board)

/-- Shows events in order. -/
def noteAll : List Notice → Talk Unit
  | [] => .done ()
  | n :: rest => do
    note n
    noteAll rest

/-- Gives up where a call loses against a cancellation. -/
def interruptible : Talk α → Talk (Option α)
  | .done a => .done (some a)
  | .ask (.call c) next => .ask (.race c) fun
    | some answer => interruptible (next answer)
    | none => .done none
  | .ask (.race c) next => .ask (.race c) fun answer => interruptible (next answer)
  | .ask .stopped next => .ask .stopped fun answer => interruptible (next answer)
  | .ask (.publish b) next => .ask (.publish b) fun answer => interruptible (next answer)
  | .ask (.note n) next => .ask (.note n) fun answer => interruptible (next answer)

/-- Does not begin where the run has been cancelled, and gives up where it is cancelled
meanwhile. -/
def untilStopped (p : Talk α) : Talk (Option α) := do
  if ← stopped then return none
  p.interruptible

end Talk

end PoolExit
