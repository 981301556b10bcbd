import PoolExit.Exit.Item

/-!
# The board

The board shows the run under way, or the last one: its items, which of them is being worked on, and
how the run ended.
-/

namespace PoolExit

/-- What a run is doing. -/
inductive Phase where
  | idle
  | planning
  | running
  | error
deriving DecidableEq, Repr

/-- The name of a phase. -/
def Phase.name : Phase → String
  | .idle => "idle"
  | .planning => "planning"
  | .running => "running"
  | .error => "error"

/-- How many items have come to which end. -/
structure Summary where
  total : Nat
  confirmed : Nat
  failed : Nat
  skipped : Nat
  inFlight : Nat
deriving DecidableEq, Repr

/-- The public state of a desk. -/
structure Board where
  planning : Bool := false
  running : Bool := false
  items : List Item := []
  currentIndex : Option Nat := none
  started : Bool := false
  finished : Bool := false
  /-- Why the whole run was given up. -/
  error : Option String := none
  cancelled : Bool := false
deriving DecidableEq

namespace Board

instance : Inhabited Board := ⟨{}⟩

/-- Whether a run is under way. -/
def isActive (b : Board) : Bool := b.planning || b.running

/-- What the board shows. -/
def phase (b : Board) : Phase :=
  if b.planning then .planning
  else if b.running then .running
  else if b.error.isSome then .error
  else .idle

/-- How many items have a status. -/
def count (b : Board) (s : Status) : Nat := b.items.countP fun i => i.status = s

/-- The items counted by their ends. -/
def summary (b : Board) : Summary where
  total := b.items.length
  confirmed := b.count .confirmed
  failed := b.count .error
  skipped := b.count .skipped
  inFlight := b.items.countP fun i => !i.status.isTerminal

/-- The board at the start of a run. -/
def opened : Board := { planning := true, started := true }

/-- The plan is made, its tasks become items. -/
def planned (b : Board) (tasks : List Task) : Board :=
  { b with items := tasks.map Item.pending, planning := false, running := true }

/-- Work on an item begins. -/
def focus (b : Board) (index : Nat) : Board := { b with currentIndex := some index }

/-- One item changes. -/
def update (b : Board) (index : Nat) (f : Item → Item) : Board :=
  { b with items := b.items.modify index f }

/-- The reason shown for items that a cancelled run leaves behind. -/
def cancelledReason : String := "cancelled"

/-- The run is over. -/
def closed (b : Board) (error : Option String) (cancelled : Bool) : Board :=
  { b with
    items := if cancelled then b.items.map fun i => (i.skip cancelledReason).2 else b.items
    planning := false
    running := false
    currentIndex := none
    finished := true
    error
    cancelled }

end Board

end PoolExit
