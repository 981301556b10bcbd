import PoolExit.Exit.Desk

/-!
# Conducting a talk

A talk at a desk is conducted by someone who answers its calls.  The answerer works on the desk too,
so a cancellation, or another run that is tried meanwhile, may come from inside a call.

A call that is raced against the cancellation is given up where the run is cancelled before the answer
is there.  An answer that comes at once is taken in any case.  A call that never ends and is not given
up leaves the talk hanging: then there is no result.
-/

namespace PoolExit

/-- How a call ends. -/
inductive Reply (α : Type) where
  /-- With an answer that is there as soon as the call is made. -/
  | atOnce (answer : α)
  /-- With an answer that is waited for. -/
  | later (answer : α)
  | never

/-- The answer of a call that is waited for in any case. -/
def Reply.answer? {α : Type} : Reply α → Option α
  | .atOnce a | .later a => some a
  | .never => none

/-- The answer of a call that is raced; `stopped` says whether the run was cancelled by the end of
the call.  The outer option is empty where the call hangs, the inner one where it was given up. -/
def Reply.raced? {α : Type} (stopped : Bool) : Reply α → Option (Option α)
  | .atOnce a => some (some a)
  | .later a => some (if stopped then none else some a)
  | .never => if stopped then some none else none

/-- Answers the calls of talks at a desk, and takes in their events. -/
structure Conductor (m : Type → Type) where
  answer : (c : Call) → StateT Desk m (Reply c.Answer)
  note : Notice → m Unit

namespace Conductor

variable {m : Type → Type} [Monad m] {α : Type}

/-- Whether the run under way has been cancelled. -/
def stopped : StateT Desk m Bool := do return (← get).stopped

/-- Conducts a talk; there is no result where it hangs. -/
def conduct (k : Conductor m) : Talk α → StateT Desk m (Option α)
  | .done a => pure (some a)
  | .ask (.call c) next => do
    match (← k.answer c).answer? with
    | some a => k.conduct (next a)
    | none => pure none
  | .ask (.race c) next => do
    let reply ← k.answer c
    match reply.raced? (← stopped) with
    | some a => k.conduct (next a)
    | none => pure none
  | .ask .stopped next => do k.conduct (next (← stopped))
  | .ask (.publish board) next => do
    modify (·.publish board)
    k.conduct (next ())
  | .ask (.note n) next => do
    k.note n
    k.conduct (next ())

end Conductor

/-- How a run that was asked for came out. -/
inductive RunOutcome where
  /-- It was not taken on. -/
  | refused (error : ExitError)
  /-- It hung at a call and was dropped there. -/
  | dropped
  | ended (result : Except ExitError Board)

/-- Asks the desk for a run. -/
def Conductor.run {m : Type → Type} [Monad m] (k : Conductor m) (setup : Setup) (o : Options) :
    StateT Desk m RunOutcome := do
  match (← get).accept o with
  | .error e => return .refused e
  | .ok () => match ← k.conduct (Run.whole setup o) with
    | some result => return .ended result
    | none =>
      modify Desk.drop
      return .dropped

/-- Asks the desk to cancel the run under way, and says whether there is one. -/
def Desk.requestAbort {m : Type → Type} [Monad m] (note : Notice → m Unit) :
    StateT Desk m Bool := do
  let (running, desk) := (← get).abort
  set desk
  if running then note .cancelRequested
  return running

end PoolExit
