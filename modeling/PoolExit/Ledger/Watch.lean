import PoolExit.Bytes
import PoolExit.Ledger.Error

/-!
# Watching a transaction

A submitted transaction is watched until the ledger has spoken: it is confirmed, it failed, its expiry
height has passed, or time has run out.  In each round the status is looked at first, then the height,
then the clock.  Past the expiry height the status is looked at once more, for the transaction may
have landed in the last moment; such a late landing is not announced.

The watch is a machine: `Watch.next` takes the answer to the question that `Watch.question` asks.
-/

namespace PoolExit

/-- What the ledger says of a transaction. -/
inductive Sighting where
  | pending
  | confirmed
  | failed (failure : String)
deriving DecidableEq, Repr

/-- The watched transaction. -/
structure Watched where
  signature : Signature
  expiryHeight : UInt64
deriving DecidableEq

/-- What a watch asks of the world. -/
inductive WatchQuestion where
  | status
  | height
  /-- Whether time has run out, and if so, how many milliseconds have been waited. -/
  | clock
  /-- To let some time pass. -/
  | pause
  /-- To tell that the transaction has landed. -/
  | announce
deriving DecidableEq, Repr

/-- What a question is answered with. -/
abbrev WatchQuestion.Answer : WatchQuestion → Type
  | .status => Except LedgerError Sighting
  | .height => Except LedgerError UInt64
  | .clock => Option Nat
  | .pause => Unit
  | .announce => Unit

/-- Where a watch stands. -/
inductive Watch where
  | looking
  | measuring
  /-- The expiry height has passed, by the given height; the status is looked at once more. -/
  | lastLook (height : UInt64)
  | checkingClock
  | resting
  /-- The transaction has landed, which is to be told. -/
  | landing
  | settled (verdict : Except LedgerError Unit)

namespace Watch

/-- The question that a watch asks next; none where it is over. -/
def question? : Watch → Option WatchQuestion
  | .looking => some .status
  | .measuring => some .height
  | .lastLook _ => some .status
  | .checkingClock => some .clock
  | .resting => some .pause
  | .landing => some .announce
  | .settled _ => none

/-- What follows from what was seen, given what follows where the transaction is confirmed and where
the ledger has not spoken. -/
def judge (ifConfirmed ifPending : Watch) : Except LedgerError Sighting → Watch
  | .error e => .settled (.error e)
  | .ok .confirmed => ifConfirmed
  | .ok (.failed failure) => .settled (.error (.failedOnChain failure))
  | .ok .pending => ifPending

/-- Takes in what the ledger says of the transaction. -/
def onStatus (w : Watched) : Watch → Except LedgerError Sighting → Watch
  | .looking, seen => judge .landing .measuring seen
  | .lastLook height, seen =>
    judge (.settled (.ok ())) (.settled (.error (.expired height w.expiryHeight))) seen
  | other, _ => other

/-- Takes in the height. -/
def onHeight (w : Watched) : Watch → Except LedgerError UInt64 → Watch
  | .measuring, .error e => .settled (.error e)
  | .measuring, .ok height => if w.expiryHeight < height then .lastLook height else .checkingClock
  | other, _ => other

/-- Takes in whether time has run out. -/
def onClock (w : Watched) : Watch → Option Nat → Watch
  | .checkingClock, some waitedMs => .settled (.error (.unconfirmed w.signature.text waitedMs))
  | .checkingClock, none => .resting
  | other, _ => other

/-- Takes in the answer to a question. -/
def next (w : Watched) (s : Watch) : (q : WatchQuestion) → q.Answer → Watch
  | .status, seen => s.onStatus w seen
  | .height, height => s.onHeight w height
  | .clock, waited => s.onClock w waited
  | .pause, () => match s with
    | .resting => .looking
    | other => other
  | .announce, () => match s with
    | .landing => .settled (.ok ())
    | other => other

/-- Follows a watch for at most `steps` questions; a watch that is not over by then counts as one
whose time has run out. -/
def follow {m : Type → Type} [Monad m] (w : Watched) (ask : (q : WatchQuestion) → m q.Answer)
    (patienceMs : Nat) : (steps : Nat) → Watch → m (Except LedgerError Unit)
  | _, .settled verdict => pure verdict
  | 0, _ => pure (.error (.unconfirmed w.signature.text patienceMs))
  | steps + 1, s => match s.question? with
    | some q => do follow w ask patienceMs steps (s.next w q (← ask q))
    | none => follow w ask patienceMs steps s

end Watch

end PoolExit
