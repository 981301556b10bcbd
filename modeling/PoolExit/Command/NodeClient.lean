import PoolExit.Command.Shell
import PoolExit.Settings.Basic

/-!
# Asking a node

A node is asked at one address and for one commitment.  A submitted transaction is looked at again and
again, with pauses, until the ledger has spoken or time has run out.
-/

namespace PoolExit.Command

/-- How a node is asked. -/
structure NodeClient where
  url : String
  commitment : Commitment
  confirmTimeoutMs : Nat
  pollIntervalMs : Nat
  library : NodeLibrary := .strict

/-- The shortest pause between two looks at a transaction. -/
def shortestPauseMs : Nat := 50

namespace NodeClient

/-- How the node at an address is asked under given settings. -/
def ofSettings (s : Settings) (url : String) : NodeClient where
  url
  commitment := s.global.commitment
  confirmTimeoutMs := s.exit.confirmTimeoutMs.toNat
  pollIntervalMs := max s.exit.confirmPollIntervalMs.toNat shortestPauseMs

variable (c : NodeClient)

/-- Talks to the node. -/
def ask {α : Type} (talk : NodeTalk α) : Shell α :=
  talk.perform fun request => Shell.step (.node c.url request)

/-- Asks for the block height. -/
def blockHeight : Shell (Except LedgerError UInt64) :=
  c.ask (Node.blockHeight c.library c.commitment)

/-- Asks for the balance of an account. -/
def balance (owner : Pubkey) : Shell (Except LedgerError UInt64) :=
  c.ask (Node.balance c.library c.commitment owner)

/-- Has a transaction simulated. -/
def simulate (t : Transaction) : Shell (Except LedgerError Unit) :=
  c.ask (Node.simulate c.library c.commitment t)

/-- Submits a transaction. -/
def submit (t : Transaction) : Shell (Except LedgerError Signature) := do
  let answer ← c.ask (Node.submit c.library c.commitment t)
  if let .ok signature := answer then Shell.note (.submitted signature c.url)
  return answer

/-- Answers the questions of a watch that began at `start`.  A pause ends when time runs out. -/
def answerWatch (start : Nat) (w : Watched) : (q : WatchQuestion) → Shell q.Answer
  | .status => c.ask (Node.status c.library c.commitment w.signature)
  | .height => c.blockHeight
  | .clock => do
    let waited := (← Shell.step .clock) - start
    return if c.confirmTimeoutMs < waited then some waited else none
  | .pause => do
    let waited := (← Shell.step .clock) - start
    Shell.step (.pause (min c.pollIntervalMs (c.confirmTimeoutMs - waited)))
  | .announce => Shell.note (.landed w.signature)

/-- Waits for at most so many rounds until the ledger has spoken of a transaction; each round has at
most four questions. -/
def confirmWithin (rounds : Nat) (w : Watched) : Shell (Except LedgerError Unit) := do
  let start ← Shell.step .clock
  Watch.follow w (c.answerWatch start w) c.confirmTimeoutMs (4 * rounds) .looking

/-- The number of rounds for which a transaction can be watched before time runs out. -/
def rounds : Nat := c.confirmTimeoutMs / c.pollIntervalMs + 2

/-- Waits until the ledger has spoken of a transaction, or time has run out. -/
def confirm (w : Watched) : Shell (Except LedgerError Unit) := c.confirmWithin c.rounds w

end NodeClient

end PoolExit.Command
