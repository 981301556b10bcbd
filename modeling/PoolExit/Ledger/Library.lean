import PoolExit.Chain.Transaction
import PoolExit.Ledger.Failure
import PoolExit.Text.Base58

/-!
# Reading the results of a node

A node is asked through a library, which reads the results of the requests, refuses a result that
does not have the form of its request, and knows how sure the ledger is of a transaction.  What an
exit uses of the library is a `NodeLibrary`; the laws of an exit hold for each of them.  The program
comes with `NodeLibrary.strict`.
-/

namespace PoolExit

/-- How sure the ledger has to be of a transaction. -/
inductive Commitment where
  | processed
  | confirmed
  | finalized
deriving DecidableEq, Repr

namespace Commitment

/-- All commitments. -/
def all : List Commitment := [.processed, .confirmed, .finalized]

/-- The name of a commitment. -/
def name : Commitment → String
  | .processed => "processed"
  | .confirmed => "confirmed"
  | .finalized => "finalized"

/-- The commitment of a name. -/
def ofName? (name : String) : Option Commitment := all.find? fun c => c.name = name

end Commitment

/-- What is known of a transaction that has come to the ledger. -/
structure TransactionStatus where
  slot : UInt64
  /-- How many blocks stand behind the one of the transaction; none where they count no more. -/
  confirmations : Option UInt64
  /-- How the transaction failed, if it did. -/
  failure : Option String
  /-- How sure the ledger is, if the node says so. -/
  commitment : Option Commitment
deriving DecidableEq, Repr

/-- What came of a simulation. -/
structure SimulationOutcome where
  failure : Option String
  logs : Option (List String)
deriving DecidableEq, Repr

/-- What the library does through which a node is asked.  Each reader has nothing for a result that
it refuses. -/
structure NodeLibrary where
  height : Json → Option UInt64
  balance : Json → Option UInt64
  /-- The statuses of the transactions that were asked about; none for one that is not known. -/
  statuses : Json → Option (List (Option TransactionStatus))
  /-- Whether a status is sure enough. -/
  satisfies : TransactionStatus → Commitment → Bool
  simulation : Json → Option SimulationOutcome
  /-- The signature under which a transaction was submitted. -/
  signature : Transaction → Json → Option Signature

namespace NodeLibrary

/-- The member of a name; one that is not there counts as empty. -/
def optional? {α : Type} (read : Json → Option α) (name : String) (v : Json) : Option (Option α) :=
  match v.get? name with
  | none | some .null => some none
  | some value => (read value).map some

/-- The value in a result that says for which slot it holds. -/
def valueAtSlot? {α : Type} (read : Json → Option α) (v : Json) : Option α := do
  let context ← v.get? "context"
  let _ ← (← context.get? "slot").uint64?
  read (← v.get? "value")

/-- Whether the older form of an outcome is there: a success without a value, or a failure. -/
def isOutcome : Json → Bool
  | .object [("Ok", .null)] => true
  | .object [("Err", failure)] => (Ledger.failureText? failure).isSome
  | _ => false

/-- The status of a transaction. -/
def status? (v : Json) : Option TransactionStatus := do
  let slot ← (← v.get? "slot").uint64?
  let confirmations ← optional? Json.uint64? "confirmations" v
  if !isOutcome (← v.get? "status") then none
  let failure ← optional? Ledger.failureText? "err" v
  let commitment ← optional? (fun name => name.string?.bind Commitment.ofName?)
    "confirmationStatus" v
  return { slot, confirmations, failure, commitment }

/-- A status that may be missing. -/
def statusOrNull? : Json → Option (Option TransactionStatus)
  | .null => some none
  | v => (status? v).map some

/-- The outcome of a simulation. -/
def simulation? (v : Json) : Option SimulationOutcome := do
  let _ ← v.members?
  let failure ← optional? Ledger.failureText? "err" v
  let logs ← optional? (fun lines => lines.array?.bind (·.mapM Json.string?)) "logs" v
  return { failure, logs }

/-- How sure a status is.  A node that does not name it tells by the blocks behind the
transaction. -/
def isSure (status : TransactionStatus) : Commitment → Bool
  | .processed => true
  | .finalized => status.confirmations.isNone
  | .confirmed => match status.commitment with
    | some named => named ≠ .processed
    | none => match status.confirmations with
      | some n => 1 < n
      | none => true

/-- The signature in a result, if it is the one that the transaction has. -/
def signature? (t : Transaction) (v : Json) : Option Signature := do
  let bytes ← (Text.Base58.decode (← v.string?)).toOption
  let s ← FixedBytes.ofBytes? bytes
  if t.signatures.head? = some s then some s else none

/-- The library that refuses whatever does not have the form of an answer. -/
def strict : NodeLibrary where
  height := Json.uint64?
  balance := valueAtSlot? Json.uint64?
  statuses := valueAtSlot? fun v => v.array?.bind (·.mapM statusOrNull?)
  satisfies := isSure
  simulation := valueAtSlot? simulation?
  signature := signature?

end NodeLibrary

end PoolExit
