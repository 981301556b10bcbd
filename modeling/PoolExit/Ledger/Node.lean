import PoolExit.Chain.Wire
import PoolExit.Flow
import PoolExit.Json.Reader
import PoolExit.Ledger.Library
import PoolExit.Ledger.Watch
import PoolExit.Text.Base64

/-!
# A node of the ledger

A node is asked by a method name and parameters, and answers with a result or with an error.  Here are
the requests that an exit makes of a node, and what it makes of the results that the library reads.
-/

namespace PoolExit

/-- A request to a node. -/
structure NodeRequest where
  method : String
  params : Json

/-- The answer of a node. -/
inductive NodeReply where
  | unreachable (reason : String)
  | error (code : Int) (text : String)
  | result (value : Json)

/-- The answer of a node that cannot be connected to. -/
def NodeReply.cannotConnect (url : String) : NodeReply :=
  .unreachable s!"error sending request for url ({url})"

/-- A flow of requests to a node. -/
abbrev NodeTalk (α : Type) := Flow NodeRequest (fun _ => NodeReply) α

/-- What an answer says, if its result is read so. -/
def NodeReply.heard {α : Type} (read : Json → Option α) : NodeReply → Except LedgerError α
  | .unreachable reason => .error (.unanswered reason)
  | .error code text => .error (.unanswered s!"RPC response error {code}: {text}; ")
  | .result value => match read value with
    | some a => .ok a
    | none => .error (.unanswered "unexpected answer")

namespace Node

/-- Makes a request and reads its result. -/
def ask {α : Type} (request : NodeRequest) (read : Json → Option α) :
    NodeTalk (Except LedgerError α) := do
  return (← Flow.question request).heard read

/-- The parameter that names a commitment. -/
def commitmentParam (c : Commitment) : Json := .object [("commitment", .string c.name)]

variable (l : NodeLibrary)

/-- The request for the block height. -/
def heightRequest (c : Commitment) : NodeRequest :=
  ⟨"getBlockHeight", .array [commitmentParam c]⟩

/-- Asks for the block height. -/
def blockHeight (c : Commitment) : NodeTalk (Except LedgerError UInt64) :=
  ask (heightRequest c) l.height

/-- Asks for the balance of an account. -/
def balance (c : Commitment) (owner : Pubkey) : NodeTalk (Except LedgerError UInt64) :=
  ask ⟨"getBalance", .array [.string owner.text, commitmentParam c]⟩ l.balance

/-- What the statuses say of the one transaction that was asked about. -/
def sighting (c : Commitment) (statuses : List (Option TransactionStatus)) : Sighting :=
  match statuses.head? with
  | none | some none => .pending
  | some (some status) => match status.failure with
    | some failure => .failed failure
    | none => if l.satisfies status c then .confirmed else .pending

/-- The request for the status of a transaction. -/
def statusRequest (s : Signature) : NodeRequest :=
  ⟨"getSignatureStatuses", .array [.array [.string s.text]]⟩

/-- Asks for the status of a transaction. -/
def status (c : Commitment) (s : Signature) : NodeTalk (Except LedgerError Sighting) := do
  return (← ask (statusRequest s) l.statuses).map (sighting l c)

/-- The number of log lines that are kept of a failed simulation. -/
def keptLogs : Nat := 8

/-- What a simulation says of its transaction. -/
def simulated (outcome : SimulationOutcome) : Except LedgerError Unit :=
  match outcome.failure with
  | none => .ok ()
  | some failure =>
    let logs := outcome.logs.getD []
    .error (.simulation failure (logs.drop (logs.length - keptLogs)))

/-- The text of a transaction in a request. -/
def encoded (t : Transaction) : Json := .string (Text.Base64.encode t.encode)

/-- Has a transaction simulated. -/
def simulate (c : Commitment) (t : Transaction) : NodeTalk (Except LedgerError Unit) := do
  let outcome ← ask ⟨"simulateTransaction",
    .array [encoded t,
      .object [("encoding", .string "base64"), ("commitment", .string c.name)]]⟩ l.simulation
  return outcome.bind simulated

/-- Submits a transaction. -/
def submit (c : Commitment) (t : Transaction) : NodeTalk (Except LedgerError Signature) :=
  ask ⟨"sendTransaction",
    .array [encoded t,
      .object [("encoding", .string "base64"), ("preflightCommitment", .string c.name)]]⟩
    (l.signature t)

end Node

end PoolExit
