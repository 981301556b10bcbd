/-!
# Failures of the ledger

Why a transaction was not simulated, submitted or confirmed.
-/

namespace PoolExit

/-- Why the ledger gave no good answer. -/
inductive LedgerError where
  /-- The ledger's node gave no answer. -/
  | unanswered (reason : String)
  | simulation (failure : String) (logs : List String)
  /-- The transaction is on the chain and failed there. -/
  | failedOnChain (failure : String)
  | expired (height expiryHeight : UInt64)
  | unconfirmed (signature : String) (waitedMs : Nat)
deriving DecidableEq, Repr

namespace LedgerError

/-- The last line of a log behind a bar, or nothing. -/
def lastLine (logs : List String) : String :=
  match logs.getLast? with
  | some line => s!" | {line}"
  | none => ""

/-- The wording of a failure. -/
def message : LedgerError → String
  | .unanswered reason => s!"RPC 请求失败: {reason}"
  | .simulation failure logs => s!"模拟执行失败: {failure}" ++ lastLine logs
  | .failedOnChain failure => s!"交易执行失败: {failure}"
  | .expired height expiryHeight => s!"交易已过期: 当前区块高度 {height} 超过 {expiryHeight}"
  | .unconfirmed signature waitedMs => s!"等待确认超时（{waitedMs}ms）: {signature}"

end LedgerError

end PoolExit
