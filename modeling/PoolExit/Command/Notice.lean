import PoolExit.Chain.Transaction
import PoolExit.Json.Writer
import PoolExit.Ledger.Error
import PoolExit.Notice

/-!
# Events of the program

What happens around a run.
-/

namespace PoolExit.Command

/-- An event of the program. -/
inductive ProgramNotice where
  | nodeReady (url : String)
  | noVenue
  | balance (owner : Pubkey) (lamports : UInt64)
  | balanceUnknown (owner : Pubkey) (error : LedgerError)
  | interrupted
  | submitted (signature : Signature) (url : String)
  | landed (signature : Signature)

/-- The log line of an event. -/
def ProgramNotice.line : ProgramNotice → LogLine
  | .nodeReady url => ⟨.info, "lander::rpc", "RPC 已就绪", [("endpoint", url)]⟩
  | .noVenue => ⟨.warn, "planner", "没有启用任何协议", []⟩
  | .balance owner lamports =>
    ⟨.info, "orchestrator", "钱包余额", [("owner", owner.text), ("lamports", toString lamports)]⟩
  | .balanceUnknown owner error =>
    ⟨.warn, "orchestrator", "查询余额失败", [("owner", owner.text), ("error", error.message)]⟩
  | .interrupted => ⟨.info, "orchestrator", "收到终止信号，等待在途交易结束", []⟩
  | .submitted signature url =>
    ⟨.info, "lander::rpc", "transaction submitted via rpc client",
      [("signature", signature.text), ("endpoint", url)]⟩
  | .landed signature => ⟨.info, "lander::rpc", "交易已确认", [("signature", signature.text)]⟩

end PoolExit.Command

namespace PoolExit.LogLine

/-- A line of the log as JSON. -/
def json (l : LogLine) : Json :=
  .object
    [("level", .string l.level.name),
      ("fields", .object (("message", .string l.message) ::
        l.fields.map fun (name, value) => (name, .string value))),
      ("target", .string l.target)]

/-- A line of the log as text. -/
def text (l : LogLine) : String :=
  let fields := l.fields.map fun (name, value) => " " ++ name ++ "=" ++ value
  s!"{l.level.name} {l.target}: {l.message}" ++ String.join fields

end PoolExit.LogLine
