import PoolExit.Exit.Guard
import PoolExit.Ledger.Error
import PoolExit.Venue.Error
import PoolExit.Wallet.Error

/-!
# Failures of an exit

Why a run was refused or given up, or an attempt at one of its items failed.
-/

namespace PoolExit

/-- Why a run or an attempt failed. -/
inductive ExitError where
  | runInProgress
  | unexpectedSigner (strangers : Strangers)
  | invalidOptions (reason : String)
  | signer (error : SignerError)
  | ledger (error : LedgerError)
  | venue (error : VenueError)
  | cancelled
deriving DecidableEq

namespace ExitError

/-- The wording of a failure. -/
def message : ExitError → String
  | .runInProgress => "已有退出流程正在规划或执行"
  | .unexpectedSigner s =>
    s!"第 {s.index} 笔交易（{s.venue.name} 池 {s.pool.text}）需要非预期签名者: {s.list}"
  | .invalidOptions reason => s!"配置缺失或非法: {reason}"
  | .signer error => s!"签名失败: {error.message}"
  | .ledger error => s!"落地失败: {error.message}"
  | .venue error => s!"协议错误: {error.message}"
  | .cancelled => "已取消"

/-- The wording of a failure; what happened at a venue is told in full. -/
def describe : ExitError → String
  | .venue error => error.describe
  | other => other.message

end ExitError

end PoolExit
