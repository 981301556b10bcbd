import PoolExit.Exit.Board
import PoolExit.Exit.Error
import PoolExit.Notice

/-!
# Events of an exit

Everything an exit reports while it goes on.  `Notice.line` is the log line of an event.
-/

namespace PoolExit

/-- How the wallet was asked for signatures: for all at once or one by one. -/
inductive SigningPath where
  | bulk
  | sequential
deriving DecidableEq, Repr

/-- The name of a way of signing. -/
def SigningPath.name : SigningPath → String
  | .bulk => "bulk"
  | .sequential => "sequential"

/-- A candidate or a whole position that gets no task, and why. -/
structure Exclusion where
  venue : Venue
  pool : Option Pubkey
  kind : Option ActionKind
  reason : VenueError
deriving DecidableEq

/-- An event of an exit. -/
inductive Notice where
  | discovered (venue : Venue) (positions : Nat)
  | discoveryFailed (venue : Venue) (error : VenueError)
  | excluded (exclusion : Exclusion)
  | variantsCutShort (position : Position) (kind : ActionKind) (feeLevel : UInt64) (kept : Nat)
      (error : VenueError)
  | unitLimitAbove (position : Position) (limit ceiling : UInt32)
  | feeMismatch (position : Position) (requested embedded : UInt64)
  | planReady (items excluded : Nat)
  | nothingToExit
  | strangers (strangers : Strangers)
  | bulkFailed (count : Nat) (error : SignerError)
  | bulkLengthMismatch (expected actual : Nat)
  | bulkMessageChanged (index : Nat)
  | singleFailed (index : Nat) (error : SignerError)
  | signed (path : SigningPath) (total failed : Nat)
  | attempt (index : Nat) (task : Task) (number : Nat) (feeLevel : UInt64)
  | attemptFailed (index : Nat) (task : Task) (number : Nat) (feeLevel : UInt64)
      (error : ExitError)
  | confirmed (index : Nat) (task : Task) (signature : Signature) (feeLevel : UInt64)
      (variant failedVariants : Nat)
  | failed (index : Nat) (task : Task) (reason : String)
  | aborted (reason : String)
  | finished (summary : Summary) (cancelled : Bool)
  | cancelRequested

namespace Notice

/-- The line of an event that the monitor counts; the event's name is one of its values. -/
def monitored (level : LogLevel) (part event message : String) (fields : List (String × String)) :
    LogLine :=
  ⟨level, "monitoring::" ++ part, message, ("event", event) :: fields⟩

/-- The line of an event inside the engine. -/
def internal (level : LogLevel) (part message : String) (fields : List (String × String)) :
    LogLine :=
  ⟨level, "engine::" ++ part, message, fields⟩

/-- The values that name an item. -/
def itemFields (index : Nat) (task : Task) : List (String × String) :=
  [("index", toString index), ("protocol", task.venue.name), ("pool", task.pool.text),
    ("kind", task.kind.name)]

/-- The values that name an attempt. -/
def attemptFields (index : Nat) (task : Task) (number : Nat) (feeLevel : UInt64) :
    List (String × String) :=
  itemFields index task ++ [("attempt", toString number), ("fee_level", toString feeLevel)]

/-- The log line of an event. -/
def line : Notice → LogLine
  | .discovered venue positions =>
    monitored .info "discovery" "finished" "持仓发现完成"
      [("protocol", venue.name), ("positions", toString positions)]
  | .discoveryFailed venue error =>
    monitored .warn "discovery" "failed" "持仓发现失败，按空结果处理"
      [("protocol", venue.name), ("error", error.describe)]
  | .excluded e =>
    monitored .warn "planner" "excluded" "候选仓位被排除"
      [("protocol", e.venue.name), ("pool", (e.pool.map FixedBytes.text).getD ""),
        ("kind", (e.kind.map ActionKind.name).getD "-"), ("reason", e.reason.describe)]
  | .variantsCutShort position kind feeLevel kept error =>
    internal .warn "planner" "高档费率草稿构建失败，保留已有变体"
      [("protocol", position.venue.name), ("pool", position.pool.text), ("action", kind.name),
        ("fee_level", toString feeLevel), ("kept", toString kept), ("error", error.describe)]
  | .unitLimitAbove position limit ceiling =>
    internal .warn "planner" "草稿的 compute unit 上限超过配置"
      [("protocol", position.venue.name), ("pool", position.pool.text),
        ("limit", toString limit), ("ceiling", toString ceiling)]
  | .feeMismatch position requested embedded =>
    monitored .warn "planner" "fee_mismatch" "草稿内嵌费率与请求不一致"
      [("protocol", position.venue.name), ("pool", position.pool.text),
        ("requested", toString requested), ("embedded", toString embedded)]
  | .planReady items left =>
    monitored .info "planner" "ready" "退出计划已生成"
      [("items", toString items), ("excluded", toString left)]
  | .nothingToExit => internal .info "orchestrator" "没有可退出的仓位" []
  | .strangers s =>
    internal .warn "signer_guard" "草稿交易需要非预期签名者"
      [("index", toString s.index), ("protocol", s.venue.name), ("pool", s.pool.text),
        ("signers", "[" ++ s.list ++ "]")]
  | .bulkFailed count error =>
    internal .warn "signing" "批量签名失败，改为逐笔签名"
      [("count", toString count), ("error", error.message)]
  | .bulkLengthMismatch expected actual =>
    internal .warn "signing" "批量签名返回数量不一致，改为逐笔签名"
      [("expected", toString expected), ("actual", toString actual)]
  | .bulkMessageChanged index =>
    internal .warn "signing" "批量签名返回的交易内容被改动，改为逐笔签名" [("index", toString index)]
  | .singleFailed index error =>
    internal .warn "signing" "单笔签名失败" [("index", toString index), ("error", error.message)]
  | .signed path total missing =>
    monitored .info "signing" "batch" "批量签名阶段结束"
      [("path", path.name), ("total", toString total), ("failed", toString missing)]
  | .attempt index task number feeLevel =>
    monitored .info "submit" "attempt" "发送退出交易" (attemptFields index task number feeLevel)
  | .attemptFailed index task number feeLevel error =>
    monitored .warn "submit" "attempt_failed" "本档费率发送失败"
      (attemptFields index task number feeLevel ++ [("error", error.describe)])
  | .confirmed index task signature feeLevel variant failedVariants =>
    monitored .info "submit" "confirmed" "退出交易已确认"
      (itemFields index task ++
        [("signature", signature.text), ("fee_level", toString feeLevel),
          ("variant", toString variant), ("failed_variants", toString failedVariants)])
  | .failed index task reason =>
    monitored .warn "submit" "failed" "退出条目失败" (itemFields index task ++ [("error", reason)])
  | .aborted reason => monitored .warn "run" "aborted" "退出流程被中止" [("error", reason)]
  | .finished s cancelled =>
    monitored .info "run" "finished" "退出流程结束"
      [("total", toString s.total), ("confirmed", toString s.confirmed),
        ("failed", toString s.failed), ("skipped", toString s.skipped),
        ("cancelled", toString cancelled)]
  | .cancelRequested => internal .info "orchestrator" "收到取消请求" []

end Notice

end PoolExit
