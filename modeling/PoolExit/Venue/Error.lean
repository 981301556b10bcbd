import PoolExit.Venue.Basic
import PoolExit.Endpoint.Error

/-!
# Failures at a venue

Why positions could not be found, a position could not be understood, or no draft was built for it.
-/

namespace PoolExit

/-- Why a venue gave no positions or no draft. -/
inductive VenueError where
  | discovery (venue : Venue) (source : EndpointError)
  | build (venue : Venue) (source : EndpointError)
  | missingField (field : String)
  | invalidField (field : String) (value : String)
  | zeroBalance (kind : ActionKind)
  | builderUnavailable (venue : Venue) (reason : String)
  /-- The adapter of one venue listed a position of another one. -/
  | foreignPosition (adapter : Venue) (found : Venue)
  | undecodable (reason : String)
deriving DecidableEq, Repr

namespace VenueError

/-- The wording of a failure. -/
def message : VenueError → String
  | .discovery venue source => s!"{venue.name} discovery 失败: {source.message}"
  | .build venue source => s!"{venue.name} 构建请求失败: {source.message}"
  | .missingField field => s!"持仓缺少必填字段 {field}"
  | .invalidField field value => s!"持仓字段 {field} 非法: {value}"
  | .zeroBalance kind => s!"{kind.name} 可用余额为 0"
  | .builderUnavailable venue reason => s!"{venue.name} 构建器不可用: {reason}"
  | .foreignPosition adapter found => s!"{adapter.name} 适配器返回了 {found.name} 持仓"
  | .undecodable reason => s!"草稿交易解码失败: {reason}"

/-- The wording of a failure and of what lies behind it. -/
def describe (e : VenueError) : String :=
  match e with
  | .discovery _ source | .build _ source => s!"{e.message} | {source.describe}"
  | other => other.message

end VenueError

end PoolExit
