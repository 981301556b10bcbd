import PoolExit.Endpoint.Status

/-!
# Failures of an endpoint

Why a request to a discovery or build endpoint gave no usable answer.  `EndpointError.message` is
the wording of the failure itself, `EndpointError.describe` adds the causes behind it.
-/

namespace PoolExit

/-- Why a request to an endpoint gave no usable answer. -/
inductive EndpointError where
  /-- The request did not get through; the outermost cause comes first. -/
  | transport (causes : List String)
  | timeout (endpoint : String) (timeoutMs : Nat) (causes : List String)
  /-- The answer is no JSON text. -/
  | unreadable (fault : String)
  | badStatus (endpoint : String) (status : HttpStatus) (body : String)
  | rateLimited (endpoint : String) (status : HttpStatus) (body : String)
  /-- The answer is JSON of the wrong shape. -/
  | malformed (reason : String)
  /-- The endpoint says why it builds no transaction. -/
  | rejected (code : String) (message : String)
  | notConfigured (setting : String)
deriving DecidableEq, Repr

namespace EndpointError

/-- The wording of a failure. -/
def message : EndpointError → String
  | .transport causes => s!"HTTP 请求失败: " ++ causes.headD ""
  | .timeout endpoint timeoutMs _ => s!"请求 {endpoint} 超时（{timeoutMs}ms）"
  | .unreadable fault => s!"响应解析失败: {fault}"
  | .badStatus endpoint status body => s!"请求 {endpoint} 返回状态 {status.text}: {body}"
  | .rateLimited endpoint status body => s!"请求 {endpoint} 被限流，状态 {status.text}: {body}"
  | .malformed reason => s!"响应结构不符合预期: {reason}"
  | .rejected code text => s!"构建被拒绝 ({code}): {text}"
  | .notConfigured setting => s!"未配置端点: {setting}"

/-- The causes behind a failure, the outermost first. -/
def causes : EndpointError → List String
  | .transport causes => causes
  | .timeout _ _ causes => causes
  | .unreadable fault => [fault]
  | _ => []

/-- Leaves out each text that repeats the one before it. -/
def withoutRepeats (last : String) : List String → List String
  | [] => []
  | c :: rest => if c = last then withoutRepeats last rest else c :: withoutRepeats c rest

/-- The wording of a failure and of the causes behind it. -/
def describe (e : EndpointError) : String :=
  " | caused by: ".intercalate (e.message :: withoutRepeats e.message e.causes)

end EndpointError

end PoolExit
