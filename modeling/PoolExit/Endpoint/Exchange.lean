import PoolExit.Endpoint.Answer
import PoolExit.Flow
import PoolExit.Notice
import PoolExit.Venue.Basic

/-!
# Exchanges with endpoints

An exchange is one request and what came back.  Codes outside of 200 to 299 are failures, but a
build endpoint may say in a 4xx answer why it builds nothing, so such an answer is read; the code 429
is a failure of its own.
-/

namespace PoolExit

/-- Why no answer, or no whole answer, came back; the outermost cause comes first. -/
structure TransportFault where
  timedOut : Bool
  causes : List String
deriving DecidableEq, Repr

/-- The fault of a request whose server cannot be connected to. -/
def TransportFault.cannotConnect (url : String) : TransportFault where
  timedOut := false
  causes :=
    [s!"error sending request for url ({url})", "client error (Connect)", "tcp connect error",
      "Network is unreachable (os error 101)"]

/-- What came back: a status and then the body, each of which may fail to come. -/
abbrev HttpReply := Except TransportFault (HttpStatus × Except TransportFault String)

/-- The two sorts of endpoints that are sent requests. -/
inductive Stage where
  | discover
  | build
deriving DecidableEq, Repr

/-- The name of a sort of endpoints. -/
def Stage.name : Stage → String
  | .discover => "discover"
  | .build => "build"

/-- An event of an exchange. -/
inductive ExchangeNotice where
  | timedOut (venue : Venue) (endpoint : String) (timeoutMs : Nat)
  | broken (venue : Venue) (endpoint : String) (error : String)
  | rateLimited (venue : Venue) (stage : Stage) (endpoint body : String)
  | badStatus (venue : Venue) (stage : Stage) (endpoint : String) (status : HttpStatus)
      (body : String)
  | listing (venue : Venue) (fault : ListingFault)
  | probed (venue : Venue) (endpoint : String)
  | probeFailed (venue : Venue) (endpoint reason : String)
deriving DecidableEq, Repr

/-- The log line of an event. -/
def ExchangeNotice.line : ExchangeNotice → LogLine
  | .timedOut venue endpoint timeoutMs =>
    ⟨.warn, "api::protocol", "协议端点请求超时",
      [("protocol", venue.name), ("endpoint", endpoint), ("timeout_ms", toString timeoutMs)]⟩
  | .broken venue endpoint error =>
    ⟨.warn, "api::protocol", "协议端点请求发送失败",
      [("protocol", venue.name), ("endpoint", endpoint), ("error", error)]⟩
  | .rateLimited venue stage endpoint body =>
    ⟨.warn, "api::protocol", "协议端点命中限流",
      [("protocol", venue.name), ("stage", stage.name), ("endpoint", endpoint), ("body", body)]⟩
  | .badStatus venue stage endpoint status body =>
    ⟨.warn, "api::protocol", "协议端点返回非 2xx 状态",
      [("protocol", venue.name), ("stage", stage.name), ("endpoint", endpoint),
        ("status", toString status.code), ("body", body)]⟩
  | .listing venue fault =>
    ⟨.warn, "api::discover", fault.message, [("protocol", venue.name), fault.field]⟩
  | .probed venue endpoint =>
    ⟨.info, "protocol::runtime", "构建器探活成功",
      [("protocol", venue.name), ("endpoint", endpoint)]⟩
  | .probeFailed venue endpoint reason =>
    ⟨.warn, "protocol::runtime", "构建器探活失败，本轮该协议的构建全部跳过",
      [("protocol", venue.name), ("endpoint", endpoint), ("error", reason)]⟩

/-- What an exchange asks of the world. -/
inductive HttpStep where
  | get (url : String) (timeoutMs : Nat)
  | post (url : String) (body : Json) (timeoutMs : Nat)
  | note (notice : ExchangeNotice)

/-- What a step is answered with. -/
abbrev HttpStep.Answer : HttpStep → Type
  | .get .. => HttpReply
  | .post .. => HttpReply
  | .note _ => Unit

/-- A flow of exchanges. -/
abbrev HttpTalk (α : Type) := Flow HttpStep HttpStep.Answer α

namespace HttpTalk

/-- Shows an event. -/
def note (n : ExchangeNotice) : HttpTalk Unit := Flow.question (HttpStep.note n)

/-- Reports a fault on the way and turns it into a failure. -/
def transportError (venue : Venue) (url : String) (timeoutMs : Nat) (fault : TransportFault) :
    HttpTalk EndpointError := do
  if fault.timedOut then
    note (.timedOut venue url timeoutMs)
    return .timeout url timeoutMs fault.causes
  note (.broken venue url (fault.causes.headD ""))
  return .transport fault.causes

/-- Asks an endpoint whether it is well. -/
def probe (venue : Venue) (url : String) (timeoutMs : Nat) :
    HttpTalk (Except EndpointError Unit) := do
  match ← Flow.question (HttpStep.get url timeoutMs) with
  | .error fault => return .error (← transportError venue url timeoutMs fault)
  | .ok (status, body) =>
    if status.isSuccess then return .ok ()
    return .error (.badStatus url status (bodySummary (body.toOption.getD "")))

/-- Sends a request to an endpoint and takes in the body of its answer. -/
def exchange (venue : Venue) (stage : Stage) (url : String) (timeoutMs : Nat) (request : Json) :
    HttpTalk (Except EndpointError String) := do
  match ← Flow.question (HttpStep.post url request timeoutMs) with
  | .error fault => return .error (← transportError venue url timeoutMs fault)
  | .ok (_, .error fault) => return .error (← transportError venue url timeoutMs fault)
  | .ok (status, .ok body) =>
    if status = HttpStatus.tooManyRequests then
      note (.rateLimited venue stage url (bodySummary body))
      return .error (.rateLimited url status (bodySummary body))
    if !status.isSuccess && !(stage = .build && status.isClientError) then
      note (.badStatus venue stage url status (bodySummary body))
      return .error (.badStatus url status (bodySummary body))
    return .ok body

end HttpTalk

end PoolExit
