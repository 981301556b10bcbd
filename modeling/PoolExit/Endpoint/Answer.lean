import PoolExit.Endpoint.Error
import PoolExit.Json.Reader
import PoolExit.Json.Writer
import PoolExit.Text.Digits
import PoolExit.Text.Blank

/-!
# Answers of endpoints

A build endpoint grants a transaction, or says why it builds none; everything else is a failure.  A
discovery endpoint lists positions, and here everything else counts as an empty list, with a complaint
that says what was wrong.
-/

namespace PoolExit

/-- The first characters of a body, on one line, for messages about it. -/
def bodySummary (body : String) : String :=
  let cs := (Text.trimChars body.toList).map fun c => if c = '\n' ∨ c = '\r' then ' ' else c
  if cs.isEmpty then "(empty response body)"
  else if 512 < cs.length then String.ofList (cs.take 512 ++ ['…'])
  else String.ofList cs

/-- A 64-bit number, as a number or as decimal text. -/
def Json.looseUInt64? : Json → Option UInt64
  | .string s => (Text.readUInt64 (Text.trim s)).toOption
  | v => v.uint64?

/-- A transaction that a build endpoint has made. -/
structure Grant where
  transaction : String
  expiryHeight : UInt64
deriving DecidableEq, Repr

namespace Grant

/-- Why a build endpoint builds no transaction. -/
def rejection : Json → EndpointError
  | .string text => .rejected "unknown" text
  | .object members =>
    let code := match members.lookup "code" with
      | some (.string text) => text
      | some other => other.compact
      | none => "unknown"
    let text := ((members.lookup "message").bind Json.string?).getD "未提供错误信息"
    .rejected code text
  | other => .rejected "unknown" other.compact

/-- The member of the first of two names that is there at all. -/
def either (first second : String) (members : List (String × Json)) : Option Json :=
  (members.lookup first).or (members.lookup second)

/-- The text of the transaction. -/
def transaction? (members : List (String × Json)) : Option String := do
  let text ← (← either "serializedTransaction" "transaction" members).string?
  let text := Text.trim text
  if text.isEmpty then none else some text

/-- The last block height at which the transaction may land. -/
def expiryHeight? (members : List (String × Json)) : Option UInt64 := do
  (← either "expiryHeight" "lastValidBlockHeight" members).looseUInt64?

/-- Reads the object that a build endpoint answers with. -/
def ofMembers (members : List (String × Json)) : Except EndpointError Grant :=
  match (members.lookup "error").filter (!·.isNull) with
  | some error => .error (rejection error)
  | none => match transaction? members with
    | none => .error (.malformed "缺少 serializedTransaction 字段")
    | some transaction => match expiryHeight? members with
      | none => .error (.malformed "缺少或非法的 expiryHeight 字段")
      | some expiryHeight => .ok { transaction, expiryHeight }

/-- Reads the answer of a build endpoint. -/
def read (body : String) : Except EndpointError Grant :=
  let text := Text.trim body
  if text.isEmpty then .error (.malformed "build 响应为空")
  else match Json.read text with
    | .error fault => .error (.unreadable fault.message)
    | .ok value => match value.members? with
      | none => .error (.malformed "build 响应不是 JSON 对象")
      | some members => ofMembers members

end Grant

/-- What was wrong with the answer of a discovery endpoint. -/
inductive ListingFault where
  | notJson (fault : String)
  /-- The member `positions` is no list, but a value of another kind. -/
  | positionsNotList (kind : String)
  /-- The answer is neither an object nor a list, but a value of another kind. -/
  | unexpectedShape (kind : String)
deriving DecidableEq, Repr

namespace ListingFault

/-- The wording of a fault. -/
def message : ListingFault → String
  | .notJson _ => "discovery 响应不是合法 JSON，按空结果处理"
  | .positionsNotList _ => "discovery 响应 positions 字段不是数组，按空结果处理"
  | .unexpectedShape _ => "discovery 响应结构不符合预期，按空结果处理"

/-- The value of a fault in the log. -/
def field : ListingFault → String × String
  | .notJson fault => ("error", fault)
  | .positionsNotList kind | .unexpectedShape kind => ("kind", kind)

end ListingFault

/-- The list in a value, or what is wrong with it. -/
def listedValues : Json → List Json × Option ListingFault
  | .array items => (items, none)
  | .object members => match members.lookup "positions" with
    | some (.array items) => (items, none)
    | some .null | none => ([], none)
    | some other => ([], some (.positionsNotList other.kindName))
  | other => ([], some (.unexpectedShape other.kindName))

/-- The positions that a discovery endpoint lists: the objects among the listed values. -/
def readListings (body : String) : List Json × Option ListingFault :=
  let text := Text.trim body
  if text.isEmpty then ([], none)
  else match Json.read text with
    | .error fault => ([], some (.notJson fault.message))
    | .ok value =>
      let (items, fault) := listedValues value
      (items.filter fun v => v.members?.isSome, fault)

end PoolExit
