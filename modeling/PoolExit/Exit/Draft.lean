import PoolExit.Chain.ComputeBudget
import PoolExit.Chain.Wire
import PoolExit.Text.Base64
import PoolExit.Text.Blank

/-!
# Drafts

A draft is a transaction that waits for signatures, with the last block height at which it may land.
Its text is the base-64 form of its bytes.  A draft that has been read has exactly one slot for
each signature it needs.
-/

namespace PoolExit

/-- Why a text is no draft. -/
inductive DraftError where
  | base64 (error : Text.Base64.Error)
  | wire (error : Wire.Error)
  | trailingBytes (count : Nat)
  | tooManySignatures (required actual : Nat)
deriving DecidableEq, Repr

/-- The wording of a failure. -/
def DraftError.message : DraftError → String
  | .base64 error => s!"base64 解码失败: {error.message}"
  | .wire error => s!"交易反序列化失败: {error.message}"
  | .trailingBytes count => s!"交易尾部存在 {count} 个多余字节"
  | .tooManySignatures required actual => s!"签名数量 {actual} 超过所需签名数 {required}"

/-- A transaction that waits for signatures. -/
structure Draft where
  transaction : Transaction
  expiryHeight : UInt64
deriving DecidableEq

namespace Draft

/-- A draft of a transaction, with empty slots for the signatures that have none. -/
def new (transaction : Transaction) (expiryHeight : UInt64) : Draft :=
  ⟨transaction.padded, expiryHeight⟩

/-- Reads a draft off its text; surrounding blanks do not matter. -/
def read (encoded : String) (expiryHeight : UInt64) : Except DraftError Draft :=
  match Text.Base64.decode (Text.trim encoded) with
  | .error e => .error (.base64 e)
  | .ok bytes => match Transaction.decode bytes with
    | .error e => .error (.wire e)
    | .ok (transaction, rest) =>
      if rest.length ≠ 0 then .error (.trailingBytes rest.length)
      else if transaction.message.required < transaction.signatures.length then
        .error (.tooManySignatures transaction.message.required transaction.signatures.length)
      else .ok (new transaction expiryHeight)

/-- The text of a draft. -/
def text (d : Draft) : String := Text.Base64.encode d.transaction.encode

/-- The accounts that have to sign. -/
def requiredSigners (d : Draft) : List Pubkey := d.transaction.message.requiredSigners

/-- The accounts that have to sign and have not. -/
def unsignedSigners (d : Draft) : List Pubkey := d.transaction.unsignedSigners

/-- The price for each compute unit that the draft offers. -/
def computeUnitPrice (d : Draft) : Option UInt64 := d.transaction.message.computeUnitPrice

/-- The limit of compute units that the draft sets. -/
def computeUnitLimit (d : Draft) : Option UInt32 := d.transaction.message.computeUnitLimit

/-- Whether a transaction carries the message of the draft. -/
def sameMessage (d : Draft) (t : Transaction) : Bool := d.transaction.message = t.message

end Draft

end PoolExit
