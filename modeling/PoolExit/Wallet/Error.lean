/-!
# Failures of a wallet

Why a wallet gave no signature.
-/

namespace PoolExit

/-- Why a wallet gave no usable signature. -/
inductive SignerError where
  /-- The wallet does not sign several transactions at once. -/
  | unsupported
  | rejected (reason : String)
  | failed (reason : String)
  /-- The wallet returned more or fewer transactions than it was given. -/
  | lengthMismatch (expected actual : Nat)
  /-- The wallet returned another message than it was given. -/
  | messageChanged (index : Nat)
deriving DecidableEq, Repr

/-- The wording of a failure. -/
def SignerError.message : SignerError → String
  | .unsupported => "签名器不支持批量签名"
  | .rejected reason => s!"签名被拒绝: {reason}"
  | .failed reason => s!"签名失败: {reason}"
  | .lengthMismatch expected actual => s!"批量签名返回 {actual} 笔，期望 {expected} 笔"
  | .messageChanged index => s!"签名器返回的第 {index} 笔交易内容被改动"

end PoolExit
