import PoolExit.Json.Reader
import PoolExit.Text.Base58
import PoolExit.Text.Blank
import PoolExit.Wallet.LocalSigner
import PoolExit.Text.Cut

/-!
# Secret keys in text

A secret key is written as a JSON list of bytes, as numbers with commas between them, or in base 58;
the first sign of a form decides for it.  A text that looks like a path and names a file stands for
the contents of the file.
-/

namespace PoolExit

open Text

/-- Why a text gives no key pair. -/
inductive SecretError where
  | empty
  | json (fault : String)
  | byte (error : DigitsError)
  | base58 (error : Base58.Error)
  /-- The bytes are no key pair. -/
  | badKey
  | file (reason : String)
deriving DecidableEq, Repr

/-- The wording of a failure. -/
def SecretError.message : SecretError → String
  | .empty => "私钥为空"
  | .json fault => s!"JSON 字节数组解析失败: {fault}"
  | .byte error => s!"字节解析失败: {error.message}"
  | .base58 error => s!"base58 解码失败: {error.message}"
  | .badKey => "私钥格式非法: signature error"
  | .file reason => s!"读取 keypair 文件失败: {reason}"

/-- What stands at a path. -/
inductive FileContents where
  | absent
  | unreadable (reason : String)
  | text (contents : String)
deriving DecidableEq, Repr

namespace Secret

/-- A byte of a JSON list. -/
def jsonByte (v : Json) : Except SecretError UInt8 :=
  match v.uint64? with
  | some n =>
    if n < 256 then .ok n.toUInt8
    else .error (.json s!"invalid value: {n}, expected a byte")
  | none => .error (.json s!"invalid type: {v.kindName}, expected a byte")

/-- The bytes of a JSON list. -/
def jsonBytes (text : String) : Except SecretError (List UInt8) :=
  match Json.read text with
  | .error fault => .error (.json fault.message)
  | .ok v => match v.array? with
    | none => .error (.json "expected a list")
    | some items => items.mapM jsonByte

/-- The bytes of numbers with commas between them; blank parts do not count. -/
def listedBytes (text : String) : Except SecretError (List UInt8) :=
  let parts := ((cutAt ',' text.toList).map trimChars).filter fun part => !part.isEmpty
  parts.mapM fun part =>
    match readUnsigned 10 maxUInt8 part with
    | .ok n => .ok (UInt8.ofNat n)
    | .error e => .error (.byte e)

/-- The bytes of a secret key. -/
def bytes (text : String) : Except SecretError (List UInt8) :=
  let text := trim text
  match text.toList with
  | [] => .error .empty
  | '[' :: _ => jsonBytes text
  | cs =>
    if cs.contains ',' then listedBytes text
    else match Base58.decode text with
      | .ok bytes => .ok bytes
      | .error e => .error (.base58 e)

/-- The key pair of a secret key. -/
def read (text : String) : Except SecretError Keypair :=
  match bytes text with
  | .error e => .error e
  | .ok bytes => match Keypair.ofBytes? bytes with
    | some k => .ok k
    | none => .error .badKey

/-- Whether a text could be the path of a file. -/
def looksLikePath (text : String) : Bool := text.endsWith ".json" || text.toList.contains '/'

/-- The key pair of a secret key or of the file that it names. -/
def load {m : Type → Type} [Monad m] (look : String → m FileContents) (text : String) :
    m (Except SecretError Keypair) :=
  if looksLikePath text then do
    match ← look text with
    | .absent => return read text
    | .unreadable reason => return .error (.file reason)
    | .text contents => return read contents
  else return read text

end Secret

/-- The environment variable that may hold the secret key. -/
def privateKeyVariable : String := "LP_EXIT_PRIVATE_KEY"

/-- The setting that may hold the secret key. -/
def privateKeySetting : String := "global.wallet.private_key"

/-- Where the secret key is taken from, and its text: the environment comes before the settings, and
a blank text does not count. -/
def secretSource (environment : Option String) (setting : String) : Option (String × String) :=
  match environment.filter (fun s => !blank s) with
  | some s => some (privateKeyVariable, trim s)
  | none => if blank setting then none else some (privateKeySetting, trim setting)

end PoolExit
