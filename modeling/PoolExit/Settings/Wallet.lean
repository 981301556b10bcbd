import PoolExit.Settings.Error
import PoolExit.Wallet.Secret

/-!
# The wallet of the settings

The key pair comes from the environment or from the settings, and a failure names the place.
-/

namespace PoolExit

/-- The reason shown where no secret key is given at all. -/
def missingSecret : String :=
  s!"缺少私钥配置，请提供 {privateKeySetting} 或环境变量 {privateKeyVariable}"

/-- The key pair to sign with. -/
def loadKeypair {m : Type → Type} [Monad m] (look : String → m FileContents)
    (environment : Option String) (setting : String) : m (Except SettingsError Keypair) :=
  match secretSource environment setting with
  | none => return .error (.invalid privateKeySetting missingSecret)
  | some (field, text) => do
    match ← Secret.load look text with
    | .ok k => return .ok k
    | .error e => return .error (.invalid field e.message)

end PoolExit
