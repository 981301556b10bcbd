/-!
# Failures of settings

Why settings could not be loaded.
-/

namespace PoolExit

/-- Why settings could not be loaded. -/
inductive SettingsError where
  | unreadable (path reason : String)
  | unparsable (path reason : String)
  | invalid (field reason : String)
deriving DecidableEq, Repr

/-- The wording of a failure. -/
def SettingsError.message : SettingsError → String
  | .unreadable path reason => s!"读取配置 {path} 失败: {reason}"
  | .unparsable path reason => s!"解析配置 {path} 失败: {reason}"
  | .invalid field reason => s!"配置 {field} 非法: {reason}"

end PoolExit
