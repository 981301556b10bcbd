import PoolExit.Command.Form

/-!
# Help texts

What is shown to somebody who asks for help, or whose arguments are refused.
-/

namespace PoolExit.Command

/-- The name and the version of the program. -/
def versionText : String := "lp-exit 0.1.0"

/-- The help on all commands. -/
def generalHelp : List String :=
  ["流动性仓位一键退出", "",
    "Usage: lp-exit [OPTIONS] <COMMAND>", "",
    "Commands:",
    "  run   发现仓位、签名并逐个提交退出交易",
    "  plan  只做发现与规划，输出 JSON，不签名",
    "  fees  打印某个基础费率对应的优先费档位",
    "  init  初始化配置模版文件",
    "  help  Print this message or the help of the given subcommand(s)", "",
    "Options:",
    "  -c, --config <FILE>  配置文件路径（默认查找 lp-exit.yaml 或 config/lp-exit.yaml）",
    "  -h, --help           Print help",
    "  -V, --version        Print version"]

/-- The options of a command that makes an exit. -/
def exitHelp : List String :=
  ["Options:",
    "      --fee-level-base <FEE_LEVEL_BASE>              第一档优先费（微 lamports / CU）",
    "      --compute-unit-ceiling <COMPUTE_UNIT_CEILING>  单笔交易的 compute unit 上限",
    "      --protocols <PROTOCOLS>                        启用的协议，逗号分隔（fee_vault,clmm）",
    "      --slippage-bps <SLIPPAGE_BPS>                  滑点（bps）",
    "      --dry-run                                      只签名并模拟，不发送",
    "  -h, --help                                         Print help"]

/-- The help on a topic. -/
def helpText : Option String → List String
  | some "run" =>
    ["发现仓位、签名并逐个提交退出交易", "", "Usage: lp-exit run [OPTIONS]", ""] ++ exitHelp
  | some "plan" =>
    ["只做发现与规划，输出 JSON，不签名", "", "Usage: lp-exit plan [OPTIONS]", ""] ++ exitHelp
  | some "fees" =>
    ["打印某个基础费率对应的优先费档位", "", "Usage: lp-exit fees [BASE]", "",
      "Arguments:", "  [BASE]  基础费率，缺省取配置 exit.fee_level_base", "",
      "Options:", "  -h, --help  Print help"]
  | some "init" =>
    ["初始化配置模版文件", "", "Usage: lp-exit init [OPTIONS]", "",
      "Options:",
      "      --output <DIR>  可选输出目录（默认当前目录）",
      "      --force         若文件存在则覆盖",
      "  -h, --help          Print help"]
  | _ => generalHelp

namespace UsageFault

/-- Whether a fault is but a wish to be shown something. -/
def isWish : UsageFault → Bool
  | .help _ | .version => true
  | _ => false

/-- What is shown for a fault. -/
def lines : UsageFault → List String
  | .nothing => generalHelp
  | .missingCommand => ["error: 'lp-exit' requires a subcommand but one was not provided"]
  | .unknownCommand word => [s!"error: unrecognized subcommand '{word}'"]
  | .unknownArgument word => [s!"error: unexpected argument '{word}' found"]
  | .missingValue option => [s!"error: a value is required for '{option}' but none was supplied"]
  | .unwantedValue option => [s!"error: unexpected value for '{option}' found"]
  | .badValue option word => [s!"error: invalid value '{word}' for '{option}'"]
  | .repeated option => [s!"error: the argument '{option}' cannot be used multiple times"]
  | .help topic => helpText topic
  | .version => [versionText]

end UsageFault

end PoolExit.Command
