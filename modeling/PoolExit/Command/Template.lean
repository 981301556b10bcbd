/-!
# The template of the settings

The template sets everything to its default and says what it means.
-/

namespace PoolExit.Command

/-- The name of the file that the template is put into. -/
def templateName : String := "lp-exit.yaml"

/-- The lines of the template. -/
def templateLines : List String :=
  ["# lp-exit 配置模版",
    "# 所有字段都有默认值，未填写的项会使用注释中给出的默认值。",
    "",
    "global:",
    "  # 可填写单个地址或列表，使用第一个；环境变量 LP_EXIT_RPC_URL 优先",
    "  rpc_urls:",
    "    - https://api.mainnet-beta.solana.com",
    "  # processed / confirmed / finalized",
    "  commitment: confirmed",
    "  wallet:",
    "    # base58 私钥、JSON 字节数组或 keypair 文件路径；环境变量 LP_EXIT_PRIVATE_KEY 优先",
    "    private_key: \"\"",
    "  logging:",
    "    level: info",
    "    json: false",
    "",
    "protocols:",
    "  fee_vault:",
    "    enable: true",
    "    discover_url: \"\"",
    "    build_url: \"\"",
    "    # health_url: \"\"",
    "    timeout_ms: 5000",
    "  clmm:",
    "    enable: true",
    "    discover_url: \"\"",
    "    build_url: \"\"",
    "    # health_url: \"\"",
    "    timeout_ms: 5000",
    "",
    "exit:",
    "  # 第一档优先费（微 lamports / CU）",
    "  fee_level_base: 250000",
    "  fee_ceiling: 3000000",
    "  # 偶数档向下取整到该粒度，0 表示不取整",
    "  fee_granularity: 1000",
    "  # 每档相对上一档的倍数，13500 即 1.35 倍",
    "  escalation_factor_bps: 13500",
    "  variant_count: 3",
    "  compute_unit_ceiling: 400000",
    "  slippage_bps: 100",
    "  # 撤出流动性的比例，10000 为全部",
    "  withdraw_bps: 10000",
    "  include_claims: true",
    "  include_withdrawals: true",
    "  # 草稿过期时按同档费率重新构建一次",
    "  refresh_expired_drafts: true",
    "  simulate_before_send: false",
    "  # 只签名并模拟，不发送",
    "  dry_run: false",
    "  confirm_poll_interval_ms: 1000",
    "  confirm_timeout_ms: 90000",
    "",
    "bot:",
    "  prometheus:",
    "    enable: false",
    "    listen: 0.0.0.0:9898"]

/-- The template. -/
def template : String := String.join (templateLines.map fun line => line ++ "\n")

end PoolExit.Command
