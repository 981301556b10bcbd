import PoolExit.Settings.Basic
import PoolExit.Yaml.Value

/-!
# Settings in YAML

Every part and every member may be left out; unknown members do not count, but no known one may be
given twice.  The addresses of nodes are a list or a single one; blank ones and repetitions are left
out.
-/

namespace PoolExit

open Yaml

namespace Settings

/-- A reader of a node. -/
abbrev NodeReader (α : Type) := Document → Node → Except Fault α

/-- Reads one member, or takes its default. -/
def member {α : Type} (d : Document) (members : List (String × Node)) (name : String)
    (default : α) (read : NodeReader α) : Except Fault α :=
  match (members.filter fun m => m.1 == name).map Prod.snd with
  | [] => .ok default
  | [node] => read d node
  | _ => Node.fault s!"duplicate field {name}"

/-- Reads a 64-bit number. -/
def uint64 : NodeReader UInt64 := fun d n => (n.unsigned Text.maxUInt64 d).map UInt64.ofNat

/-- Reads a 32-bit number. -/
def uint32 : NodeReader UInt32 := fun d n => (n.unsigned Text.maxUInt32 d).map UInt32.ofNat

/-- Reads a 16-bit number. -/
def uint16 : NodeReader UInt16 := fun d n => (n.unsigned Text.maxUInt16 d).map UInt16.ofNat

/-- Reads a truth value. -/
def flag : NodeReader Bool := fun d n => n.bool d

/-- Reads a text. -/
def text : NodeReader String := fun d n => n.string d

/-- Reads addresses of nodes: nothing, one or a list. -/
def rpcUrls : NodeReader (List String) := fun d n =>
  match Node.optional (fun d n => pure (d, n)) d n with
  | .error e => .error e
  | .ok none => .ok []
  | .ok (some _) =>
    let urls : Except Fault (List String) := match Node.onlyString d n with
      | .ok url => .ok [url]
      | .error _ => Node.list Node.onlyString d n
    urls.map fun urls => ((urls.map Text.trim).filter fun url => !url.isEmpty).eraseDups

/-- Reads a commitment. -/
def commitment : NodeReader Commitment :=
  Node.choice Commitment.ofName?

/-- Reads the secret key. -/
def walletKey : NodeReader String := fun d n => do
  member d (← n.members d) "private_key" "" text

/-- Reads the level and the form of the log. -/
def logging : NodeReader (String × Bool) := fun d n => do
  let members ← n.members d
  return (← member d members "level" "info" text, ← member d members "json" false flag)

/-- Reads the settings of the ledger, the wallet and the log. -/
def globalPart : NodeReader GlobalSettings := fun d n => do
  let members ← n.members d
  let rpcUrls ← member d members "rpc_urls" [] rpcUrls
  let commitment ← member d members "commitment" .confirmed commitment
  let privateKey ← member d members "wallet" "" walletKey
  let (logLevel, logJson) ← member d members "logging" ("info", false) logging
  return { rpcUrls, commitment, privateKey, logLevel, logJson }

/-- Reads the settings of a venue. -/
def venuePart : NodeReader VenueSettings := fun d n => do
  let members ← n.members d
  let enable ← member d members "enable" true flag
  let discoverUrl ← member d members "discover_url" "" text
  let buildUrl ← member d members "build_url" "" text
  let healthUrl ← member d members "health_url" none (Node.optional text)
  let timeoutMs ← member d members "timeout_ms" 5000 uint64
  return { enable, discoverUrl, buildUrl, healthUrl, timeoutMs }

/-- Reads the settings of the venues. -/
def venuesPart : NodeReader (VenueSettings × VenueSettings) := fun d n => do
  let members ← n.members d
  return (← member d members Venue.feeVault.name {} venuePart,
    ← member d members Venue.clmm.name {} venuePart)

/-- Reads the settings of runs. -/
def exitPart : NodeReader ExitSettings := fun d n => do
  let members ← n.members d
  let standard : ExitSettings := {}
  let feeLevelBase ← member d members "fee_level_base" standard.feeLevelBase uint64
  let feeCeiling ← member d members "fee_ceiling" standard.feeCeiling uint64
  let feeGranularity ← member d members "fee_granularity" standard.feeGranularity uint64
  let escalationFactorBps ←
    member d members "escalation_factor_bps" standard.escalationFactorBps uint64
  let variantCount ← member d members "variant_count" standard.variantCount uint64
  let computeUnitCeiling ← member d members "compute_unit_ceiling" standard.computeUnitCeiling uint32
  let slippageBps ← member d members "slippage_bps" standard.slippageBps uint16
  let withdrawBps ← member d members "withdraw_bps" standard.withdrawBps uint16
  let includeClaims ← member d members "include_claims" standard.includeClaims flag
  let includeWithdrawals ← member d members "include_withdrawals" standard.includeWithdrawals flag
  let refreshExpiredDrafts ←
    member d members "refresh_expired_drafts" standard.refreshExpiredDrafts flag
  let simulateBeforeSend ← member d members "simulate_before_send" standard.simulateBeforeSend flag
  let dryRun ← member d members "dry_run" standard.dryRun flag
  let confirmPollIntervalMs ←
    member d members "confirm_poll_interval_ms" standard.confirmPollIntervalMs uint64
  let confirmTimeoutMs ← member d members "confirm_timeout_ms" standard.confirmTimeoutMs uint64
  return { feeLevelBase, feeCeiling, feeGranularity, escalationFactorBps, variantCount
           computeUnitCeiling, slippageBps, withdrawBps, includeClaims, includeWithdrawals
           refreshExpiredDrafts, simulateBeforeSend, dryRun, confirmPollIntervalMs
           confirmTimeoutMs }

/-- The default of the exporter of measurements: whether it is on, and where it listens. -/
def standardPrometheus : Bool × String :=
  let standard : Settings := {}
  (standard.prometheusEnable, standard.prometheusListen)

/-- Reads the settings of the exporter of measurements. -/
def prometheusPart : NodeReader (Bool × String) := fun d n => do
  let members ← n.members d
  return (← member d members "enable" standardPrometheus.1 flag,
    ← member d members "listen" standardPrometheus.2 text)

/-- Reads the settings of the exporter, inside their part. -/
def botPart : NodeReader (Bool × String) := fun d n => do
  member d (← n.members d) "prometheus" standardPrometheus prometheusPart

/-- Reads all settings. -/
def ofNode : NodeReader Settings := fun d n => do
  let members ← n.members d
  let global ← member d members "global" {} globalPart
  let (feeVault, clmm) ← member d members "protocols" ({}, {}) venuesPart
  let exit ← member d members "exit" {} exitPart
  let (prometheusEnable, prometheusListen) ← member d members "bot" standardPrometheus botPart
  return { global, feeVault, clmm, exit, prometheusEnable, prometheusListen }

/-- Reads all settings from a YAML text; an empty one stands for the defaults. -/
def ofText (text : String) : Except Fault Settings := do
  let d ← document text
  match d.root with
  | none => return {}
  | some root => ofNode d root

end Settings

end PoolExit
