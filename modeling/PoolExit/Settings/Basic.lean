import PoolExit.Exit.Run
import PoolExit.Ledger.Node

/-!
# Settings

What can be set for an exit, each with its default.
-/

namespace PoolExit

/-- The settings of a venue's endpoints. -/
structure VenueSettings where
  enable : Bool := true
  discoverUrl : String := ""
  buildUrl : String := ""
  healthUrl : Option String := none
  timeoutMs : UInt64 := 5000
deriving DecidableEq, Repr

/-- The settings of the ledger, the wallet and the log. -/
structure GlobalSettings where
  rpcUrls : List String := []
  commitment : Commitment := .confirmed
  privateKey : String := ""
  logLevel : String := "info"
  logJson : Bool := false
deriving DecidableEq, Repr

/-- The settings of runs. -/
structure ExitSettings where
  feeLevelBase : UInt64 := 250000
  feeCeiling : UInt64 := 3000000
  feeGranularity : UInt64 := 1000
  escalationFactorBps : UInt64 := 13500
  variantCount : UInt64 := 3
  computeUnitCeiling : UInt32 := 400000
  slippageBps : UInt16 := 100
  withdrawBps : UInt16 := 10000
  includeClaims : Bool := true
  includeWithdrawals : Bool := true
  refreshExpiredDrafts : Bool := true
  simulateBeforeSend : Bool := false
  dryRun : Bool := false
  confirmPollIntervalMs : UInt64 := 1000
  confirmTimeoutMs : UInt64 := 90000
deriving DecidableEq, Repr

/-- All settings. -/
structure Settings where
  global : GlobalSettings := {}
  feeVault : VenueSettings := {}
  clmm : VenueSettings := {}
  exit : ExitSettings := {}
  prometheusEnable : Bool := false
  prometheusListen : String := "0.0.0.0:9898"
deriving DecidableEq, Repr

namespace Settings

/-- The settings of a venue. -/
def venue (s : Settings) : Venue → VenueSettings
  | .feeVault => s.feeVault
  | .clmm => s.clmm

/-- The venues that are switched on. -/
def enabledVenues (s : Settings) : List Venue := Venue.all.filter fun v => (s.venue v).enable

/-- The node that is asked, if one is set. -/
def primaryRpcUrl (s : Settings) : Option String := s.global.rpcUrls.head?

/-- The fee ladder. -/
def ladder (s : Settings) : FeeLadder :=
  { ceiling := s.exit.feeCeiling
    granularity := s.exit.feeGranularity
    factorBps := s.exit.escalationFactorBps
    count := s.exit.variantCount.toNat }

/-- The options of a run at the given venues. -/
def options (s : Settings) (venues : List Venue) : Options :=
  { feeLevelBase := s.exit.feeLevelBase
    computeUnitCeiling := s.exit.computeUnitCeiling
    venues
    slippageBps := s.exit.slippageBps
    withdrawBps := s.exit.withdrawBps
    includeClaims := s.exit.includeClaims
    includeWithdrawals := s.exit.includeWithdrawals
    dryRun := s.exit.dryRun }

end Settings

end PoolExit
