import PoolExit.Exit.Error

/-!
# Options of a run

What a run is asked to do, and the bounds within which it may be asked.  Of several faults the first
one in the order of `Options.fault?` is reported.
-/

namespace PoolExit

/-- What a run is asked to do. -/
structure Options where
  feeLevelBase : UInt64
  computeUnitCeiling : UInt32
  venues : List Venue
  slippageBps : UInt16
  withdrawBps : UInt16
  includeClaims : Bool
  includeWithdrawals : Bool
  dryRun : Bool
deriving DecidableEq, Repr

/-- Why options are refused. -/
inductive OptionsFault where
  | noVenue
  | slippage (bps : UInt16)
  | fraction (bps : UInt16)
  | nothingToDo
deriving DecidableEq, Repr

/-- What is wrong with a number, without its name. -/
def OptionsFault.boundText : OptionsFault → String
  | .slippage bps => s!"{bps} 超过 10000"
  | .fraction bps => s!"{bps} 不在 1..=10000 范围内"
  | _ => ""

/-- The wording of a fault. -/
def OptionsFault.message (f : OptionsFault) : String :=
  match f with
  | .noVenue => "没有启用任何协议"
  | .slippage _ => s!"slippage_bps {f.boundText}"
  | .fraction _ => s!"withdraw_bps {f.boundText}"
  | .nothingToDo => "claim 与 withdraw 均被关闭"

/-- One whole in basis points. -/
def wholeBps : UInt16 := 10000

namespace Options

/-- The first fault of the options. -/
def fault? (o : Options) : Option OptionsFault :=
  if o.venues.isEmpty then some .noVenue
  else if wholeBps < o.slippageBps then some (.slippage o.slippageBps)
  else if o.withdrawBps = 0 ∨ wholeBps < o.withdrawBps then some (.fraction o.withdrawBps)
  else if !o.includeClaims && !o.includeWithdrawals then some .nothingToDo
  else none

/-- Refuses options with a fault. -/
def validate (o : Options) : Except ExitError Unit :=
  match o.fault? with
  | some fault => .error (.invalidOptions fault.message)
  | none => .ok ()

end Options

end PoolExit
