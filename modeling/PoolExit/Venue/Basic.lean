import PoolExit.Text.Blank
import PoolExit.Bytes

/-!
# Venues and actions

A venue is a protocol in which liquidity is held.  From a position there, fees can be claimed and
liquidity can be withdrawn.
-/

namespace PoolExit

/-- A protocol in which liquidity is held. -/
inductive Venue where
  /-- Pools whose fees gather in a vault of their own. -/
  | feeVault
  /-- Concentrated liquidity, each position marked by a token of its own. -/
  | clmm
deriving DecidableEq, Repr

namespace Venue

/-- All venues, in the order in which they are asked. -/
def all : List Venue := [.feeVault, .clmm]

/-- The name of a venue. -/
def name : Venue → String
  | .feeVault => "fee_vault"
  | .clmm => "clmm"

/-- The venue of a name as people type it: case, surrounding blanks, and `-` in place of `_` do not
matter, and each venue has a one-letter name. -/
def read? (s : String) : Option Venue :=
  let plain := (Text.trim s).toList.map fun c => if c = '-' then '_' else c.toLower
  match String.ofList plain with
  | "fee_vault" | "feevault" | "a" => some .feeVault
  | "clmm" | "b" => some .clmm
  | _ => none

/-- The answer to a name that no venue has. -/
def unknownMessage (s : String) : String := s!"未知协议: {s}"

end Venue

/-- The sorts of actions. -/
inductive ActionKind where
  | claim
  | withdraw
deriving DecidableEq, Repr

/-- The name of a sort of actions. -/
def ActionKind.name : ActionKind → String
  | .claim => "claim"
  | .withdraw => "withdraw"

/-- What is done with a position: its fees are claimed, or a part of its liquidity, in basis points,
is withdrawn. -/
inductive Action where
  | claim
  | withdraw (fractionBps : UInt16)
deriving DecidableEq, Repr

/-- The sort of an action. -/
def Action.kind : Action → ActionKind
  | .claim => .claim
  | .withdraw _ => .withdraw

end PoolExit
