import PoolExit.Venue.Basic
import PoolExit.Json.Value

/-!
# Positions

A listing is a position as a discovery endpoint shows it; a position is what has been understood of
it: addresses, balances, and the keys that a build endpoint wants to have.
-/

namespace PoolExit

/-- A position as a discovery endpoint lists it. -/
structure Listing where
  venue : Venue
  value : Json

/-- A position with its balances.  `companion` is the fee vault or the position's own account. -/
structure Position where
  venue : Venue
  pool : Pubkey
  companion : Pubkey
  feesOwed : Nat
  liquidity : Nat
  /-- Names and addresses for the build endpoint, in the order of the names. -/
  buildKeys : List (String × String)
deriving DecidableEq

/-- Whether there is anything for a sort of actions to take. -/
def Position.available (p : Position) : ActionKind → Bool
  | .claim => 0 < p.feesOwed
  | .withdraw => 0 < p.liquidity

/-- An order for one draft. -/
structure BuildOrder where
  owner : Pubkey
  position : Position
  action : Action
  feeLevel : UInt64
  slippageBps : UInt16
  computeUnitCeiling : UInt32
deriving DecidableEq

end PoolExit
