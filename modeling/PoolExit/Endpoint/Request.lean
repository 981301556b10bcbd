import PoolExit.Venue.Position

/-!
# Requests to endpoints

The bodies that a discovery endpoint and a build endpoint are sent.
-/

namespace PoolExit

/-- The action of a request. -/
def Action.json : Action → Json
  | .claim => .object [("kind", .string "claim")]
  | .withdraw bps => .object [("kind", .string "withdraw"), ("fractionBps", .ofNat bps.toNat)]

/-- What a discovery endpoint is sent for an owner. -/
def discoveryRequest (owner : Pubkey) : Json :=
  .object [("ownerIdentifier", .string owner.text)]

/-- What a build endpoint is sent for an order with the given keys. -/
def buildRequest (owner : Pubkey) (keys : List (String × String)) (action : Action)
    (feeLevel : UInt64) (slippageBps : UInt16) (computeUnitCeiling : UInt32) : Json :=
  .object
    [("ownerIdentifier", .string owner.text),
      ("poolKeys", .object (keys.map fun (name, value) => (name, .string value))),
      ("action", action.json),
      ("feeLevel", .ofUInt64 feeLevel),
      ("slippageTolerance", .ofNat slippageBps.toNat),
      ("computeUnitCeiling", .ofNat computeUnitCeiling.toNat)]

/-- What a build endpoint is sent for an order. -/
def BuildOrder.request (o : BuildOrder) : Json :=
  buildRequest o.owner o.position.buildKeys o.action o.feeLevel o.slippageBps o.computeUnitCeiling

end PoolExit
