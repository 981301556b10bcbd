import PoolExit.Venue.Fields
import PoolExit.Venue.Position

/-!
# From listings to positions

Every venue lists the same five facts under names of its own: the pool, a companion account, a mint
that may be missing, two fees and a balance.  `Venue.resolve` reads them in that order, and the first
field that cannot be read decides the failure.
-/

namespace PoolExit

/-- The fields of a venue's listings. -/
structure Venue.Layout where
  pool : Field
  companion : Field
  mint : Field
  feeA : Field
  feeB : Field
  balance : Field

namespace Venue

/-- The names under which each venue lists its fields. -/
def layout : Venue → Layout
  | .feeVault =>
    { pool := ⟨"pool", ["pool", "poolAddress", "poolId"]⟩
      companion := ⟨"feeVault", ["feeVault", "fee_vault", "vault"]⟩
      mint := ⟨"lpMint", ["lpMint", "lp_mint"]⟩
      feeA := ⟨"unclaimedFeeA", ["unclaimedFeeA", "feeA"]⟩
      feeB := ⟨"unclaimedFeeB", ["unclaimedFeeB", "feeB"]⟩
      balance := ⟨"lpAmount", ["lpAmount", "lp_amount", "balance"]⟩ }
  | .clmm =>
    { pool := ⟨"pool", ["pool", "poolId", "poolAddress"]⟩
      companion := ⟨"position", ["position", "positionId", "personalPosition"]⟩
      mint := ⟨"nftMint", ["nftMint", "positionNftMint"]⟩
      feeA := ⟨"tokenFeesOwedA", ["tokenFeesOwedA", "feeOwedA"]⟩
      feeB := ⟨"tokenFeesOwedB", ["tokenFeesOwedB", "feeOwedB"]⟩
      balance := ⟨"liquidity", ["liquidity"]⟩ }

/-- The keys for the build endpoint, in the order of their names. -/
def buildKeys (venue : Venue) (pool companion : Pubkey) (mint : Option Pubkey) :
    List (String × String) :=
  let l := venue.layout
  let mints := mint.toList.map fun key => (l.mint.title, key.text)
  match venue with
  | .feeVault => (l.companion.title, companion.text) :: mints ++ [(l.pool.title, pool.text)]
  | .clmm => mints ++ [(l.pool.title, pool.text), (l.companion.title, companion.text)]

/-- The sum of two amounts, at most the largest 128-bit number. -/
def saturatingSum (a b : Nat) : Nat := min (a + b) Text.maxUInt128

/-- Understands a listed value as a position of the venue. -/
def resolve (venue : Venue) (value : Json) : Except VenueError Position := do
  let l := venue.layout
  let members ← match value with
    | .object members => pure members
    | _ => throw (.invalidField "position" "不是 JSON 对象")
  let pool ← l.pool.address members
  let companion ← l.companion.address members
  let mint ← l.mint.address? members
  let feeA ← l.feeA.amount members
  let feeB ← l.feeB.amount members
  let balance ← l.balance.amount members
  return {
    venue, pool, companion
    feesOwed := saturatingSum feeA feeB
    liquidity := balance
    buildKeys := venue.buildKeys pool companion mint }

end Venue

end PoolExit
