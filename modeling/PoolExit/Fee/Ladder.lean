import PoolExit.Text.Digits

/-!
# The fee ladder

A transaction that does not land is sent again at a higher fee.  The ladder says which fees: the
first rung is the base fee rounded down to the granularity, each further rung is the one before it
times a factor, and no rung is above the ceiling.  Every other rung is rounded down again, but never
below the rung before it.  A rung equal to the one before it is left out.

There is no limit to the number of rungs that may be asked for: what a list of so many takes up in
memory is not looked at.
-/

namespace PoolExit

/-- How fees rise, in micro-lamports for each compute unit and basis points. -/
structure FeeLadder where
  ceiling : UInt64 := 3000000
  granularity : UInt64 := 1000
  factorBps : UInt64 := 13500
  count : Nat := 3
deriving DecidableEq, Repr

namespace FeeLadder

/-- One whole in basis points. -/
def wholeBps : Nat := 10000

/-- Rounds a fee down to a multiple of the granularity; a granularity of zero rounds nothing. -/
def floor (l : FeeLadder) (fee : UInt64) : UInt64 :=
  if l.granularity = 0 then fee else fee - fee % l.granularity

/-- A fee times the factor, in 128-bit arithmetic, capped at the largest 64-bit number. -/
def scaled (l : FeeLadder) (fee : UInt64) : UInt64 :=
  UInt64.ofNat (min (fee.toNat * l.factorBps.toNat / wholeBps) Text.maxUInt64)

/-- The first rung. -/
def first (l : FeeLadder) (base : UInt64) : UInt64 := min (l.floor base) l.ceiling

/-- The rung of an index above the first, from the rung before it. -/
def next (l : FeeLadder) (index : Nat) (current : UInt64) : UInt64 :=
  if index % 2 = 0 then max (min (l.floor (l.scaled current)) l.ceiling) current
  else min (l.scaled current) l.ceiling

/-- The rungs from `index` on, `remaining` of them, above the rung `current`; those equal to the
one before are left out. -/
def above (l : FeeLadder) : (remaining : Nat) → (index : Nat) → (current : UInt64) → List UInt64
  | 0, _, _ => []
  | remaining + 1, index, current =>
    let fee := l.next index current
    if fee = current then l.above remaining (index + 1) fee
    else fee :: l.above remaining (index + 1) fee

/-- The fees of all rungs for a base fee, from the lowest. -/
def rungs (l : FeeLadder) (base : UInt64) : List UInt64 :=
  let start := l.first base
  start :: l.above (max l.count 1 - 1) 1 start

end FeeLadder

end PoolExit
