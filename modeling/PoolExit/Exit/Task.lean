import PoolExit.Exit.Draft
import PoolExit.Venue.Position

/-!
# Tasks

A task is one thing to do in an exit: to claim the fees or to withdraw the liquidity of one position.
It holds a draft for each fee at which it may be tried, and `Task.attempts` lists them from the
lowest fee.
-/

namespace PoolExit

/-- A draft made for one fee. -/
structure Variant where
  feeLevel : UInt64
  draft : Draft
deriving DecidableEq

/-- One thing to do in an exit. -/
structure Task where
  venue : Venue
  kind : ActionKind
  pool : Pubkey
  companion : Pubkey
  action : Action
  position : Position
  primaryFeeLevel : UInt64
  primary : Draft
  /-- The drafts for all fees; where there are any, the first one is the primary draft. -/
  variants : List Variant
deriving DecidableEq

namespace Task

/-- The drafts to try, from the lowest fee. -/
def attempts (t : Task) : List Variant :=
  if t.variants.isEmpty then [⟨t.primaryFeeLevel, t.primary⟩] else t.variants

/-- The pool that a task belongs to; venues may share addresses. -/
def poolKey (t : Task) : Venue × Pubkey := (t.venue, t.pool)

/-- The drafts of a task in the order in which they are looked over. -/
def drafts (t : Task) : List Draft := t.primary :: t.variants.map Variant.draft

end Task

end PoolExit
