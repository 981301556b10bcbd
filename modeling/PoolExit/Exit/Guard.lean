import PoolExit.Exit.Task

/-!
# The guard

No signature is asked of the wallet for a draft that also needs the signature of a stranger.  An
account that has signed already is no stranger.
-/

namespace PoolExit

/-- The accounts whose signatures a draft may still need. -/
structure Guard where
  allowed : List Pubkey

/-- A draft that needs signatures of strangers. -/
structure Strangers where
  index : Nat
  venue : Venue
  pool : Pubkey
  signers : List Pubkey
deriving DecidableEq

/-- The strangers' addresses in a row. -/
def Strangers.list (s : Strangers) : String :=
  ", ".intercalate (s.signers.map FixedBytes.text)

namespace Guard

/-- A guard that allows one account only. -/
def ownerOnly (owner : Pubkey) : Guard := ⟨[owner]⟩

/-- The accounts that have to sign a draft, have not, and are not allowed to. -/
def offenders (g : Guard) (d : Draft) : List Pubkey :=
  d.unsignedSigners.filter fun key => !g.allowed.contains key

/-- Looks over one draft of a task. -/
def check (g : Guard) (index : Nat) (task : Task) (d : Draft) : Except Strangers Unit :=
  match g.offenders d with
  | [] => .ok ()
  | signers => .error { index, venue := task.venue, pool := task.pool, signers }

/-- Looks over drafts of one task in order. -/
def checkDrafts (g : Guard) (index : Nat) (task : Task) : List Draft → Except Strangers Unit
  | [] => .ok ()
  | d :: rest => match g.check index task d with
    | .ok () => g.checkDrafts index task rest
    | .error s => .error s

/-- Looks over the drafts of tasks in order; the first task has the index `start`. -/
def checkFrom (g : Guard) (start : Nat) : List Task → Except Strangers Unit
  | [] => .ok ()
  | t :: rest => match g.checkDrafts start t t.drafts with
    | .ok () => g.checkFrom (start + 1) rest
    | .error s => .error s

/-- Looks over all drafts of all tasks: of each task the primary draft, then its variants. -/
def checkAll (g : Guard) (tasks : List Task) : Except Strangers Unit := g.checkFrom 0 tasks

end Guard

end PoolExit
