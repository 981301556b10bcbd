/-!
# Trying one alternative after the other

`firstSuccess` tries alternatives in order until one succeeds, and keeps the failures before it.
Between two attempts, never before the first one and never within one, it looks whether it should
stop.
-/

namespace PoolExit

/-- The alternative that succeeded, and how many failed before it. -/
structure Success (α : Type) where
  index : Nat
  value : α
  failures : Nat
deriving DecidableEq, Repr

/-- The failures of all alternatives that were tried, and whether some were left untried. -/
structure Exhausted (ε : Type) where
  errors : List ε
  cancelled : Bool
deriving DecidableEq, Repr

namespace Exhausted

variable {ε : Type}

/-- The last failure. -/
def last? (e : Exhausted ε) : Option ε := e.errors.getLast?

end Exhausted

variable {m : Type → Type} [Monad m] {π α ε : Type}

/-- Tries the remaining alternatives, the first of which has the index `index`; `errors` are the
failures so far. -/
def firstSuccessFrom (stopped : Option (m Bool)) (attempt : Nat → π → m (Except ε α))
    (index : Nat) (errors : List ε) : List π → m (Except (Exhausted ε) (Success α))
  | [] => pure (.error ⟨errors, false⟩)
  | p :: rest => do
    let stop ← match stopped with
      | some ask => if index = 0 then pure false else ask
      | none => pure false
    if stop then return .error ⟨errors, true⟩
    match ← attempt index p with
    | .ok value => return .ok ⟨index, value, errors.length⟩
    | .error e => firstSuccessFrom stopped attempt (index + 1) (errors ++ [e]) rest

/-- Tries alternatives in order until one succeeds. -/
def firstSuccess (alternatives : List π) (stopped : Option (m Bool))
    (attempt : Nat → π → m (Except ε α)) : m (Except (Exhausted ε) (Success α)) :=
  firstSuccessFrom stopped attempt 0 [] alternatives

end PoolExit
