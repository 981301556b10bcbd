import PoolExit.Proofs.Transcript

/-!
# Playing a talk

A `World` answers the calls of a talk, decides when the run is cancelled, and decides which raced
calls lose against the cancellation.  It knows everything that has happened before.  Whatever the
world, a run that the desk takes on can be played to its end, and the transcript that arises is one
of the run (`Desk.ran_play`).  So the laws about transcripts are never void.
-/

namespace PoolExit

/-- Whoever answers a talk and cancels it.  The turns are those before the step in question. -/
structure World where
  answer : List Turn → (c : Call) → c.Answer
  /-- Whether the run is cancelled during a step, if it is under way. -/
  aborts : List Turn → Step → Bool
  /-- Whether a raced call loses, if the run is cancelled. -/
  loses : List Turn → Call → Bool

namespace World

variable {α : Type} (w : World)

/-- Whether the run is cancelled during a step. -/
def aborted (d : Desk) (past : List Turn) (s : Step) : Bool :=
  w.aborts past s && (d.see s).token.isSome

/-- The answer to a step. -/
def reply (d : Desk) (past : List Turn) : (s : Step) → s.Answer
  | .call c => w.answer past c
  | .race c =>
      if w.loses past c && (d.stopped || w.aborted d past (.race c)) then none
      else some (w.answer past c)
  | .stopped => d.stopped
  | .publish _ => ()
  | .note _ => ()

/-- The turn that a step makes. -/
def turn (d : Desk) (past : List Turn) (s : Step) : Turn :=
  ⟨s, w.reply d past s, w.aborted d past s⟩

/-- Plays a talk to its end, after the turns so far. -/
def play (d : Desk) (past : List Turn) : Talk α → List Turn × α
  | .done a => ([], a)
  | .ask s next =>
      let t := w.turn d past s
      let rest := play (d.after t) (past ++ [t]) (next (w.reply d past s))
      (t :: rest.1, rest.2)

variable {w}

lemma fits_turn (d : Desk) (past : List Turn) (s : Step) : (w.turn d past s).Fits d where
  token := by
    intro h
    exact (Bool.and_eq_true_iff.1 h).2
  stopped := by
    intro b x h
    cases s <;> cases h
    rfl
  givenUp := by
    intro c x h
    cases s with
    | race c' =>
        obtain ⟨same, answer, -⟩ := Turn.mk.inj h
        obtain rfl := Step.race.inj same
        have lost : (w.loses past c' && (d.stopped || w.aborted d past (.race c'))) = true := by
          by_contra won
          rw [heq_eq_eq, reply, if_neg won] at answer
          cases answer
        have known := (Bool.and_eq_true_iff.1 lost).2
        unfold Desk.after turn
        split
        next aborts => exact Desk.stopped_abort (Bool.and_eq_true_iff.1 aborts).2
        next stays =>
          have none : w.aborted d past (.race c') = false := Bool.eq_false_iff.2 stays
          rwa [none, Bool.or_false] at known
    | call | stopped | publish | note => cases h

/-- A talk that is played goes through the turns that it is played in. -/
lemma goes_play (p : Talk α) (d : Desk) (past : List Turn) :
    p.Goes (w.play d past p).1 (w.play d past p).2 := by
  induction p generalizing d past with
  | done a => exact ⟨rfl, rfl⟩
  | ask s next ih => exact ⟨_, _, _, rfl, ih _ _ _⟩

lemma admits_play (p : Talk α) (d : Desk) (past : List Turn) :
    d.Admits (w.play d past p).1 := by
  induction p generalizing d past with
  | done a => trivial
  | ask s next ih => exact ⟨fits_turn d past s, ih _ _ _⟩

end World

/-- In every world a run that the desk takes on comes to its end. -/
theorem Desk.ran_play {d : Desk} {setup : Setup} {o : Options} (accepted : d.accept o = .ok ())
    (w : World) :
    d.Ran setup o (w.play d [] (Run.whole setup o)).1 (w.play d [] (Run.whole setup o)).2 :=
  ⟨accepted, World.goes_play _ d [], World.admits_play _ d []⟩

/-! ## A small exit

One position with fees to claim, one rung of fees, and a wallet that signs one transaction at a
time. Where a law has a hypothesis, this exit shows that it can be met. -/

namespace Sample

/-- The owner of the small exit. -/
def owner : Pubkey := .replicate 32 1

/-- An account that the owner knows nothing of. -/
def stranger : Pubkey := .replicate 32 4

/-- The position of the small exit. -/
def position : Position where
  venue := .feeVault
  pool := .replicate 32 2
  companion := .replicate 32 3
  feesOwed := 1
  liquidity := 0
  buildKeys := []

/-- A transaction that needs signatures and has none. -/
def transaction (signers : List Pubkey) (blockhash : UInt8) : Transaction where
  signatures := signers.map fun _ => Signature.missing
  message := ⟨⟨signers.length.toUInt8, 0, 0⟩, signers, .replicate 32 blockhash, [], none⟩

/-- The parts of the small exit that do not change. -/
def setup (simulateBeforeSend : Bool) : Setup where
  owner
  adapters := [⟨.feeVault, fun _ => .ok position⟩]
  bulk := false
  ladder := { count := 1 }
  refreshExpired := true
  simulateBeforeSend

/-- What the small exit is asked to do. -/
def options : Options where
  feeLevelBase := 1000
  computeUnitCeiling := 200000
  venues := [.feeVault]
  slippageBps := 50
  withdrawBps := 10000
  includeClaims := true
  includeWithdrawals := false
  dryRun := false

/-- A world in which everything goes well, and which cancels the run during each simulation. -/
def world (build : List Turn → Draft) (sign : Transaction → Transaction) : World where
  answer past
    | .discover .. => .ok [⟨.feeVault, .null⟩]
    | .build .. => .ok (build past)
    | .signAll ts => .ok (ts.map sign)
    | .signOne t => .ok (sign t)
    | .blockHeight => .ok 20
    | .simulate _ => .ok ()
    | .submit _ => .ok (.replicate 64 7)
    | .confirm .. => .ok ()
  aborts _ s := match s with
    | .call (.simulate _) => true
    | _ => false
  loses _ _ := false

/-- The desk takes on the small exit. -/
lemma accepted : ({} : Desk).accept options = .ok () := rfl

end Sample

end PoolExit
