import Mathlib
import PoolExit.Proofs.Play
import PoolExit.Proofs.Whole

/-!
# Cancellation and submissions

A cancelled run is meant to submit nothing more.  The run looks at its token once more after an
item is signed, and this is its last look before the submission.  Between the two lies a `Gap`: the
report of the attempt, and the simulation where one is made before sending.

`Desk.Ran.submission_after_abort` says exactly what follows.  A cancellation before the gap stops
the submission, wherever it comes from.  A cancellation in the gap does not: the token is not
looked at again, so a simulation that passes is followed by the submission even if the run was
cancelled during it.  And nothing is waited for but what was submitted just before.
-/

namespace PoolExit

/-- What lies between the last look at the token and the submission of a transaction, from the look
on. -/
inductive Gap (setup : Setup) (tx : Transaction) : List Turn → Prop
  | plain (off : setup.simulateBeforeSend = false) (x notice y) :
      Gap setup tx [⟨.stopped, false, x⟩, ⟨.note notice, (), y⟩]
  | simulated (on : setup.simulateBeforeSend = true) (x y notice z) :
      Gap setup tx [⟨.stopped, false, x⟩, ⟨.call (.simulate tx), .ok (), y⟩,
        ⟨.note notice, (), z⟩]

namespace Run

variable {setup : Setup} {tx : Transaction} {window : List Turn}

/-- The window before a submission makes a gap. -/
lemma Window.gap (before : Window setup tx window (.call (.submit tx))) (x : Bool) :
    Gap setup tx (⟨.stopped, false, x⟩ :: window) := by
  cases before with
  | submitting simulated notice y =>
      cases simulated with
      | off off => exact .plain off x notice y
      | passed on z => exact .simulated on x z notice y

end Run

namespace Desk.Ran

open Run

variable {d : Desk} {setup : Setup} {o : Options} {turns : List Turn}
  {result : Except ExitError Board}

/-- Every submission stands right behind a gap. -/
lemma gap_of_submission (ran : d.Ran setup o turns result) {before after : List Turn} {u : Turn}
    {tx : Transaction} (submits : u.step.call? = some (.submit tx))
    (split : turns = before ++ u :: after) :
    ∃ earlier gap, before = earlier ++ gap ∧ Gap setup tx gap := by
  obtain ⟨tasks, work, -, -, ⟨-, stretch⟩ | ⟨-, rehearsing⟩⟩ :=
    (ran.placed submits split).1.sending submits trivial
  · obtain ⟨earlier, first, last, later, rfl, rfl, attempting⟩ := stretch
    obtain ⟨-, -, -, -, attempted⟩ := attempting
    have handed : u.handed? = some tx := by rw [Turn.handed?, submits]; rfl
    obtain ⟨front, x, window, rfl, within⟩ := attempted.look handed rfl
    rw [within.eq_submit submits] at within
    exact ⟨earlier ++ front, _, by simp, within.gap x⟩
  · cases rehearsing with
    | intro => cases submits

/-- A submission after a cancellation stands behind a gap in which the run was cancelled. -/
lemma aborted_in_gap (ran : d.Ran setup o turns result) {before between after : List Turn}
    {aborting submitting : Turn} {tx : Transaction} (aborted : aborting.aborted = true)
    (submits : submitting.step.call? = some (.submit tx))
    (split : turns = before ++ aborting :: (between ++ submitting :: after)) :
    ∃ earlier first, before = earlier ++ first ∧ Gap setup tx (first ++ aborting :: between) := by
  have split' : turns = (before ++ aborting :: between) ++ submitting :: after := by simp [split]
  have active := (ran.placed submits split').2
  obtain ⟨earlier, gap, same, isGap⟩ := ran.gap_of_submission submits split'
  rcases place_cases same.symm with ⟨rest, rfl, rfl⟩ | ⟨first, rfl, rfl⟩
  · -- The look of the gap would have found the run cancelled.
    obtain ⟨x, window, rfl⟩ : ∃ x window, gap = ⟨.stopped, false, x⟩ :: window := by
      cases isGap <;> exact ⟨_, _, rfl⟩
    have admits := ran.admits
    rw [split'] at admits
    have first : d.Admits ((before ++ aborting :: rest) ++ ⟨.stopped, false, x⟩ ::
        (window ++ submitting :: after)) := by simpa using admits
    have known : (d.afterAll (before ++ aborting :: rest)).stopped = true :=
      ((admits_append.1 first).1).stopped_of_aborted aborted
        (shows_append.1 (shows_cons.1 (shows_append.1 active).2).2).1
    have unknown := first.fits.stopped rfl
    rw [known] at unknown
    cases unknown
  · exact ⟨earlier, first, rfl, isGap⟩

/-- In a plain run a passed simulation is followed by the submission, with no look at the token. -/
lemma submission_of_simulation (ran : d.Ran setup o turns result) {before after : List Turn}
    {tx : Transaction} {x : Bool} (plain : o.dryRun = false)
    (split : turns = before ++ ⟨.call (.simulate tx), .ok (), x⟩ :: after) :
    ∃ notice y answer z rest,
      after = ⟨.note notice, (), y⟩ :: ⟨.call (.submit tx), answer, z⟩ :: rest := by
  obtain ⟨tasks, work, -, -, ⟨-, stretch⟩ | ⟨dry, -⟩⟩ :=
    (ran.placed rfl split).1.sending rfl trivial
  · obtain ⟨earlier, first, last, later, rfl, rfl, attempting⟩ := stretch
    obtain ⟨-, -, -, -, attempted⟩ := attempting
    obtain ⟨notice, y, answer, z, rest, rfl⟩ := attempted.after_simulation rfl
    exact ⟨notice, y, answer, z, rest ++ later, rfl⟩
  · rw [plain] at dry
    cases dry

/-- Only what was submitted just before is waited for. -/
lemma submitted_before_confirm (ran : d.Ran setup o turns result) {before after : List Turn}
    {signature : Signature} {height : UInt64} {answer : Except LedgerError Unit} {x : Bool}
    (split : turns = before ++ ⟨.call (.confirm signature height), answer, x⟩ :: after) :
    ∃ earlier tx y board z, before =
      earlier ++ [⟨.call (.submit tx), .ok signature, y⟩, ⟨.publish board, (), z⟩] := by
  obtain ⟨tasks, work, -, -, ⟨-, stretch⟩ | ⟨-, rehearsing⟩⟩ :=
    (ran.placed rfl split).1.sending rfl trivial
  · obtain ⟨earlier, first, last, later, rfl, rfl, attempting⟩ := stretch
    obtain ⟨-, -, -, -, attempted⟩ := attempting
    obtain ⟨front, tx, y, board, z, rfl⟩ := attempted.before_confirm rfl
    exact ⟨earlier ++ front, tx, y, board, z, by simp⟩
  · cases rehearsing

/-- **Cancellation against submission.**  After a cancellation, wherever it comes from, a run
submits a transaction only if it was cancelled in the gap right before this submission: after the
last look at the token.  With simulations the gap holds a call: if the run is cancelled during a
simulation that passes, the submission follows all the same.  A confirmation is waited for only
behind its submission. -/
theorem submission_after_abort (ran : d.Ran setup o turns result) :
    (∀ before aborting between submitting after tx,
      turns = before ++ aborting :: (between ++ submitting :: after) →
      aborting.aborted = true → submitting.step.call? = some (.submit tx) →
      ∃ earlier first, before = earlier ++ first ∧ Gap setup tx (first ++ aborting :: between)) ∧
    (∀ before tx x after, o.dryRun = false →
      turns = before ++ ⟨.call (.simulate tx), .ok (), x⟩ :: after →
      ∃ notice y answer z rest,
        after = ⟨.note notice, (), y⟩ :: ⟨.call (.submit tx), answer, z⟩ :: rest) ∧
    ∀ before signature height answer x after,
      turns = before ++ ⟨.call (.confirm signature height), answer, x⟩ :: after →
      ∃ earlier tx y board z, before =
        earlier ++ [⟨.call (.submit tx), .ok signature, y⟩, ⟨.publish board, (), z⟩] := by
  refine ⟨?_, ?_, ?_⟩
  · intro before aborting between submitting after tx split aborted submits
    exact ran.aborted_in_gap aborted submits split
  · intro before tx x after plain split
    exact ran.submission_of_simulation plain split
  · intro before signature height answer x after split
    exact ran.submitted_before_confirm split

/-- The small exit is cancelled during its simulation, and submits all the same. -/
theorem submission_after_abort_in_simulation :
    let tx := Sample.transaction [Sample.owner] 0
    let turns := (Sample.world (fun _ => ⟨tx, 100⟩) id).play {} []
      (whole (Sample.setup true) Sample.options)
    ∃ before notice y answer z rest, turns.1 = before ++ ⟨.call (.simulate tx), .ok (), true⟩ ::
        ([⟨.note notice, (), y⟩] ++ ⟨.call (.submit tx), answer, z⟩ :: rest) ∧
      ∃ earlier first, before = earlier ++ first ∧ Gap (Sample.setup true) tx
        (first ++ ⟨.call (.simulate tx), .ok (), true⟩ :: [⟨.note notice, (), y⟩]) := by
  intro tx turns
  have ran : ({} : Desk).Ran (Sample.setup true) Sample.options turns.1 turns.2 :=
    ran_play Sample.accepted (Sample.world (fun _ => ⟨tx, 100⟩) id)
  have split : turns.1 =
      turns.1.take 18 ++ ⟨.call (.simulate tx), .ok (), true⟩ :: turns.1.drop 19 := by
    cbv
  obtain ⟨aborts, simulates, -⟩ := submission_after_abort ran
  obtain ⟨notice, y, answer, z, rest, after⟩ := simulates _ tx true _ rfl split
  rw [after] at split
  refine ⟨_, notice, y, answer, z, rest, split, ?_⟩
  exact aborts _ _ [⟨.note notice, (), y⟩] _ rest tx split rfl rfl

end Desk.Ran

end PoolExit
