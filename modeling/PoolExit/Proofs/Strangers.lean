import PoolExit.Proofs.Play
import PoolExit.Proofs.Vouching

/-!
# Strangers are never signed for

Whatever the wallet is asked to sign comes from a draft that awaits no signature but the owner's.
Such a draft was planned for an item on the board, or built for an item since its attempt began.

A plan with a draft that awaits a stranger's signature is refused as a whole, before anything else
is done with it: no call but those to the venues is ever made, no item gets anywhere, and the
failure names the first such draft.  `Desk.Ran.strangers_unasked` has both halves.
-/

namespace PoolExit

/-- After the turns so far, a draft is known to belong to an item on the board: it was planned for
it, or built for it since the attempt under way began. -/
def Desk.Knows (d : Desk) (setup : Setup) (o : Options) (before : List Turn) (draft : Draft) :
    Prop :=
  ∃ item ∈ (d.afterAll before).board.items,
    draft ∈ item.task.drafts ∨ Rebuilt setup o item.task (sinceShown before) draft

namespace Run

/-- The strangers are those of the first draft of the tasks that awaits any: all tasks before its
own await only the owner, and so do the drafts before it in its own task. -/
def Meets (owner : Pubkey) (tasks : List Task) (s : Strangers) : Prop :=
  ∃ front task back earlier draft later, tasks = front ++ task :: back ∧
    task.drafts = earlier ++ draft :: later ∧
    (∀ t ∈ front, ∀ e ∈ t.drafts, e.AwaitsOnly owner) ∧ (∀ e ∈ earlier, e.AwaitsOnly owner) ∧
    ¬ draft.AwaitsOnly owner ∧
    s = ⟨front.length, task.venue, task.pool, draft.unsignedSigners.filter fun key => key ≠ owner⟩

/-- Strangers are met only where a draft awaits them. -/
lemma Meets.stranger {owner : Pubkey} {tasks : List Task} {s : Strangers}
    (meets : Meets owner tasks s) :
    ∃ task ∈ tasks, ∃ draft ∈ task.drafts, ¬ draft.AwaitsOnly owner := by
  obtain ⟨front, task, back, earlier, draft, later, rfl, drafts, -, -, awaits, -⟩ := meets
  exact ⟨task, by simp, draft, by simp [drafts], awaits⟩

section

variable {setup : Setup} {o : Options} {b b' : Board} {ts : List Turn}

/-- The guard of a run refuses a plan with the strangers that are met first. -/
lemma meets_of_refused {tasks : List Task} {s : Strangers}
    (refused : setup.guard.checkAll tasks = .error s) : Meets setup.owner tasks s := by
  obtain ⟨front, task, back, draft, split, passed, first, rfl⟩ := Guard.first_of_checkAll refused
  obtain ⟨refuses, earlier, later, drafts, before⟩ := first
  have awaits : ∀ {e : Draft}, setup.guard.offenders e = [] ↔ e.AwaitsOnly setup.owner :=
    Guard.offenders_ownerOnly_eq_nil
  refine ⟨front, task, back, earlier, draft, later, split, drafts, ?_, ?_, ?_, ?_⟩
  · exact fun t ht e he => awaits.1 (passed t ht e he)
  · exact fun e he => awaits.1 (before e he)
  · exact fun h => refuses (awaits.2 h)
  · rw [← Guard.offenders_ownerOnly]
    rfl

/-- A plan with a stranger in it is refused. -/
lemma Acted.refused_of_stranger {plan : Plan} {r : Except ExitError Unit}
    (acted : Acted setup o plan b ts r b')
    (stranger : ∃ task ∈ plan.tasks, ∃ draft ∈ task.drafts, ¬ draft.AwaitsOnly setup.owner) :
    ∃ s x y, setup.guard.checkAll plan.tasks = .error s ∧
      ts = [⟨.publish (b.planned plan.tasks), (), x⟩, ⟨.note (.strangers s), (), y⟩] ∧
      r = .error (.unexpectedSigner s) ∧ b' = b.planned plan.tasks := by
  obtain ⟨task, mem, draft, drafted, awaits⟩ := stranger
  have unpassed : setup.guard.checkAll plan.tasks ≠ .ok () := by
    intro passed
    have none : setup.guard.offenders draft = [] :=
      Guard.checkAll_eq_ok.1 passed task mem draft drafted
    exact awaits (Guard.offenders_ownerOnly_eq_nil.1 none)
  cases acted with
  | nothing empty x y => simp [empty] at mem
  | refused refused x y => exact ⟨_, x, y, refused, rfl, rfl, rfl⟩
  | unsigned passed | worked passed => exact absurd passed unpassed

end

end Run

/-- The batch holds the primary drafts of the tasks on the board. -/
lemma Desk.knows_primary {d : Desk} {setup : Setup} {o : Options} {tasks : List Task}
    {earlier us : List Turn} {b : Board} {x : Bool} {tx : Transaction}
    (passed : setup.guard.checkAll tasks = .ok ()) (planned : b.tasks = tasks)
    (primary : tx ∈ Run.primaries tasks) (silent : ∀ t ∈ us, t.step.board? = none) :
    ∃ draft, draft.transaction = tx ∧ setup.guard.offenders draft = [] ∧
      d.Knows setup o (earlier ++ ⟨.publish b, (), x⟩ :: us) draft := by
  obtain ⟨task, mem, rfl⟩ := List.mem_map.1 primary
  obtain ⟨item, onBoard, rfl⟩ := List.mem_map.1 (planned ▸ mem)
  refine ⟨item.task.primary, rfl, ?_, item, ?_, .inl List.mem_cons_self⟩
  · exact Guard.checkAll_eq_ok.1 passed _ mem _ List.mem_cons_self
  · rw [board_afterAll_of_shown silent]
    exact onBoard

namespace Desk.Ran

open Run

variable {d : Desk} {setup : Setup} {o : Options} {turns : List Turn}
  {result : Except ExitError Board}

/-- What the wallet is asked to sign comes from a draft that the guard passes and that belongs to an
item on the board. -/
lemma signs_known (ran : d.Ran setup o turns result) {before after : List Turn} {u : Turn}
    {c : Call} {tx : Transaction} (calls : u.step.call? = some c) (signs : Signs tx c)
    (split : turns = before ++ u :: after) :
    ∃ draft, draft.transaction = tx ∧ setup.guard.offenders draft = [] ∧
      d.Knows setup o before draft := by
  cases (ran.placed calls split).1 with
  | planning quiet =>
      rcases (quiet.2 c calls).toVenue with ⟨_, _, rfl⟩ | ⟨_, _, rfl⟩ <;>
        exact absurd signs not_false
  | @signing tasks _ _ _ _ passed quiet raced shown planned silent =>
      have primary : tx ∈ primaries tasks := by
        rcases quiet.2 c calls with rfl | ⟨t, mem, rfl⟩
        · exact signs
        · exact (signs : tx = t) ▸ mem
      rw [shown]
      exact knows_primary passed planned primary silent
  | attempting plain passed inLine stretch =>
      obtain ⟨earlier, first, last, later, rfl, -, attempting⟩ := stretch
      obtain ⟨mem, variant, focused, planned, attempted⟩ := attempting
      obtain ⟨x, ds, draft, rest, rfl, drafted, rfl, silent⟩ := attempted.signing calls signs rfl
      obtain ⟨index, item, -, found, known, passes⟩ :=
        vouches_of_drafted passed (inLine mem).1 variant focused planned drafted silent
      exact ⟨draft, rfl, passes, item, List.mem_of_getElem? found, known⟩
  | rehearsing dry passed inLine rehearsing =>
      cases rehearsing
      cases calls
      exact absurd signs not_false

/-- A plan with a stranger in it ends the run. -/
lemma ends_of_stranger (ran : d.Ran setup o turns result) {plan : Plan}
    (planned : Planned setup o turns plan)
    (stranger : ∃ task ∈ plan.tasks, ∃ draft ∈ task.drafts, ¬ draft.AwaitsOnly setup.owner) :
    (∀ t ∈ turns, ∀ c, t.step.call? = some c → Planning.ToVenue c) ∧
      Shows (fun b => ∀ i ∈ b.items, i.status = .pending ∨ i.status = .skipped) turns ∧
      ∃ s, Meets setup.owner plan.tasks s ∧ result = .error (.unexpectedSigner s) := by
  obtain ⟨x, ps, us, outcome, b, vs, b', rfl, made, acted, concluded⟩ := ran.acted planned
  obtain ⟨s, y, z, refused, rfl, rfl, rfl⟩ := acted.refused_of_stranger stranger
  have quiet := quiet_of_goes_planning made
  cases concluded with
  | finished harmless => simp at harmless
  | givenUp harmful cancelled w v q =>
      refine ⟨?_, ?_, s, meets_of_refused refused, rfl⟩
      · have calls : ∀ t ∈ ps, ∀ c, t.step.call? = some c → Planning.ToVenue c :=
          fun t ht => (quiet t ht).2
        simpa [Step.call?, or_imp, forall_and] using calls
      · have pending : ∀ i ∈ (Board.opened.planned plan.tasks).items, i.status = .pending := by
          simp [Board.planned, Item.pending]
        have closed : ∀ i ∈ ((Board.opened.planned plan.tasks).closed
            (some (ExitError.unexpectedSigner s).describe) cancelled).items,
            i.status = .pending ∨ i.status = .skipped := by
          cases cancelled <;> simp [Board.closed, Board.planned, Item.pending, Item.skip, Item.stop,
            Item.advance, Status.canAdvanceTo, Status.isTerminal, Status.rank]
        have opened : Board.opened.items = [] := rfl
        simp only [shows_cons, shows_append, shows_of_quiet quiet, shows_nil]
        simpa [Step.board?, opened] using ⟨fun i hi => .inl (pending i hi), closed⟩

/-- **Strangers are never signed for.**  Whatever a run has the wallet sign comes from a draft that
awaits only the owner's signature.  If some draft of its plan awaits another one, then the run
makes no calls but those to the venues, no item gets beyond its start, and the run fails with the
first draft that awaits strangers. -/
theorem strangers_unasked (ran : d.Ran setup o turns result) :
    (∀ before u after c tx, turns = before ++ u :: after → u.step.call? = some c → Signs tx c →
      ∃ draft, draft.transaction = tx ∧ draft.AwaitsOnly setup.owner ∧
        d.Knows setup o before draft) ∧
    ∀ plan, Planned setup o turns plan →
      (∃ task ∈ plan.tasks, ∃ draft ∈ task.drafts, ¬ draft.AwaitsOnly setup.owner) →
      (∀ t ∈ turns, ∀ c, t.step.call? = some c → Planning.ToVenue c) ∧
        Shows (fun b => ∀ i ∈ b.items, i.status = .pending ∨ i.status = .skipped) turns ∧
        ∃ s, Meets setup.owner plan.tasks s ∧ result = .error (.unexpectedSigner s) := by
  constructor
  · intro before u after c tx split calls signs
    obtain ⟨draft, same, passes, known⟩ := ran.signs_known calls signs split
    exact ⟨draft, same, Guard.offenders_ownerOnly_eq_nil.1 passes, known⟩
  · intro plan planned stranger
    exact ran.ends_of_stranger planned stranger

/-- In the small exit with a stranger among the signers, the run is refused for this stranger. -/
theorem strangers_unasked_of_stranger :
    let draft : Draft := ⟨Sample.transaction [Sample.owner, Sample.stranger] 0, 100⟩
    let turns := (Sample.world (fun _ => draft) id).play {} []
      (whole (Sample.setup false) Sample.options)
    ∃ plan, Planned (Sample.setup false) Sample.options turns.1 plan ∧
      (∀ t ∈ turns.1, ∀ c, t.step.call? = some c → Planning.ToVenue c) ∧
      ∃ s, Meets Sample.owner plan.tasks s ∧ turns.2 = .error (.unexpectedSigner s) := by
  intro draft turns
  have ran : ({} : Desk).Ran (Sample.setup false) Sample.options turns.1 turns.2 :=
    ran_play Sample.accepted (Sample.world (fun _ => draft) id)
  have fails : turns.2.toBool = false := by decide +kernel
  obtain ⟨e, failed⟩ : ∃ e, turns.2 = .error e := by
    cases h : turns.2 with
    | error e => exact ⟨e, rfl⟩
    | ok board => simp [h, Except.toBool] at fails
  obtain ⟨plan, s, planned, refused, -⟩ := refused_of_error (failed ▸ ran)
  obtain ⟨calls, -, meets⟩ :=
    (strangers_unasked ran).2 plan planned (meets_of_refused refused).stranger
  exact ⟨plan, planned, calls, meets⟩

end Desk.Ran

end PoolExit
