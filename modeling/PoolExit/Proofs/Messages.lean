import Mathlib
import PoolExit.Proofs.Play
import PoolExit.Proofs.Vouching

/-!
# Whose messages reach the ledger

What a run simulates or submits should carry the message of a draft that the guard has passed,
however the wallet behaves: a planned draft of the item in work, or one built for the attempt
(`Desk.Guards`).  The batch and a batch of one keep the messages.  A single signature that the
wallet was asked for directly is not compared with its draft.

`Desk.Ran.unguarded_iff` says exactly when a foreign message reaches the ledger: if and only if the
wallet answers a direct request for one signature with it and the run is not cancelled by the look
at the token that follows.
-/

namespace PoolExit

/-- After the turns so far, a draft that is vouched for has the message. -/
def Desk.Guards (d : Desk) (setup : Setup) (o : Options) (before : List Turn) (m : Message) :
    Prop :=
  ∃ draft, d.Vouches setup o before draft ∧ draft.transaction.message = m

/-- From a direct request for a signature up to the ledger no board is shown and no draft is built.
-/
lemma Run.Window.silent_of_direct {setup : Setup} {tx t : Transaction} {window : List Turn}
    {step : Step} (within : Run.Window setup t window step) (answer) (x y : Bool) :
    ∀ u ∈ (⟨.call (.signOne tx), answer, x⟩ : Turn) :: ⟨.stopped, false, y⟩ :: window,
      u.step.board? = none ∧ ∀ adapter order, u.step ≠ .call (.build adapter order) := by
  cases within with
  | simulating on => simp [Step.board?]
  | submitting simulated n z => cases simulated <;> simp [Step.board?]

namespace Desk

open Run

variable {d : Desk} {setup : Setup} {o : Options}

lemma guards_append {before us : List Turn} {m : Message}
    (silent : ∀ t ∈ us, t.step.board? = none ∧
      ∀ adapter order, t.step ≠ .call (.build adapter order)) :
    d.Guards setup o (before ++ us) m ↔ d.Guards setup o before m := by
  simp only [Guards, vouches_append silent]

/-- In a rehearsal the primary draft of the item in work is simulated, with its own message. -/
lemma guards_of_rehearsing {tasks : List Task} {work : List ((Task × Option Transaction) × Nat)}
    (passed : setup.guard.checkAll tasks = .ok ()) (inLine : InLine tasks work)
    {before : List Turn} {u : Turn} {t : Transaction} (rehearsing : Rehearsing tasks work before u)
    (handed : u.handed? = some t) : d.Guards setup o before t.message := by
  obtain ⟨earlier, x, answer, y, mem, focused, planned⟩ := rehearsing
  obtain rfl := Option.some.inj handed
  obtain ⟨here, message⟩ := inLine mem
  exact ⟨_, vouches_primary passed here focused planned, message.symm⟩

namespace Ran

variable {turns : List Turn} {result : Except ExitError Board}

/-- What a run hands to the ledger carries a guarded message, or it is what the wallet answered to
the direct request before the last look. -/
lemma guarded_or_direct (ran : d.Ran setup o turns result) {before after : List Turn} {u : Turn}
    {t : Transaction} (handed : u.handed? = some t) (split : turns = before ++ u :: after) :
    d.Guards setup o before t.message ∨ ∃ first tx x y window,
      before = first ++ ⟨.call (.signOne tx), .ok t, x⟩ :: ⟨.stopped, false, y⟩ :: window ∧
      Window setup t window u.step := by
  obtain ⟨c, calls, hands⟩ := Option.bind_eq_some_iff.1 handed
  have sends : Sends c := by
    cases c <;> trivial
  obtain ⟨tasks, work, passed, inLine, ⟨-, stretch⟩ | ⟨-, rehearsing⟩⟩ :=
    (ran.placed calls split).1.sending calls sends
  · obtain ⟨earlier, first, last, later, rfl, rfl, attempting⟩ := stretch
    obtain @⟨task, primary, index, number, v, b, _, r, b', mem, variant, focused, planned,
      attempted⟩ := attempting
    obtain ⟨x, cs, draft, window, rfl, cleared, within⟩ := attempted.cleared handed rfl
    obtain @⟨ds, us, _, _, drafted, provided, y⟩ := cleared
    have quiet : ∀ t ∈ us ++ [⟨.stopped, false, y⟩] ++ window, t.step.board? = none := by
      refine List.forall_mem_append.2 ⟨List.forall_mem_append.2 ⟨?_, ?_⟩, within.silent⟩
      · exact fun t ht => (provided.quiet t ht).1
      · simp [Step.board?]
    rcases provided.message with same | ⟨z, direct⟩
    · refine .inl ⟨draft, ?_, same.symm⟩
      simpa using vouches_of_drafted passed (inLine mem).1 variant focused planned drafted quiet
    · obtain ⟨ps, qs, rfl⟩ := List.append_of_mem direct
      obtain ⟨rfl, -, -⟩ := provided.last_of_direct rfl
      refine .inr ⟨earlier ++ ⟨.publish (b.update index Item.attempted), (), x⟩ :: (ds ++ ps),
        draft.transaction, z, y, window, ?_, within⟩
      simp
  · exact .inl (guards_of_rehearsing passed inLine rehearsing handed)

/-- What the wallet answered to a direct request is handed on, unless the next look finds the run
cancelled. -/
lemma handed_of_direct (ran : d.Ran setup o turns result) {before after : List Turn}
    {tx t : Transaction} {x y : Bool} (split : turns =
      before ++ ⟨.call (.signOne tx), .ok t, x⟩ :: ⟨.stopped, false, y⟩ :: after) :
    ∃ window u rest, after = window ++ u :: rest ∧ Window setup t window u.step := by
  cases (ran.placed rfl split).1 with
  | planning quiet =>
      rcases (quiet.2 _ rfl).toVenue with ⟨_, _, h⟩ | ⟨_, _, h⟩ <;> cases h
  | signing passed quiet raced => exact absurd rfl (raced _)
  | rehearsing dry passed inLine rehearsing => cases rehearsing
  | attempting plain passed inLine stretch =>
      obtain ⟨earlier, first, last, later, rfl, same, attempting⟩ := stretch
      obtain ⟨-, -, -, -, attempted⟩ := attempting
      obtain ⟨c, z, rest, rfl, goesOn⟩ := attempted.after_direct rfl
      obtain ⟨h, rfl⟩ := List.cons.inj same
      cases h
      obtain ⟨window, w, rest', rfl, within⟩ := goesOn rfl
      exact ⟨window, w, rest' ++ later, by simp, within⟩

/-- **Whose messages reach the ledger.**  A run simulates or submits a transaction whose message is
not that of a guarded draft of the item in work if and only if the wallet answers a direct request
for one signature with such a transaction and the look at the token that follows does not find the
run cancelled.  Nothing else that the wallet answers, in a batch or alone, gets past the checks. -/
theorem unguarded_iff (ran : d.Ran setup o turns result) :
    (∃ before u after t, turns = before ++ u :: after ∧ u.handed? = some t ∧
      ¬ d.Guards setup o before t.message) ↔
    ∃ before tx t x y after, turns =
        before ++ ⟨.call (.signOne tx), .ok t, x⟩ :: ⟨.stopped, false, y⟩ :: after ∧
      ¬ d.Guards setup o before t.message := by
  constructor
  · rintro ⟨before, u, after, t, split, handed, unguarded⟩
    rcases ran.guarded_or_direct handed split with
      guarded | ⟨first, tx, x, y, window, rfl, within⟩
    · exact absurd guarded unguarded
    · refine ⟨first, tx, t, x, y, window ++ u :: after, by simp [split], ?_⟩
      rwa [guards_append (within.silent_of_direct _ x y)] at unguarded
  · rintro ⟨before, tx, t, x, y, after, split, unguarded⟩
    obtain ⟨window, u, rest, rfl, within⟩ := ran.handed_of_direct split
    refine ⟨before ++ ⟨.call (.signOne tx), .ok t, x⟩ :: ⟨.stopped, false, y⟩ :: window, u, rest, t,
      by simp [split], within.handed?, ?_⟩
    rwa [guards_append (within.silent_of_direct _ x y)]

/-- In the small exit the draft expires, the new one is signed alone, and the wallet answers with
another transaction.  This one is submitted. -/
theorem unguarded_of_altered :
    let altered := Sample.transaction [Sample.owner] 9
    let build := fun past : List Turn =>
      if past.length < 8 then (⟨Sample.transaction [Sample.owner] 0, 10⟩ : Draft)
      else ⟨Sample.transaction [Sample.owner] 1, 100⟩
    let sign := fun tx => if tx = Sample.transaction [Sample.owner] 1 then altered else tx
    let turns := (Sample.world build sign).play {} [] (whole (Sample.setup false) Sample.options)
    ∃ before u after t, turns.1 = before ++ u :: after ∧ u.handed? = some t ∧
      ¬ ({} : Desk).Guards (Sample.setup false) Sample.options before t.message := by
  intro altered build sign turns
  have split : turns.1 = turns.1.take 18 ++
      ⟨.call (.signOne (Sample.transaction [Sample.owner] 1)), .ok altered, false⟩ ::
        ⟨.stopped, false, false⟩ :: turns.1.drop 20 := by
    cbv
  refine (unguarded_iff (ran_play Sample.accepted (Sample.world build sign))).2
    ⟨_, _, altered, false, false, _, split, ?_⟩
  have planned : ∀ item ∈ (({} : Desk).afterAll (turns.1.take 18)).board.items,
      ∀ draft ∈ item.task.drafts, draft.transaction.message ≠ altered.message := by
    decide +kernel
  have rebuilt : ∀ draft ∈ (sinceShown (turns.1.take 18)).filterMap Turn.built?,
      draft.transaction.message ≠ altered.message := by
    decide +kernel
  rintro ⟨draft, ⟨index, item, -, found, known, -⟩, same⟩
  rcases known with mem | again
  · exact planned item (List.mem_of_getElem? found) draft mem same
  · exact rebuilt draft again.mem_built same

end Ran

end Desk

end PoolExit
