import PoolExit.Proofs.Bookkeeping
import PoolExit.Proofs.Ending

/-!
# What becomes of an item

How an item of a plain run ends can be told from what happened to it (`Item.Verdict`): it is
confirmed if and only if the ledger confirmed a submission of it; it fails if and only if it was not
confirmed and its signature was refused or an attempt failed for another reason than the
cancellation; in all other cases the run was cancelled, and it is skipped.

Up to the end of the work this is a law of the moves (`Item.Judged`).  The end skips what has not
ended, and there an item is left only if nothing but the cancellation kept it.
-/

namespace PoolExit

/-! ## Items -/

/-- What is to be seen on an item once its signature was asked for; `refusal` is why there was
none. -/
structure Item.Judged (refusal : Option SignerError) (confirmations : List Signature)
    (failures : List ExitError) (i : Item) : Prop where
  confirmed : i.status = .confirmed ↔ confirmations ≠ []
  error : i.status = .error → (∃ e, refusal = some e ∧ i.error = some e.message) ∨
    refusal = none ∧ ∃ e, lastGenuine failures = some e ∧ i.error = some e.describe
  refused : refusal ≠ none → i.status = .error
  unskipped : i.status ≠ .skipped

namespace Item.Judged

variable {refusal : Option SignerError} {cs cs' : List Signature} {fs fs' : List ExitError}
  {rs : List (Signature × UInt64)} {i j : Item}

lemma pending (task : Task) : (Item.pending task).Judged none [] [] where
  confirmed := by simp [Item.pending]
  error := nofun
  refused h := absurd rfl h
  unskipped := nofun

lemma settled (task : Task) (refusal : Option SignerError) :
    (Run.settledItem task refusal).Judged refusal [] [] ∧
      (Run.settledItem task refusal).status ≠ .pending := by
  cases refusal with
  | none =>
      have signed : (Run.settledItem task none).status = .signed := rfl
      exact ⟨⟨by simp [signed], by simp [signed], by simp, by simp [signed]⟩, by simp [signed]⟩
  | some e =>
      have refused : (Run.settledItem task (some e)).status = .error := rfl
      exact ⟨⟨by simp [refused], fun _ => .inl ⟨e, rfl, rfl⟩, fun _ => refused, by simp [refused]⟩,
        by simp [refused]⟩

/-- A move of a plain run keeps the verdict. -/
lemma moved (judged : i.Judged refusal cs fs) (settled : i.status ≠ .pending)
    (moved : i.Moved false fs rs cs' fs' j) :
    j.Judged refusal (cs ++ cs') (fs ++ fs') ∧ j.status ≠ .pending := by
  -- An item in work was signed and has not been confirmed.
  have working : i.Ongoing → refusal = none ∧ cs = [] := by
    intro ongoing
    constructor
    · by_contra refused
      rcases ongoing with h | h <;> simp [judged.refused refused] at h
    · by_contra confirmed
      rcases ongoing with h | h <;> simp [judged.confirmed.2 confirmed] at h
  cases moved with
  | stayed => simpa using ⟨judged, settled⟩
  | signed pending | refused reason pending =>
      rw [pending] at settled
      exact absurd rfl settled
  | rehearsed dry => cases dry
  | begun ongoing left =>
      rw [List.append_nil, List.append_nil]
      exact ⟨⟨judged.confirmed, judged.error, judged.refused, judged.unskipped⟩, settled⟩
  | failed e ongoing =>
      obtain ⟨signed, unconfirmed⟩ := working ongoing
      rw [List.append_nil]
      refine ⟨⟨judged.confirmed, fun h => ?_, judged.refused, judged.unskipped⟩, settled⟩
      rcases ongoing with h' | h' <;> simp [h'] at h
  | taken signature ongoing begun underWay =>
      obtain ⟨rfl, rfl⟩ := working ongoing
      rw [submitted_of_ongoing ongoing]
      exact ⟨⟨by simp, nofun, fun h => absurd rfl h, nofun⟩, nofun⟩
  | confirmed sent id level =>
      obtain ⟨rfl, rfl⟩ := working (.inr sent)
      rw [landed_of_ongoing (.inr sent)]
      exact ⟨⟨by simp, nofun, fun h => absurd rfl h, nofun⟩, nofun⟩
  | @ended e ongoing last =>
      obtain ⟨rfl, rfl⟩ := working ongoing
      rw [fail, stop_of_not_terminal ongoing.isTerminal rfl, List.append_nil, List.append_nil]
      exact ⟨⟨by simp, fun _ => .inr ⟨rfl, e, last, rfl⟩, fun h => absurd rfl h, nofun⟩, nofun⟩

end Item.Judged

/-- How an item ends, told from what happened to it: why there was no signature of it, what the
ledger took and what it confirmed, and why attempts failed.  `aborted` says whether the run was
cancelled. -/
structure Item.Verdict (aborted : Prop) (refusal : Option SignerError)
    (receipts : List (Signature × UInt64)) (confirmations : List Signature)
    (failures : List ExitError) (i : Item) : Prop where
  confirmed : i.status = .confirmed ↔ confirmations ≠ []
  error : i.status = .error ↔
    confirmations = [] ∧ (refusal ≠ none ∨ ∃ e ∈ failures, e ≠ .cancelled)
  text : i.status = .error → (∃ e, refusal = some e ∧ i.error = some e.message) ∨
    refusal = none ∧ ∃ e, lastGenuine failures = some e ∧ i.error = some e.describe
  skipped : i.status = .skipped ∧ i.error = some Board.cancelledReason ↔
    aborted ∧ confirmations = [] ∧ refusal = none ∧ ∀ e ∈ failures, e = .cancelled
  submitted : receipts ≠ [] → i.status ≠ .skipped

section

variable {aborted : Prop} {refusal : Option SignerError} {rs : List (Signature × UInt64)}
  {cs : List Signature} {fs : List ExitError} {i : Item}

/-- The verdict on an item that the work has ended. -/
lemma Item.Judged.verdict_ended (judged : i.Judged refusal cs fs)
    (ended : i.status = .confirmed ∨ i.status = .error ∨ i.status = .skipped) :
    i.Verdict aborted refusal rs cs fs where
  confirmed := judged.confirmed
  error := by
    constructor
    · intro failed
      refine ⟨by_contra fun h => ?_, ?_⟩
      · rw [judged.confirmed.2 h] at failed
        cases failed
      · rcases judged.error failed with ⟨e, refused, -⟩ | ⟨-, e, last, -⟩
        · exact .inl (by simp [refused])
        · obtain ⟨mem, genuine⟩ := genuine_of_lastGenuine last
          exact .inr ⟨e, mem, genuine⟩
    · rintro ⟨unconfirmed, -⟩
      rcases ended with h | h | h
      · exact absurd unconfirmed (judged.confirmed.1 h)
      · exact h
      · exact absurd h judged.unskipped
  text := judged.error
  skipped := by
    constructor
    · rintro ⟨skipped, -⟩
      exact absurd skipped judged.unskipped
    · rintro ⟨-, unconfirmed, unrefused, harmless⟩
      rcases ended with h | h | h
      · exact absurd unconfirmed (judged.confirmed.1 h)
      · rcases judged.error h with ⟨e, refused, -⟩ | ⟨-, e, last, -⟩
        · simp [refused] at unrefused
        · rw [lastGenuine_eq_none.2 harmless] at last
          cases last
      · exact absurd h judged.unskipped
  submitted _ := judged.unskipped

/-- The verdict on an item that a cancelled run leaves behind. -/
lemma Item.Judged.verdict_skipped (judged : i.Judged refusal cs fs)
    (left : i.status.isTerminal = false) (harmless : ∀ e ∈ fs, e = .cancelled) (stopped : aborted)
    (decided : rs ≠ [] → cs ≠ [] ∨ ∃ e ∈ fs, e ≠ .cancelled) :
    ({ i with status := .skipped, error := some Board.cancelledReason } : Item).Verdict aborted
      refusal rs cs fs := by
  have unconfirmed : cs = [] := by
    by_contra h
    rw [judged.confirmed.2 h] at left
    cases left
  have unrefused : refusal = none := by
    by_contra h
    rw [judged.refused h] at left
    cases left
  refine ⟨by simp [unconfirmed], ?_, nofun, ?_, fun taken => ?_⟩
  · simpa [unrefused] using fun _ => harmless
  · simpa [unconfirmed, unrefused, stopped] using harmless
  · rcases decided taken with confirmed | ⟨e, mem, genuine⟩
    · exact absurd unconfirmed confirmed
    · exact absurd (harmless e mem) genuine

end

/-! ## The signatures -/

namespace Run

variable {setup : Setup} {o : Options} {turns : List Turn} {plan : Plan}

/-- The run made the plan and had its batch signed with the outcome. -/
def Signed (setup : Setup) (o : Options) (turns : List Turn) (plan : Plan) (outcome : Signatures) :
    Prop :=
  ∃ x ps y us rest, turns = ⟨.publish Board.opened, (), x⟩ ::
      (ps ++ ⟨.publish (Board.opened.planned plan.tasks), (), y⟩ :: (us ++ rest)) ∧
    Talk.Goes (planning setup o) ps (some plan) ∧ Talk.Goes (signing setup plan) us (some outcome)

/-- The batch left the item at a place without a signature. -/
def SigningFailed (setup : Setup) (o : Options) (turns : List Turn) (k : Nat) (e : SignerError) :
    Prop :=
  ∃ plan outcome, Signed setup o turns plan outcome ∧ outcome.errors[k]? = some (some e)

/-- Why the item at a place has no signature. -/
def refusal? (outcome : Option Signatures) (k : Nat) : Option SignerError := do
  (← (← outcome).errors[k]?)

/-- The batch of a run has one outcome. -/
lemma signingFailed_iff {x y : Bool} {ps us : List Turn} {outcome : Option Signatures}
    (made : Talk.Goes (planning setup o) ps (some plan))
    (signed : Talk.Goes (signing setup plan) us outcome) (rest : List Turn) {k : Nat}
    {e : SignerError} : SigningFailed setup o (⟨.publish Board.opened, (), x⟩ ::
      (ps ++ ⟨.publish (Board.opened.planned plan.tasks), (), y⟩ :: (us ++ rest))) k e ↔
    refusal? outcome k = some e := by
  constructor
  · rintro ⟨plan', outcome', ⟨x', ps', y', us', rest', split, made', signed'⟩, refused⟩
    obtain ⟨rfl, h, rest⟩ := made.unique made' (List.cons.inj split).2
    obtain rfl := Option.some.inj h
    obtain ⟨-, rfl, -⟩ := signed.unique signed' (List.cons.inj rest).2
    simp [refusal?, refused]
  · intro refused
    cases outcome with
    | none => cases refused
    | some outcome =>
        refine ⟨plan, outcome, ⟨x, ps, y, us, rest, rfl, made, signed⟩, ?_⟩
        simpa [refusal?, Option.bind_eq_some_iff] using refused

/-! ## The work -/

section

variable {d : Desk} {start b b' : Board} {past ts : List Turn}

/-- The item at a place is judged. -/
def JudgedAt (start : Board) (k : Nat) (refusal : Option SignerError) (b : Board)
    (past : List Turn) : Prop :=
  ∃ i, b.items[k]? = some i ∧ i.status ≠ .pending ∧
    i.Judged refusal (start.confirmations k past) (start.failures k past)

lemma Moves.judged (moves : Moves setup o start b past ts b') (plain : o.dryRun = false)
    (here : start.afterAll past = b) {k : Nat} {refusal : Option SignerError}
    (judged : JudgedAt start k refusal b past) : JudgedAt start k refusal b' (past ++ ts) := by
  refine moves.keeps (I := JudgedAt start k refusal) ?_ here judged
  rintro b past us b' here ⟨i, found, settled, judged⟩ move
  obtain ⟨j, found', moved⟩ := move.item k i found
  rw [plain] at moved
  obtain ⟨judged', settled'⟩ := judged.moved settled moved
  refine ⟨j, found', settled', ?_⟩
  rwa [Board.confirmations_append, Board.failures_append, here]

/-- Before the work nothing is told about the items. -/
lemma untold_of_idle (start : Board) {x : Bool}
    (shows : Shows (fun c => c.currentIndex = none) ts) (k : Nat) :
    start.confirmations k (⟨.publish Board.opened, (), x⟩ :: ts) = [] ∧
      start.failures k (⟨.publish Board.opened, (), x⟩ :: ts) = [] := by
  have elsewhere : Shows (fun c => c.currentIndex ≠ some k) ts := shows.mono fun c h => by simp [h]
  have opens : [(⟨.publish Board.opened, (), x⟩ : Turn)] ++ ts = _ :: ts := rfl
  constructor
  · rw [← opens, Board.confirmations_append,
      Board.confirmations_of_unconfirmed (by simp [Turn.confirmed?])]
    exact Board.gather_elsewhere (by simp [Board.opened]) elsewhere
  · rw [← opens, Board.failures_append, Board.failures_of_unfailed (by simp [Turn.failure?])]
    exact Board.gather_elsewhere (by simp [Board.opened]) elsewhere

/-- A run that is cancelled before its work leaves the items as they were planned. -/
lemma judged_of_unsigned {ps us : List Turn} {x y : Bool}
    (planned : Talk.Goes (planning setup o) ps (some plan))
    (signed : Talk.Goes (signing setup plan) us none) {k : Nat} {i : Item}
    (found : (Board.opened.planned plan.tasks).items[k]? = some i) :
    let turns := ⟨.publish Board.opened, (), x⟩ ::
      (ps ++ ⟨.publish (Board.opened.planned plan.tasks), (), y⟩ :: us)
    i.Judged none (start.confirmations k turns) (start.failures k turns) := by
  intro turns
  have idle : (Board.opened.planned plan.tasks).currentIndex = none := rfl
  have shows : Shows (fun c => c.currentIndex = none)
      (ps ++ ⟨.publish (Board.opened.planned plan.tasks), (), y⟩ :: us) := by
    simp [Step.board?, idle, shows_of_quiet (quiet_of_goes_planning planned),
      shows_of_quiet (quiet_of_goes_signing signed)]
  obtain ⟨task, -, rfl⟩ := Option.map_eq_some_iff.1 (List.getElem?_map.symm.trans found)
  obtain ⟨unconfirmed, unfailed⟩ := untold_of_idle start (x := x) shows k
  rw [unconfirmed, unfailed]
  exact .pending task

/-- The batch has an outcome for each item. -/
lemma exists_outcome_at {us : List Turn} {outcome : Signatures} {k : Nat}
    (signed : Talk.Goes (signing setup plan) us (some outcome)) (inside : k < plan.tasks.length) :
    ∃ task t error, (plan.tasks.zip (outcome.transactions.zip outcome.errors))[k]? =
      some (task, t, error) ∧ refusal? (some outcome) k = error := by
  have aligned := aligned_of_goes_signing signed
  have transactions : k < outcome.transactions.length := by
    rw [← aligned.messages.length_eq]
    simpa [primaries] using inside
  have errors : k < outcome.errors.length := by
    rw [aligned.errors]
    simpa [primaries] using inside
  refine ⟨plan.tasks[k], outcome.transactions[k], outcome.errors[k], ?_, ?_⟩
  · refine List.getElem?_zip_eq_some.2 ⟨List.getElem?_eq_getElem inside, ?_⟩
    exact List.getElem?_zip_eq_some.2 ⟨List.getElem?_eq_getElem transactions,
      List.getElem?_eq_getElem errors⟩
  · simp [refusal?, errors]

/-- From the batch on the work keeps every item judged. -/
lemma judged_of_worked {ps us vs ws : List Turn} {x y z : Bool} {outcome : Signatures}
    {slots : List (Option Transaction)} (plain : o.dryRun = false)
    (planned : Talk.Goes (planning setup o) ps (some plan))
    (signed : Talk.Goes (signing setup plan) us (some outcome))
    (settled : Settled (entries plan outcome) (Board.opened.planned plan.tasks) vs slots b)
    (worked : Worked setup o (plan.tasks.zip slots).zipIdx b ws b') {turns : List Turn}
    (whole : turns = ⟨.publish Board.opened, (), x⟩ ::
      (ps ++ ⟨.publish (Board.opened.planned plan.tasks), (), y⟩ :: (us ++
        ⟨.note (.signed outcome.path plan.tasks.length outcome.failed), (), z⟩ :: (vs ++ ws))))
    (admits : d.Admits turns) (active : ShowsActive turns) {k : Nat} {i : Item}
    (found : b'.items[k]? = some i) (inside : k < plan.tasks.length) :
    i.Judged (refusal? (some outcome) k) (d.board.confirmations k turns)
      (d.board.failures k turns) := by
  obtain ⟨task, t, error, listed, refused⟩ := exists_outcome_at signed inside
  have quiet := quiet_of_goes_planning planned
  have shows : Shows (fun c => c.currentIndex = none) ps := shows_of_quiet quiet
  have here : d.board.afterAll (⟨.publish Board.opened, (), x⟩ :: ps) = Board.opened :=
    Board.afterAll_of_silent fun t ht => (quiet t ht).1
  obtain ⟨moves, ready, outcomes, silent⟩ := ready_to_work (o := o) (x := y) (y := z)
    (Planning.claimsLead_of_goes_plan planned) signed settled here
    fun k => (untold_of_idle d.board shows k).2
  obtain ⟨unconfirmed, unfailed⟩ :=
    untold_of_idle d.board (x := x) (shows_append.2 ⟨shows, silent⟩) k
  have begins : JudgedAt d.board k error b (⟨.publish Board.opened, (), x⟩ :: (ps ++
      ⟨.publish (Board.opened.planned plan.tasks), (), y⟩ :: (us ++
        ⟨.note (.signed outcome.path plan.tasks.length outcome.failed), (), z⟩ :: vs))) := by
    refine ⟨settledItem task error, by simpa using outcomes listed, ?_⟩
    rw [unconfirmed, unfailed]
    exact (Item.Judged.settled task error).symm
  have there := moves.afterAll here
  have split : turns = (⟨.publish Board.opened, (), x⟩ :: (ps ++
      ⟨.publish (Board.opened.planned plan.tasks), (), y⟩ :: (us ++
        ⟨.note (.signed outcome.path plan.tasks.length outcome.failed), (), z⟩ :: vs))) ++ ws := by
    simp [whole]
  rw [split] at admits active ⊢
  obtain ⟨works, -⟩ := worked.moves there ready admits active
  obtain ⟨i', found', -, judged⟩ := works.judged plain there begins
  obtain rfl := Option.some.inj (found'.symm.trans found)
  rwa [refused]

/-- At the end of the work every item is judged, with the refusal of its signature. -/
lemma Executed.judged {outcome : Except ExitError Unit} {x : Bool} (plain : o.dryRun = false)
    (executed : Executed setup o Board.opened ts outcome b')
    (harmless : outcome = .ok () ∨ outcome = .error .cancelled)
    (admits : d.Admits (⟨.publish Board.opened, (), x⟩ :: ts)) {k : Nat} {i : Item}
    (found : b'.items[k]? = some i) : ∃ refusal,
      i.Judged refusal (d.board.confirmations k (⟨.publish Board.opened, (), x⟩ :: ts))
        (d.board.failures k (⟨.publish Board.opened, (), x⟩ :: ts)) ∧
      ∀ vs e, SigningFailed setup o (⟨.publish Board.opened, (), x⟩ :: (ts ++ vs)) k e ↔
        refusal = some e := by
  have opened : ∀ c, Step.board? (.publish Board.opened) = some c → c.isActive = true := by
    rintro _ ⟨⟩
    rfl
  have active : ShowsActive (⟨.publish Board.opened, (), x⟩ :: ts) :=
    shows_cons.2 ⟨opened, executed.showsActive⟩
  cases executed with
  | unplanned planned => simp [Board.opened] at found
  | @planned ps plan us _ _ planned acted =>
      have tasks := acted.tasks
      cases acted with
      | nothing empty => simp [Board.planned, empty] at found
      | refused => rcases harmless with h | h <;> cases h
      | @unsigned us passed y signed =>
          refine ⟨none, judged_of_unsigned planned signed found, fun vs e => ?_⟩
          have failed := signingFailed_iff (x := x) (y := y) planned signed vs (k := k) (e := e)
          simpa [refusal?] using failed
      | @worked us outcome vs slots b₁ ws _ passed y signed z settled worked =>
          have inside : k < plan.tasks.length := by
            rw [← tasks, Board.tasks, List.length_map]
            exact (List.getElem?_eq_some_iff.1 found).1
          have judged := judged_of_worked plain planned signed settled worked rfl admits active
            found inside
          refine ⟨refusal? (some outcome) k, judged, fun rest e => ?_⟩
          rw [← signingFailed_iff planned signed]
          simp only [List.append_assoc, List.cons_append]
          rfl

end

/-! ## Attempts -/

section

variable {s : PlanSettings} {primary : Transaction} {k number : Nat} {task : Task} {v : Variant}
  {b b' : Board} {ts : List Turn} {r : Except ExitError (Signature × UInt64)}

/-- An attempt whose submission was taken ends with the confirmation, or with the report of another
failure than the cancellation. -/
lemma Attempted.decided (attempted : Attempted setup s primary k task number v b ts r b')
    {u : Turn} {signature : Signature} (mem : u ∈ ts) (takes : u.taken? = some signature) :
    ∃ front w, ts = front ++ [w] ∧ front ≠ [] ∧ ((∃ s, w.confirmed? = some s) ∨
      ∃ e, w.failure? = some e ∧ e ≠ .cancelled) := by
  cases attempted with
  | @landed us s' b' x sent =>
      cases sent.outlined with
      | @confirmed us plain tx _ expiry y z w =>
          refine ⟨⟨.publish (b.update k Item.attempted), (), x⟩ :: (us ++
              [⟨.call (.submit tx), .ok s', y⟩, ⟨.publish ((b.update k Item.attempted).update k
                fun i => i.submitted s'.text v.feeLevel), (), z⟩]),
            ⟨.call (.confirm s' expiry), .ok (), w⟩, ?_, by simp, .inl ⟨s', rfl⟩⟩
          simp
  | @failed us e _ x y sent =>
      refine ⟨⟨.publish (b.update k Item.attempted), (), x⟩ :: us, _, rfl, by simp,
        .inr ⟨e, rfl, ?_⟩⟩
      cases sent.outlined with
      | unsent plain =>
          simp only [List.mem_cons, List.mem_append, List.not_mem_nil, or_false] at mem
          rcases mem with rfl | mem | rfl
          · cases takes
          · rw [(plain u mem).untaken] at takes
            cases takes
          · cases takes
      | unconfirmed => nofun

end

/-! ## Failures -/

section

variable {d : Desk} {start b b' : Board} {past us before after : List Turn} {t : Turn}
  {e : ExitError} {k : Nat}

/-- A report of a failure stands at the end of the attempt that failed. -/
lemma Move.failedAttempt (move : Move setup o start b past us b')
    (split : us = before ++ t :: after) (reports : t.failure? = some e)
    (focused : (b.afterAll before).currentIndex = some k) :
    FailedAttempt setup o start k (past ++ before ++ [t]) e := by
  have told : ¬ ∀ u ∈ us, u.failure? = none := by
    intro none
    rw [none t (by simp [split])] at reports
    cases reports
  have alone : ∀ {u : Turn}, [u] = before ++ t :: after → before = [] ∧ t = u := by
    intro u same
    obtain ⟨rfl, rfl, -⟩ := place_unique (P := fun _ => True) [] [] trivial (by simp) (by simp) same
    exact ⟨rfl, rfl⟩
  cases move with
  | plain plain => exact absurd (by simpa using plain.unfailed) told
  | idle silent idle =>
      obtain ⟨rfl, rfl⟩ := alone split
      rw [Board.afterAll_nil, idle] at focused
      cases focused
  | @failed k' i number fee e' x focused' found ongoing failed =>
      obtain ⟨rfl, rfl⟩ := alone split
      obtain rfl := Option.some.inj reports
      obtain rfl := Option.some.inj (focused'.symm.trans focused)
      simpa using failed
  | _ => exact absurd (by simp [Turn.failure?]) told

/-- An attempt that failed ends with the report, while its item is in work. -/
lemma FailedAttempt.report (failed : FailedAttempt setup o start k (before ++ [t]) e) :
    t.failure? = some e ∧ (start.afterAll before).currentIndex = some k := by
  obtain ⟨earlier, ts, primary, i, v, b', same, focused, -, -, go⟩ := failed
  have attempted := attempted_of_goes go
  cases attempted with
  | @failed us _ _ x y sent =>
      rw [← List.cons_append, ← List.append_assoc] at same
      obtain ⟨rfl, h⟩ := List.append_inj' same rfl
      obtain ⟨rfl, -⟩ := List.cons.inj h
      have touched := (Attempted.failed x y sent).touched_within List.cons_append.symm
        (List.cons_ne_nil _ _) start earlier
      exact ⟨rfl, touched.currentIndex.trans focused⟩

end

end Run

namespace Desk

open Run

variable {d : Desk} {setup : Setup} {o : Options} {turns before after : List Turn}
  {result : Except ExitError Board} {board : Board} {k : Nat}

namespace Ran

/-- The end of a run tells nothing about the items. -/
lemma untold_of_concluded {outcome : Except ExitError Unit} {b b' : Board} {ts : List Turn}
    (concluded : Concluded b outcome ts result b') :
    ∀ t ∈ ts, t.confirmed? = none ∧ t.failure? = none := by
  cases concluded <;> simp [Turn.confirmed?, Turn.failure?]

/-- What is told about an item is told before the end of the run. -/
lemma told_of_concluded {outcome : Except ExitError Unit} {b b' : Board} {vs : List Turn}
    (concluded : Concluded b outcome vs result b') (start : Board) (us : List Turn) (k : Nat) :
    start.confirmations k (us ++ vs) = start.confirmations k us ∧
      start.failures k (us ++ vs) = start.failures k us := by
  have untold := untold_of_concluded concluded
  constructor
  · rw [Board.confirmations_append,
      Board.confirmations_of_unconfirmed fun t ht => (untold t ht).1, List.append_nil]
  · rw [Board.failures_append, Board.failures_of_unfailed fun t ht => (untold t ht).2,
      List.append_nil]

/-- The failures of an item are those of the attempts at it. -/
lemma failures_eq_iff (ran : d.Ran setup o turns result) {t : Turn} {e : ExitError}
    (split : turns = before ++ t :: after) :
    d.board.failures k (before ++ [t]) = d.board.failures k before ++ [e] ↔
      FailedAttempt setup o d.board k (before ++ [t]) e := by
  have grows : d.board.failures k (before ++ [t]) = d.board.failures k before ++ [e] ↔
      t.failure? = some e ∧ (d.board.afterAll before).currentIndex = some k := by
    rw [Board.failures_append, List.append_cancel_left_eq]
    by_cases focused : (d.board.afterAll before).currentIndex = some k <;>
      simp [Board.failures, Board.whileInWork, focused]
  rw [grows]
  constructor
  · rintro ⟨reports, focused⟩
    obtain ⟨x, us, outcome, b, vs, b', rfl, -, concluded, moves, -⟩ := ran.moves
    have ends : ∀ u ∈ vs, ¬ u.failure? = some e := fun u hu => by
      simp [untold_of_concluded concluded u hu]
    obtain ⟨between, last, rfl, rfl, rfl⟩ := place_between (P := fun u => u.failure? = some e)
      [_] us vs reports (by simp [Turn.failure?]) ends split
    obtain ⟨first, first', last', last, b₁, b₂, rfl, rfl, earlier, move, -⟩ := moves.place rfl
    rw [← List.append_assoc, Board.afterAll_append, earlier.afterAll rfl] at focused
    simpa using move.failedAttempt rfl reports focused
  · exact FailedAttempt.report

/-- What the ledger took is decided: it was confirmed, or an attempt failed for that. -/
lemma decided_of_taken (ran : d.Ran setup o turns result)
    (taken : d.board.receipts k turns ≠ []) : d.board.confirmations k turns ≠ [] ∨
      ∃ e ∈ d.board.failures k turns, e ≠ .cancelled := by
  obtain ⟨receipt, mem⟩ := List.exists_mem_of_ne_nil _ taken
  obtain ⟨before, u, after, split, told⟩ := Board.mem_gather.1 mem
  obtain ⟨focused, told⟩ := Option.ite_none_right_eq_some.1 told
  obtain ⟨signature, takes⟩ : ∃ signature, u.taken? = some signature := by
    simp only [Option.bind_eq_bind, Option.bind_eq_some_iff] at told
    obtain ⟨i, -, v, -, signature, takes, -⟩ := told
    exact ⟨signature, takes⟩
  obtain ⟨tx, x, rfl⟩ := Turn.eq_of_taken takes
  obtain ⟨tasks, work, -, -, ⟨-, stretch⟩ | ⟨-, rehearsing⟩⟩ :=
    (ran.placed rfl split).1.sending rfl trivial
  · obtain ⟨earlier, first, last, later, rfl, rfl, attempting⟩ := stretch
    obtain @⟨task, primary, index, number, v, b, _, r, b', -, -, focused', -, attempted⟩ :=
      attempting
    obtain ⟨_, between, _, _, _, rfl, -⟩ := attempted.place rfl rfl
    -- The whole attempt is made while its item is in work.
    have here := attempted.touched_within rfl (by simp) d.board earlier
    obtain rfl := Option.some.inj (focused'.symm.trans (here.currentIndex.symm.trans focused))
    obtain ⟨front, w, ends, begun, decides⟩ := attempted.decided (by simp) takes
    have there := (attempted.touched_within ends begun d.board earlier).currentIndex.trans focused'
    have whole : turns = earlier ++ front ++ w :: later := by
      have joined : turns = earlier ++ (front ++ [w]) ++ later := by
        rw [split, ← ends]
        simp
      simpa using joined
    rcases decides with ⟨s, confirms⟩ | ⟨e, reports, genuine⟩
    · refine .inl (List.ne_nil_of_mem (a := s) (Board.mem_gather.2 ⟨_, w, later, whole, ?_⟩))
      rw [Board.whileInWork, if_pos there, confirms]
    · refine .inr ⟨e, Board.mem_gather.2 ⟨_, w, later, whole, ?_⟩, genuine⟩
      rw [Board.whileInWork, if_pos there, reports]
  · cases rehearsing

/-- The verdict on an item of a plain run that ends with a board. -/
lemma verdict_at (ran : d.Ran setup o turns (.ok board)) (sound : d.Sound)
    (plain : o.dryRun = false) {i : Item} (found : board.items[k]? = some i) : ∃ refusal,
      (∀ e, SigningFailed setup o turns k e ↔ refusal = some e) ∧
      i.Verdict (∃ t ∈ turns, t.aborted = true) refusal (d.board.receipts k turns)
        (d.board.confirmations k turns) (d.board.failures k turns) := by
  have rest := ran.atRest.ended i (List.mem_of_getElem? found)
  have decided := ran.decided_of_taken (k := k)
  have aborted : ∀ {t}, t ∈ turns → t.tellsStop = true → ∃ u ∈ turns, u.aborted = true :=
    ran.exists_aborted sound
  have admits := ran.admits
  obtain ⟨x, us, outcome, b, vs, b', rfl, executed, concluded, moves, left⟩ := ran.moves
  obtain ⟨confirmations, failures⟩ :=
    told_of_concluded concluded d.board (⟨.publish Board.opened, (), x⟩ :: us) k
  rw [confirmations, failures] at decided ⊢
  cases concluded with
  | finished harmless cancelled y z w =>
      have known {i : Item} :=
        executed.judged (k := k) (i := i) plain harmless (admits_append.1 admits).1
      rw [Board.getElem?_closed] at found
      cases cancelled with
      | false =>
          obtain ⟨refusal, judged, refused⟩ := known found
          exact ⟨refusal, fun e => refused _ e, judged.verdict_ended rest⟩
      | true =>
          obtain ⟨j, listed, rfl⟩ := Option.map_eq_some_iff.1 found
          obtain ⟨refusal, judged, refused⟩ := known listed
          refine ⟨refusal, fun e => refused _ e, ?_⟩
          cases ended : j.status.isTerminal with
          | true =>
              rw [Item.skip, Item.stop_of_terminal ended] at rest ⊢
              exact judged.verdict_ended rest
          | false =>
              rw [Item.skip, Item.stop_of_not_terminal ended rfl]
              -- The work left the item, so nothing but the cancellation kept it.
              have kept : ∀ e ∈ d.board.failures k (⟨.publish Board.opened, (), x⟩ :: us),
                  e = .cancelled := by
                refine (left k).resolve_left fun h => ?_
                rw [h j listed] at ended
                cases ended
              have stopped := aborted (t := ⟨.stopped, true, y⟩) (by simp) rfl
              exact judged.verdict_skipped ended kept stopped decided

/-- **What becomes of an item.**  In a plain run that ends with a board, the end of every item can
be told from what happened to it.  It is confirmed if and only if the ledger confirmed it.  It
fails if and only if it was not confirmed and it has no signature or an attempt at it failed for
another reason than the cancellation, and it says why.  It is skipped if and only if the run was
cancelled and none of this was the case; what the ledger took is never skipped. -/
theorem verdict (ran : d.Ran setup o turns (.ok board)) (sound : d.Sound)
    (plain : o.dryRun = false) :
    (∀ (k : Nat) (i : Item), board.items[k]? = some i → ∃ refusal,
      (∀ e, SigningFailed setup o turns k e ↔ refusal = some e) ∧
      i.Verdict (∃ t ∈ turns, t.aborted = true) refusal (d.board.receipts k turns)
        (d.board.confirmations k turns) (d.board.failures k turns)) ∧
    ∀ k before t after e, turns = before ++ t :: after →
      (d.board.failures k (before ++ [t]) = d.board.failures k before ++ [e] ↔
        FailedAttempt setup o d.board k (before ++ [t]) e) := by
  refine ⟨fun k i found => ran.verdict_at sound plain found, ?_⟩
  exact fun k before t after e split => ran.failures_eq_iff split

/-- The small exit is cancelled during its simulation, and then its submission is not confirmed.
That is what its item shows, and not the cancellation. -/
theorem verdict_unconfirmed_after_abort :
    let lost : LedgerError := .unconfirmed "lost" 60000
    let world := Sample.world (fun _ => ⟨Sample.transaction [Sample.owner] 0, 100⟩) id
    let w := { world with
      answer := fun past c => match c with
        | .confirm .. => .error lost
        | c => world.answer past c }
    let turns := (w.play {} [] (Run.whole (Sample.setup true) Sample.options)).1
    ∃ i : Item, i.status = .error ∧ i.error = some (ExitError.ledger lost).describe ∧
      Board.receipts 0 {} turns ≠ [] ∧ ∃ refusal,
        i.Verdict (∃ t ∈ turns, t.aborted = true) refusal (Board.receipts 0 {} turns)
          (Board.confirmations 0 {} turns) (Board.failures 0 {} turns) := by
  intro lost world w turns
  have ends : (w.play {} [] (Run.whole (Sample.setup true) Sample.options)).2.toOption.bind
      (fun board => board.items[0]?.map fun i => (i.status, i.error)) =
        some (.error, some (ExitError.ledger lost).describe) := by
    decide +kernel
  have taken : (Board.receipts 0 {} turns).isEmpty = false := by decide +kernel
  obtain ⟨board, returned, listed⟩ := Option.bind_eq_some_iff.1 ends
  obtain ⟨i, found, shown⟩ := Option.map_eq_some_iff.1 listed
  obtain ⟨failed, reason⟩ := Prod.mk.inj shown
  have ran : ({} : Desk).Ran (Sample.setup true) Sample.options turns _ :=
    ran_play Sample.accepted w
  cases ended : (w.play {} [] (Run.whole (Sample.setup true) Sample.options)).2 with
  | error e => simp [ended, Except.toOption] at returned
  | ok board' =>
      obtain rfl : board' = board := by simpa [ended, Except.toOption] using returned
      rw [ended] at ran
      obtain ⟨refusal, -, holds⟩ := (ran.verdict sound_default rfl).1 0 i found
      exact ⟨i, failed, reason, by simpa using taken, refusal, holds⟩

end Ran

end Desk

end PoolExit
