import PoolExit.Proofs.Moving
import PoolExit.Proofs.Play
import PoolExit.Proofs.Vouching

/-!
# One item at a time

A run works on its items in the order of the plan.  At any time the items before the one in work
have ended, those behind it have not been tried, and the one in work is the only one that may wait
for a confirmation (`Board.OneInWork`).  This is a law of a single move (`Board.InTurn`): the run
turns to an item only when all items before it have ended, and then changes no other.

So the submissions come in the order of the plan, and as the plan has the claims of a pool before
its withdrawals, all claims of a pool have ended when a withdrawal from it is submitted
(`Desk.Ran.one_at_a_time`).
-/

namespace PoolExit

open Planning (ClaimsLead)

namespace Board

/-- The item at the place `k` is in work: what comes before it has ended, what comes behind it has
not been tried, and no other item waits for a confirmation. -/
structure OneInWork (b : Board) (k : Nat) : Prop where
  earlier : ∀ j < k, b.Ended j
  later : ∀ (j : Nat) (i : Item), k < j → b.items[j]? = some i →
    i.attempts = 0 ∧ i.submissionId = none
  sent : ∀ (j : Nat) (i : Item), b.items[j]? = some i → i.status = .sent → j = k

/-- The items are worked on one after the other, in an order in which no claim comes after a
withdrawal from the same pool. -/
structure InTurn (b : Board) : Prop where
  ordered : ClaimsLead b.tasks
  earlier : ∀ k, b.currentIndex = some k → ∀ j < k, b.Ended j
  later : ∀ (j : Nat) (i : Item), (∀ k, b.currentIndex = some k → k < j) →
    b.items[j]? = some i → i.attempts = 0 ∧ i.submissionId = none ∧ i.status ≠ .sent

variable {b b' : Board} {k : Nat} {change : Item → Item}

lemma InTurn.oneInWork (holds : b.InTurn) (focused : b.currentIndex = some k) :
    b.OneInWork k where
  earlier := holds.earlier k focused
  later j i behind found := by
    obtain ⟨attempts, submissionId, -⟩ := holds.later j i (by simpa [focused] using behind) found
    exact ⟨attempts, submissionId⟩
  sent j i found sent := by
    rcases Nat.lt_trichotomy j k with before | same | behind
    · have ended := holds.earlier k focused j before i found
      simp [sent, Status.isTerminal] at ended
    · exact same
    · exact absurd sent (holds.later j i (by simpa [focused] using behind) found).2.2

/-- The item in work may change. -/
lemma InTurn.update (holds : b.InTurn) (focused : b.currentIndex = some k)
    (onward : ∀ i, Item.Onward i (change i)) : (b.update k change).InTurn where
  ordered := by
    rw [(onward_update onward).tasks]
    exact holds.ordered
  earlier j focused' l before := (onward_update onward).ended (holds.earlier j focused' l before)
  later j i behind found := by
    have ne : k ≠ j := Nat.ne_of_lt (behind k focused)
    rw [getElem?_update, if_neg ne] at found
    exact holds.later j i behind found

/-- Before the work begins an item may change, as long as it is not tried. -/
lemma InTurn.update_idle (holds : b.InTurn) (idle : b.currentIndex = none)
    (onward : ∀ i, Item.Onward i (change i)) {i : Item} (found : b.items[k]? = some i)
    (untried : (change i).attempts = 0 ∧ (change i).submissionId = none ∧
      (change i).status ≠ .sent) : (b.update k change).InTurn where
  ordered := by
    rw [(onward_update onward).tasks]
    exact holds.ordered
  earlier j focused := absurd focused (by simp [Board.update, idle])
  later j i' behind found' := by
    rw [getElem?_update] at found'
    split at found'
    next here =>
      subst here
      rw [found] at found'
      obtain rfl := Option.some.inj found'
      exact untried
    next => exact holds.later j i' behind found'

lemma InTurn.focus (holds : b.InTurn) (later : ∀ j, b.currentIndex = some j → j < k)
    (ended : ∀ j < k, b.Ended j) : (b.focus k).InTurn where
  ordered := holds.ordered
  earlier j focused := by
    obtain rfl := Option.some.inj focused
    exact ended
  later j i behind found :=
    holds.later j i (fun l focused => (later l focused).trans (behind k rfl)) found

lemma inTurn_opened : Board.opened.InTurn where
  ordered := .nil
  earlier k focused := by cases focused
  later j i _ found := by simp [opened] at found

lemma inTurn_planned {tasks : List Task} (ordered : ClaimsLead tasks)
    (idle : b.currentIndex = none) : (b.planned tasks).InTurn where
  ordered := by rwa [Run.tasks_planned]
  earlier k focused := absurd focused (by simp [planned, idle])
  later j i _ found := by
    obtain ⟨task, -, rfl⟩ := Option.map_eq_some_iff.1 (List.getElem?_map.symm.trans found)
    exact ⟨rfl, rfl, by simp [Item.pending]⟩

/-- At a withdrawal all claims of the same pool have ended. -/
lemma InTurn.claims_ended (holds : b.InTurn) (focused : b.currentIndex = some k) {i : Item}
    (found : b.items[k]? = some i) (withdraws : i.task.kind = .withdraw) {j : Nat} {i' : Item}
    (found' : b.items[j]? = some i') (claims : i'.task.kind = .claim)
    (pool : i'.task.poolKey = i.task.poolKey) : i'.status.isTerminal = true := by
  rcases Nat.lt_trichotomy j k with before | rfl | behind
  · exact holds.earlier k focused j before i' found'
  · obtain rfl := Option.some.inj (found'.symm.trans found)
    rw [withdraws] at claims
    cases claims
  · have ordered := List.pairwise_iff_getElem.1 holds.ordered k j
    obtain ⟨inside, rfl⟩ := List.getElem?_eq_some_iff.1 found
    obtain ⟨inside', rfl⟩ := List.getElem?_eq_some_iff.1 found'
    refine absurd ⟨?_, ?_⟩ (ordered (by simpa [tasks] using inside)
      (by simpa [tasks] using inside') behind ?_)
    · simpa [tasks] using pool.symm
    · simpa [tasks] using withdraws
    · simpa [tasks] using claims

end Board

namespace Run

variable {setup : Setup} {o : Options} {start b b' : Board} {past ts us : List Turn}

lemma Move.inTurn (move : Move setup o start b past us b') (holds : b.InTurn) : b'.InTurn := by
  cases move with
  | plain | idle | failed => exact holds
  | planned ordered x fresh idle => exact Board.inTurn_planned ordered idle
  | signed idle found x =>
      exact holds.update_idle idle (fun i => i.onward_advance _) found ⟨rfl, rfl, nofun⟩
  | refused idle found reason x =>
      exact holds.update_idle idle (fun i => i.onward_stop _ _) found ⟨rfl, rfl, nofun⟩
  | focused found later ended x => exact holds.focus later ended
  | begun focused => exact holds.update focused Item.onward_attempted
  | taken focused => exact holds.update focused fun i => i.onward_submitted _ _
  | confirmed focused => exact holds.update focused fun i => i.onward_landed _ _
  | ended focused | rehearsed _ focused => exact holds.update focused fun i => i.onward_stop _ _

lemma Moves.inTurn (moves : Moves setup o start b past ts b') (holds : b.InTurn) : b'.InTurn := by
  induction moves with
  | done => exact holds
  | step move rest ih => exact ih (move.inTurn holds)

/-- The run never turns back to an earlier item. -/
lemma Move.turns_on (move : Move setup o start b past us b') {k : Nat}
    (focused : b.currentIndex = some k) : ∃ k', b'.currentIndex = some k' ∧ k ≤ k' := by
  cases move with
  | planned _ _ _ idle | signed idle | refused idle =>
      rw [idle] at focused
      cases focused
  | focused _ later => exact ⟨_, rfl, Nat.le_of_lt (later k focused)⟩
  | _ => exact ⟨k, focused, Nat.le_refl k⟩

lemma Moves.turns_on (moves : Moves setup o start b past ts b') {k : Nat}
    (focused : b.currentIndex = some k) : ∃ k', b'.currentIndex = some k' ∧ k ≤ k' := by
  induction moves generalizing k with
  | done => exact ⟨k, focused, Nat.le_refl k⟩
  | step move rest ih =>
      obtain ⟨k₁, focused₁, le⟩ := move.turns_on focused
      obtain ⟨k', focused', le'⟩ := ih focused₁
      exact ⟨k', focused', le.trans le'⟩

end Run

namespace Desk

open Run

/-- After the turns `before` the run makes the call. -/
def CallAt (turns before : List Turn) (c : Call) : Prop :=
  ∃ u after, turns = before ++ u :: after ∧ u.step.call? = some c

variable {d : Desk} {setup : Setup} {o : Options} {turns before between : List Turn}
  {result : Except ExitError Board} {c : Call}

lemma callAt_of_getElem? {n : Nat} {u : Turn} (taken : turns[n]? = some u)
    (calls : u.step.call? = some c) : CallAt turns (turns.take n) c := by
  obtain ⟨inside, rfl⟩ := List.getElem?_eq_some_iff.1 taken
  exact ⟨turns[n], turns.drop (n + 1), by simp, calls⟩

namespace Ran

/-- A run comes to each of its calls in moves. -/
lemma moves_to_call (ran : d.Ran setup o turns result) (call : CallAt turns before c) :
    ∃ x us, before = ⟨.publish Board.opened, (), x⟩ :: us ∧
      Moves setup o d.board Board.opened [⟨.publish Board.opened, (), x⟩] us
        (d.afterAll before).board := by
  obtain ⟨u, after, split, calls⟩ := call
  obtain ⟨x, us, outcome, b, vs, b', rfl, -, concluded, moves, -⟩ := ran.moves
  have ends : ∀ t ∈ vs, ¬ t.step.call? = some c := fun t ht => by
    simp [callless_of_concluded concluded t ht]
  obtain ⟨first, last, rfl, rfl, rfl⟩ := place_between (P := fun u => u.step.call? = some c)
    [_] us vs calls (by simp [Step.call?]) ends split
  obtain ⟨b₁, earlier, -⟩ := moves.cut calls rfl
  refine ⟨x, first, rfl, ?_⟩
  rw [board_afterAll_eq, Board.afterAll_append]
  exact earlier.board ▸ earlier

/-- From one call to a later one the run does not turn back to an earlier item. -/
lemma turns_on (ran : d.Ran setup o turns result) {c' : Call} (call : CallAt turns before c)
    (call' : CallAt turns (before ++ between) c') {k : Nat}
    (focused : (d.afterAll before).board.currentIndex = some k) :
    ∃ k', (d.afterAll (before ++ between)).board.currentIndex = some k' ∧ k ≤ k' := by
  cases between with
  | nil => exact ⟨k, by simpa using focused, Nat.le_refl k⟩
  | cons u between =>
      obtain ⟨u', after, split, calls⟩ := call
      obtain ⟨x, us, same, moves⟩ := ran.moves_to_call call'
      obtain ⟨w, after', split', -⟩ := call'
      obtain rfl : u = u' := by
        rw [split', List.append_assoc] at split
        exact (List.cons.inj (List.append_cancel_left split)).1
      cases before with
      | nil =>
          obtain ⟨rfl, -⟩ := List.cons.inj same
          cases calls
      | cons p vs =>
          obtain ⟨rfl, rfl⟩ := List.cons.inj same
          obtain ⟨b₁, earlier, later⟩ := moves.cut calls rfl
          rw [board_afterAll_eq] at focused
          exact later.turns_on (earlier.board ▸ focused)

/-- Whenever something is sent to the ledger, an item is in work. -/
lemma exists_item_in_work (ran : d.Ran setup o turns result) (call : CallAt turns before c)
    (sends : Sends c) : ∃ k i, (d.afterAll before).board.currentIndex = some k ∧
      (d.afterAll before).board.items[k]? = some i := by
  obtain ⟨u, after, split, calls⟩ := call
  obtain ⟨tasks, work, -, inLine, ⟨-, stretch⟩ | ⟨-, rehearsing⟩⟩ :=
    (ran.placed calls split).1.sending calls sends
  · obtain ⟨earlier, first, last, later, rfl, rfl, attempting⟩ := stretch
    obtain @⟨task, primary, k, number, v, b, _, r, b', mem, variant, focused, planned,
      attempted⟩ := attempting
    obtain ⟨x, between, _, _, _, rfl, -⟩ := attempted.place calls rfl
    have touched := attempted.touched_within rfl (by simp) d.board earlier
    rw [← board_afterAll_eq] at touched
    obtain ⟨i, found, -⟩ := exists_item (touched.tasks.trans planned) (inLine mem).1
    exact ⟨k, i, touched.currentIndex.trans focused, found⟩
  · obtain @⟨task, primary, k, board, earlier, x, answer, y, mem, focused, planned⟩ := rehearsing
    have shown : (d.afterAll (earlier ++ [⟨.publish board, (), x⟩])).board = board :=
      board_afterAll_of_shown (by simp)
    obtain ⟨i, found, -⟩ := exists_item planned (inLine mem).1
    exact ⟨k, i, by rw [shown, focused], by rw [shown, found]⟩

/-- **One item at a time.**  At every call that a run makes while an item is in work, all items
before it have ended, those behind it have not been tried, and none but this one waits for a
confirmation.  The submissions are made for items in work, in the order of the plan; when a
withdrawal is submitted, all claims of the same pool have ended. -/
theorem one_at_a_time (ran : d.Ran setup o turns result) :
    (∀ before c k, CallAt turns before c → (d.afterAll before).board.currentIndex = some k →
      (d.afterAll before).board.OneInWork k) ∧
    (∀ before between t t', CallAt turns before (.submit t) →
      CallAt turns (before ++ between) (.submit t') →
      ∃ k k', (d.afterAll before).board.currentIndex = some k ∧
        (d.afterAll (before ++ between)).board.currentIndex = some k' ∧ k ≤ k') ∧
    ∀ before t, CallAt turns before (.submit t) →
      ∃ k i, (d.afterAll before).board.currentIndex = some k ∧
        (d.afterAll before).board.items[k]? = some i ∧
        (i.task.kind = .withdraw → ∀ i' ∈ (d.afterAll before).board.items,
          i'.task.kind = .claim → i'.task.poolKey = i.task.poolKey →
            i'.status.isTerminal = true) := by
  refine ⟨?_, ?_, ?_⟩
  · intro before c k call focused
    obtain ⟨x, us, -, moves⟩ := ran.moves_to_call call
    exact (moves.inTurn Board.inTurn_opened).oneInWork focused
  · intro before between t t' call call'
    obtain ⟨k, i, focused, -⟩ := ran.exists_item_in_work call trivial
    obtain ⟨k', focused', le⟩ := ran.turns_on call call' focused
    exact ⟨k, k', focused, focused', le⟩
  · intro before t call
    obtain ⟨k, i, focused, found⟩ := ran.exists_item_in_work call trivial
    obtain ⟨x, us, -, moves⟩ := ran.moves_to_call call
    refine ⟨k, i, focused, found, fun withdraws i' mem claims pool => ?_⟩
    obtain ⟨j, found'⟩ := List.mem_iff_getElem?.1 mem
    exact (moves.inTurn Board.inTurn_opened).claims_ended focused found withdraws found' claims pool

/-- Where the small exit has liquidity to withdraw too, its second item is the one in work at the
second submission. -/
theorem one_at_a_time_withdrawing :
    let setup := { Sample.setup false with
      adapters := [⟨.feeVault, fun _ => .ok { Sample.position with liquidity := 1 }⟩] }
    let o := { Sample.options with includeWithdrawals := true }
    let w := Sample.world (fun _ => ⟨Sample.transaction [Sample.owner] 0, 100⟩) id
    let turns := (w.play {} [] (Run.whole setup o)).1
    ∃ before tx, CallAt turns before (.submit tx) ∧
      (({} : Desk).afterAll before).board.currentIndex = some 1 ∧
      (({} : Desk).afterAll before).board.OneInWork 1 := by
  intro setup o w turns
  have submits : (turns[34]?.bind Turn.taken?).isSome = true := by decide +kernel
  have focused : (({} : Desk).afterAll (turns.take 34)).board.currentIndex = some 1 := by
    decide +kernel
  obtain ⟨signature, took⟩ := Option.isSome_iff_exists.1 submits
  obtain ⟨u, taken, took⟩ := Option.bind_eq_some_iff.1 took
  obtain ⟨tx, x, rfl⟩ := Turn.eq_of_taken took
  have call := callAt_of_getElem? taken rfl
  exact ⟨_, tx, call, focused, (one_at_a_time (ran_play rfl w)).1 _ _ 1 call focused⟩

end Ran

end Desk

end PoolExit
