import PoolExit.Proofs.Moving
import PoolExit.Proofs.Play

/-!
# What the items show

At any time the public record of an item is consistent (`Item.Kept`): the error, the submission and
its fee are there exactly where its status says so, and the submission is the last one that the
ledger took for this item, with the fee of the attempt in which it was made.  From board to board an
item only moves forward, and once it has ended nothing about it changes (`Item.Follows`).

Both are laws of a single move of an item, and closing a board is one more such move.  So they hold
on every board of every run (`Desk.Ran.items_kept`), also on the one that is shown when the run is
dropped at a call.
-/

namespace PoolExit

namespace Item

/-- The record of an item is consistent, and it shows the last submission that the ledger took. -/
structure Kept (receipts : List (Signature × UInt64)) (confirmations : List Signature) (i : Item) :
    Prop where
  error : i.error.isSome = true ↔ i.status = .error ∨ i.status = .skipped
  paired : i.submissionId.isSome = true ↔ i.feeLevel.isSome = true
  unsent : i.status = .pending ∨ i.status = .signed → i.submissionId = none ∧ i.feeLevel = none
  sent : i.status = .sent ∨ i.status = .confirmed →
    i.submissionId.isSome = true ∧ i.feeLevel.isSome = true ∧ 1 ≤ i.attempts
  attempts : i.attempts ≤ i.task.attempts.length
  submissionId : i.submissionId = receipts.getLast?.map fun r => r.1.text
  feeLevel : i.feeLevel = receipts.getLast?.map Prod.snd
  confirmed : i.status = .confirmed →
    ∃ signature ∈ confirmations, i.submissionId = some signature.text

/-- An item only moves forward, and where it has ended it stays as it is. -/
structure Follows (i j : Item) : Prop where
  task : j.task = i.task
  status : j.status = i.status ∨ i.status.canAdvanceTo j.status = true
  ended : i.status.isTerminal = true → j = i

variable {i j k : Item} {rs rs' : List (Signature × UInt64)} {cs cs' : List Signature}
  {dry : Bool} {fs fs' : List ExitError}

lemma Follows.refl (i : Item) : i.Follows i := ⟨rfl, .inl rfl, fun _ => rfl⟩

lemma Follows.trans (h : i.Follows j) (h' : j.Follows k) : i.Follows k where
  task := h'.task.trans h.task
  status := by
    rcases h'.status with same | moved
    · rw [same]
      exact h.status
    · rcases h.status with same | moved'
      · rw [same] at moved
        exact .inr moved
      · simp only [Status.canAdvanceTo, Bool.and_eq_true, decide_eq_true_eq] at moved moved' ⊢
        exact .inr ⟨moved'.1, moved'.2.trans moved.2⟩
  ended terminal := by
    have same := h.ended terminal
    rw [h'.ended (same ▸ terminal), same]

/-- Stopping an item is a step forward, or it had ended before. -/
lemma follows_stop (i : Item) {next : Status} (final : next.isTerminal = true) (reason : String) :
    i.Follows (i.stop next reason).2 := by
  cases goesOn : i.status.isTerminal with
  | true =>
      rw [stop_of_terminal goesOn]
      exact .refl i
  | false =>
      rw [stop_of_not_terminal goesOn final]
      refine ⟨rfl, .inr ?_, fun ended => by simp [goesOn] at ended⟩
      cases next <;> cases final <;> cases h : i.status <;>
        simp [Status.canAdvanceTo, Status.isTerminal, Status.rank, h] at goesOn ⊢

lemma Moved.follows (moved : i.Moved dry fs rs cs fs' j) : i.Follows j := by
  cases moved with
  | stayed | failed => exact .refl i
  | signed pending | refused reason pending =>
      subst pending
      exact ⟨rfl, .inr rfl, nofun⟩
  | begun ongoing left => exact ⟨rfl, .inl rfl, fun ended => by simp [ongoing.isTerminal] at ended⟩
  | taken signature ongoing begun underWay =>
      rw [submitted_of_ongoing ongoing]
      refine ⟨rfl, ?_, fun ended => by simp [ongoing.isTerminal] at ended⟩
      rcases ongoing with h | h
      · exact .inr (by rw [h]; rfl)
      · exact .inl h.symm
  | confirmed sent id level =>
      rw [landed_of_ongoing (.inr sent)]
      exact ⟨rfl, .inr (by rw [sent]; rfl), fun ended => by simp [sent, Status.isTerminal] at ended⟩
  | ended ongoing last => exact follows_stop i rfl _
  | rehearsed dryRun signed final =>
      rcases final with rfl | rfl <;> exact follows_stop i rfl _

/-- A pending item has nothing to show. -/
lemma kept_pending (task : Task) (cs : List Signature) : (pending task).Kept [] cs where
  error := by simp [pending]
  paired := by simp [pending]
  unsent := by simp [pending]
  sent := by simp [pending]
  attempts := Nat.zero_le _
  submissionId := rfl
  feeLevel := rfl
  confirmed := nofun

/-- An item that is stopped shows the reason beside what it showed before. -/
lemma Kept.stop (kept : i.Kept rs cs) {next : Status} (final : next = .skipped ∨ next = .error)
    (reason : String) : (i.stop next reason).2.Kept rs cs := by
  have terminal : next.isTerminal = true := by rcases final with rfl | rfl <;> rfl
  cases goesOn : i.status.isTerminal with
  | true => rwa [stop_of_terminal goesOn]
  | false =>
      rw [stop_of_not_terminal goesOn terminal]
      refine ⟨?_, kept.paired, ?_, ?_, kept.attempts, kept.submissionId, kept.feeLevel, ?_⟩ <;>
        rcases final with rfl | rfl <;> simp

lemma Kept.moved (kept : i.Kept rs cs) (moved : i.Moved dry fs rs' cs' fs' j) :
    j.Kept (rs ++ rs') (cs ++ cs') := by
  cases moved with
  | stayed | failed => simpa using kept
  | signed pending | refused reason pending =>
      subst pending
      rw [List.append_nil, List.append_nil]
      refine ⟨?_, ?_, ?_, ?_, Nat.zero_le _, kept.submissionId, kept.feeLevel, ?_⟩ <;>
        simp [Item.signed, Item.refused]
  | begun ongoing left =>
      rw [List.append_nil, List.append_nil]
      refine ⟨kept.error, kept.paired, kept.unsent, fun sent => ?_, left, kept.submissionId,
        kept.feeLevel, kept.confirmed⟩
      exact ⟨(kept.sent sent).1, (kept.sent sent).2.1, Nat.succ_pos _⟩
  | taken signature ongoing begun underWay =>
      have noError : i.error = none := by
        have error := kept.error
        rcases ongoing with h | h <;> simpa [h] using error
      rw [submitted_of_ongoing ongoing, List.append_nil]
      refine ⟨?_, ?_, ?_, fun _ => ⟨rfl, rfl, begun⟩, kept.attempts, ?_, ?_, ?_⟩ <;> simp [noError]
  | @confirmed signature fee sent id level =>
      have noError : i.error = none := by simpa [sent] using kept.error
      have begun := (kept.sent (.inl sent)).2.2
      rw [landed_of_ongoing (.inr sent), List.append_nil]
      refine ⟨?_, ?_, ?_, fun _ => ⟨rfl, rfl, begun⟩, kept.attempts,
        id.symm.trans kept.submissionId, level.symm.trans kept.feeLevel,
        fun _ => ⟨signature, by simp, rfl⟩⟩ <;> simp [noError]
  | @ended e ongoing last =>
      rw [List.append_nil, List.append_nil]
      exact kept.stop (.inr rfl) e.describe
  | rehearsed dryRun signed final => simpa using kept.stop final _

end Item

/-! ## Boards -/

namespace Board

/-- From one board to a later one of the same run every item only moves forward. -/
def Follows (b b' : Board) : Prop :=
  ∀ (k : Nat) (i : Item), b.items[k]? = some i → ∃ j, b'.items[k]? = some j ∧ i.Follows j

variable {b b' b'' : Board}

lemma Follows.refl (b : Board) : b.Follows b := fun _ i h => ⟨i, h, .refl i⟩

lemma Follows.trans (h : b.Follows b') (h' : b'.Follows b'') : b.Follows b'' := by
  intro k i found
  obtain ⟨j, found', first⟩ := h k i found
  obtain ⟨l, found'', second⟩ := h' k j found'
  exact ⟨l, found'', first.trans second⟩

/-- Every item is kept: it shows what the ledger took for it. -/
structure Kept (start b : Board) (past : List Turn) : Prop where
  items : ∀ (k : Nat) (i : Item), b.items[k]? = some i →
    i.Kept (start.receipts k past) (start.confirmations k past)
  unlisted : ∀ k : Nat, b.items[k]? = none → start.receipts k past = []

/-- The items of a board that is closed are stopped, if the run was cancelled. -/
lemma getElem?_closed (b : Board) (error : Option String) (cancelled : Bool) (k : Nat) :
    (b.closed error cancelled).items[k]? =
      if cancelled then b.items[k]?.map fun i => (i.skip cancelledReason).2 else b.items[k]? := by
  cases cancelled <;> simp [closed]

lemma follows_closed (b : Board) (error : Option String) (cancelled : Bool) :
    b.Follows (b.closed error cancelled) := by
  intro k i found
  rw [getElem?_closed, found]
  cases cancelled with
  | false => exact ⟨i, rfl, .refl i⟩
  | true => exact ⟨_, rfl, Item.follows_stop i rfl _⟩

lemma Kept.closed {start : Board} {past : List Turn} (kept : Kept start b past)
    (error : Option String) (cancelled : Bool) : Kept start (b.closed error cancelled) past where
  items k j found := by
    rw [getElem?_closed] at found
    cases cancelled with
    | false => exact kept.items k j found
    | true =>
        obtain ⟨i, found', rfl⟩ := Option.map_eq_some_iff.1 found
        exact (kept.items k i found').stop (.inl rfl) _
  unlisted k none := by
    refine kept.unlisted k ?_
    rw [getElem?_closed] at none
    cases cancelled <;> simpa using none

end Board

namespace Run

variable {setup : Setup} {o : Options} {start b b' : Board} {past ts us : List Turn}

lemma Move.follows (move : Move setup o start b past us b') : b.Follows b' := by
  intro k i found
  obtain ⟨j, found', moved⟩ := move.item k i found
  exact ⟨j, found', moved.follows⟩

lemma Moves.follows (moves : Moves setup o start b past ts b') : b.Follows b' := by
  induction moves with
  | done => exact .refl _
  | step move rest ih => exact move.follows.trans ih

/-- The ledger takes nothing for an item that is not there. -/
lemma Move.receipts_of_unlisted (move : Move setup o start b past us b') {k : Nat}
    (unlisted : b.items[k]? = none) : b.receipts k us = [] := by
  cases move <;>
    simp [Board.receipts, Board.whileInWork, unlisted, Board.next, Step.board?, Turn.taken?]

/-- Items come onto the board as pending ones. -/
lemma Move.pending_of_unlisted (move : Move setup o start b past us b') {k : Nat} {j : Item}
    (unlisted : b.items[k]? = none) (found : b'.items[k]? = some j) :
    ∃ task, j = .pending task := by
  have stays : ∀ {k₀ : Nat} {change : Item → Item},
      (b.update k₀ change).items[k]? ≠ some j := by
    intro k₀ change
    rw [Board.getElem?_update, unlisted]
    simp
  cases move with
  | planned ordered x fresh idle =>
      obtain ⟨task, -, rfl⟩ := Option.map_eq_some_iff.1 (List.getElem?_map.symm.trans found)
      exact ⟨task, rfl⟩
  | plain | idle | focused | failed =>
      have absent := unlisted.symm.trans found
      cases absent
  | _ => exact absurd found stays

lemma Move.kept (move : Move setup o start b past us b') (here : start.afterAll past = b)
    (kept : Board.Kept start b past) : Board.Kept start b' (past ++ us) := by
  have unlisted : ∀ k, b.items[k]? = none → start.receipts k (past ++ us) = [] := by
    intro k none
    rw [Board.receipts_append, kept.unlisted k none, here, move.receipts_of_unlisted none]
    rfl
  constructor
  · intro k j found
    cases before : b.items[k]? with
    | some i =>
        obtain ⟨j', found', moved⟩ := move.item k i before
        obtain rfl := Option.some.inj (found'.symm.trans found)
        rw [Board.receipts_append, Board.confirmations_append, here]
        exact (kept.items k i before).moved moved
    | none =>
        obtain ⟨task, rfl⟩ := move.pending_of_unlisted before found
        rw [unlisted k before]
        exact Item.kept_pending task _
  · intro k none
    refine unlisted k (Option.eq_none_iff_forall_ne_some.2 fun i before => ?_)
    obtain ⟨j, found, -⟩ := move.follows k i before
    rw [none] at found
    cases found

lemma Moves.kept (moves : Moves setup o start b past ts b') (here : start.afterAll past = b)
    (kept : Board.Kept start b past) : Board.Kept start b' (past ++ ts) :=
  moves.keeps (I := fun b past => Board.Kept start b past)
    (fun here kept move => move.kept here kept) here kept

end Run

/-! ## Runs -/

namespace Board.Kept

variable {start b : Board} {past ts : List Turn}

/-- Turns by which the ledger takes and confirms nothing change nothing. -/
lemma congr (kept : Board.Kept start b past) (untaken : ∀ t ∈ ts, t.taken? = none)
    (unconfirmed : ∀ t ∈ ts, t.confirmed? = none) : Board.Kept start b (past ++ ts) where
  items k i found := by
    rw [receipts_append, confirmations_append, receipts_of_untaken untaken,
      confirmations_of_unconfirmed unconfirmed, List.append_nil, List.append_nil]
    exact kept.items k i found
  unlisted k none := by
    rw [receipts_append, receipts_of_untaken untaken, kept.unlisted k none, List.append_nil]

lemma of_append (kept : Board.Kept start b (past ++ ts)) (untaken : ∀ t ∈ ts, t.taken? = none)
    (unconfirmed : ∀ t ∈ ts, t.confirmed? = none) : Board.Kept start b past where
  items k i found := by
    have whole := kept.items k i found
    rwa [receipts_append, confirmations_append, receipts_of_untaken untaken,
      confirmations_of_unconfirmed unconfirmed, List.append_nil, List.append_nil] at whole
  unlisted k none := by
    have whole := kept.unlisted k none
    rwa [receipts_append, receipts_of_untaken untaken, List.append_nil] at whole

end Board.Kept

namespace Run

variable {setup : Setup} {o : Options} {start b b' b'' c : Board} {past ts us vs : List Turn}
  {outcome : Except ExitError Unit} {result : Except ExitError Board}

/-- The end of a run shows one board, the closed one, and only the token is looked at before. -/
lemma Concluded.shown (concluded : Concluded b outcome vs result b') {before after : List Turn}
    {t : Turn} (shows : t.step.board? = some c) (split : vs = before ++ t :: after) :
    (∃ error cancelled, c = b.closed error cancelled) ∧ ∀ u ∈ before, u.Plain := by
  cases concluded with
  | finished harmless cancelled x y z =>
      obtain ⟨rfl, rfl, -⟩ := place_unique (P := fun t => t.step.board? = some c) [_] [_] shows
        (by simp [Step.board?]) (by simp [Step.board?]) split
      exact ⟨⟨_, _, (Option.some.inj shows).symm⟩, by simp⟩
  | givenUp harmful cancelled x y z =>
      obtain ⟨rfl, rfl, -⟩ := place_unique (P := fun t => t.step.board? = some c) [_, _] [] shows
        (by simp [Step.board?]) (by simp) split
      exact ⟨⟨_, _, (Option.some.inj shows).symm⟩, by simpa using Turn.plain_note rfl⟩

/-- From a place between two moves on, every board that is shown follows and is kept. -/
lemma Moves.shown (moves : Moves setup o start b past us b')
    (concluded : Concluded b' outcome vs result b'') (here : start.afterAll past = b)
    (kept : Board.Kept start b past) {before after : List Turn} {t : Turn}
    (shows : t.step.board? = some c) (split : us ++ vs = before ++ t :: after) :
    Board.Kept start c (past ++ before) ∧ b.Follows c := by
  rcases place_cases split with ⟨between, rfl, rfl⟩ | ⟨between, rfl, rfl⟩
  · obtain ⟨first, first', last', last, b₁, b₂, rfl, rfl, earlier, move, -⟩ := moves.place rfl
    obtain ⟨rfl, rfl⟩ := move.last_of_shown shows rfl
    have kept' := move.kept (earlier.afterAll here)
      (earlier.kept here kept)
    refine ⟨?_, earlier.follows.trans move.follows⟩
    rw [← List.append_assoc] at kept' ⊢
    obtain ⟨untaken, unconfirmed, -⟩ := Turn.untold_of_shown shows
    exact kept'.of_append (List.forall_mem_singleton.2 untaken)
      (List.forall_mem_singleton.2 unconfirmed)
  · obtain ⟨⟨error, cancelled, rfl⟩, plain⟩ := concluded.shown shows rfl
    refine ⟨?_, moves.follows.trans (b'.follows_closed error cancelled)⟩
    rw [← List.append_assoc]
    exact ((moves.kept here kept).congr (fun t ht => (plain t ht).untaken)
      fun t ht => (plain t ht).unconfirmed).closed error cancelled

/-- From a place between two moves on, the board at every call follows and is kept. -/
lemma Moves.calling (moves : Moves setup o start b past us b')
    (here : start.afterAll past = b) (kept : Board.Kept start b past) {before after : List Turn}
    {t : Turn} {call : Call} (calls : t.step.call? = some call)
    (split : us = before ++ t :: after) :
    Board.Kept start (start.afterAll (past ++ before)) (past ++ before) ∧
      b.Follows (start.afterAll (past ++ before)) := by
  obtain ⟨b₁, earlier, -⟩ := moves.cut calls split
  rw [earlier.afterAll here]
  exact ⟨earlier.kept here kept, earlier.follows⟩

end Run

namespace Desk

variable {d : Desk} {setup : Setup} {o : Options} {turns : List Turn}
  {result : Except ExitError Board}

/-- A board that is shown after the turns `before`: one of the boards of the run, or the one that is
shown when the run is dropped at a call. -/
inductive Snapshot (d : Desk) (turns : List Turn) : List Turn → Board → Prop
  | shown {before board x after} (split : turns = before ++ ⟨.publish board, (), x⟩ :: after) :
      Snapshot d turns before board
  | dropped {before u c after} (split : turns = before ++ u :: after)
      (calls : u.step.call? = some c) : Snapshot d turns before (d.afterAll before).drop.board

lemma Snapshot.place {before : List Turn} {board : Board}
    (snapshot : d.Snapshot turns before board) :
    ∃ t after, turns = before ++ t :: after ∧
      ((∃ c, t.step.board? = some c) ∨ ∃ c, t.step.call? = some c) := by
  cases snapshot with
  | shown split => exact ⟨_, _, split, .inl ⟨board, rfl⟩⟩
  | dropped split calls => exact ⟨_, _, split, .inr ⟨_, calls⟩⟩

lemma Snapshot.of_shown {before after : List Turn} {t : Turn} {board : Board}
    (split : turns = before ++ t :: after) (shows : t.step.board? = some board) :
    d.Snapshot turns before board := by
  obtain ⟨step, answer, x⟩ := t
  cases step with
  | publish b =>
      obtain rfl := Option.some.inj shows
      exact .shown split
  | call | race | stopped | note => cases shows

lemma board_drop (e : Desk) : e.drop.board = e.board ∨
    e.drop.board = e.board.closed (some droppedReason) true := by
  unfold drop
  split
  · exact .inr rfl
  · exact .inl rfl

namespace Ran

open Run

/-- From a place between two moves on, every snapshot follows and is kept. -/
lemma snapshot_of_moves {b b' b'' c : Board} {past us vs before : List Turn}
    {outcome : Except ExitError Unit} (moves : Moves setup o d.board b past us b')
    (concluded : Concluded b' outcome vs result b'') (here : d.board.afterAll past = b)
    (kept : Board.Kept d.board b past)
    (snapshot : d.Snapshot (past ++ (us ++ vs)) (past ++ before) c) :
    Board.Kept d.board c (past ++ before) ∧ b.Follows c := by
  cases snapshot with
  | shown split =>
      rw [List.append_assoc] at split
      exact moves.shown concluded here kept rfl (List.append_cancel_left split)
  | @dropped u call after split calls =>
      rw [List.append_assoc] at split
      have ends : ∀ t ∈ vs, ¬ t.step.call? = some call := fun t ht => by
        simp [callless_of_concluded concluded t ht]
      obtain ⟨last, rfl, rfl⟩ := place_of_append_left (P := fun u => u.step.call? = some call) calls
        ends (List.append_cancel_left split)
      obtain ⟨kept', follows⟩ := moves.calling here kept calls rfl
      rw [← Desk.board_afterAll_eq] at kept' follows
      rcases board_drop (d.afterAll (past ++ before)) with same | same
      · rw [same]
        exact ⟨kept', follows⟩
      · rw [same]
        exact ⟨kept'.closed _ _, follows.trans (Board.follows_closed _ _ _)⟩

/-- The first board of a run has no items. -/
lemma kept_opened (d : Desk) (x : Bool) :
    Board.Kept d.board Board.opened [⟨.publish Board.opened, (), x⟩] where
  items k i found := by simp [Board.opened] at found
  unlisted k _ := Board.receipts_of_untaken (by simp [Turn.taken?])

/-- The record of every item is consistent on every snapshot. -/
lemma kept_of_snapshot (ran : d.Ran setup o turns result) {before : List Turn} {board : Board}
    (snapshot : d.Snapshot turns before board) {k : Nat} {i : Item}
    (found : board.items[k]? = some i) :
    i.Kept (d.board.receipts k before) (d.board.confirmations k before) := by
  obtain ⟨x, us, outcome, b, vs, b', rfl, -, concluded, moves, -⟩ := ran.moves
  have starts := kept_opened d x
  obtain ⟨t, after, split, -⟩ := snapshot.place
  cases before with
  | nil =>
      obtain ⟨rfl, -⟩ := List.cons.inj split
      cases snapshot with
      | shown split =>
          obtain ⟨same, -⟩ := List.cons.inj split
          cases same
          simp [Board.opened] at found
      | dropped split calls =>
          obtain ⟨rfl, -⟩ := List.cons.inj split
          cases calls
  | cons u before =>
      obtain ⟨rfl, -⟩ := List.cons.inj split
      exact (snapshot_of_moves moves concluded rfl starts snapshot).1.items k i found

/-- Every snapshot follows the boards that are shown before it. -/
lemma follows_of_snapshot (ran : d.Ran setup o turns result) {before between : List Turn}
    {board next : Board} {y : Bool}
    (snapshot : d.Snapshot turns (before ++ ⟨.publish board, (), y⟩ :: between) next) :
    board.Follows next := by
  obtain ⟨x, us, outcome, b, vs, b', rfl, -, concluded, moves, -⟩ := ran.moves
  have starts := kept_opened d x
  obtain ⟨t, after, split, tells⟩ := snapshot.place
  cases before with
  | nil =>
      obtain ⟨same, -⟩ := List.cons.inj split
      cases same
      intro k i found
      simp [Board.opened] at found
  | cons u before =>
      have rest : us ++ vs = before ++ ⟨.publish board, (), y⟩ :: (between ++ t :: after) := by
        simpa using (List.cons.inj split).2
      obtain ⟨rfl, -⟩ := List.cons.inj split
      rcases place_cases rest with ⟨last, same, rfl⟩ | ⟨first, rfl, rfl⟩
      · obtain ⟨first, first', last', last, b₁, b₂, rfl, rfl, earlier, move, later⟩ :=
          moves.place rfl
        obtain ⟨rfl, rfl⟩ := move.last_of_shown rfl rfl
        have there : d.board.afterAll ([⟨.publish Board.opened, (), x⟩] ++ first) = b₁ := by
          exact earlier.afterAll rfl
        have kept := move.kept there (earlier.kept rfl starts)
        have here : d.board.afterAll ([⟨.publish Board.opened, (), x⟩] ++ first ++
            (first' ++ [⟨.publish b₂, (), y⟩])) = b₂ := by
          exact move.moves.afterAll there
        exact (snapshot_of_moves later concluded here kept (by simpa using snapshot)).2
      · -- Behind the last board of a run there is no snapshot.
        rcases tells with ⟨c, shows⟩ | ⟨c, calls⟩
        · have split : first ++ ⟨.publish board, (), y⟩ :: (between ++ t :: after) =
              (first ++ ⟨.publish board, (), y⟩ :: between) ++ t :: after := by simp
          have plain := (concluded.shown shows split).2
          have silent := (plain ⟨.publish board, (), y⟩ (by simp)).silent
          cases silent
        · have callless := callless_of_concluded concluded t (by simp)
          rw [calls] at callless
          cases callless

/-- **What the items show.**  On every board that a run shows, and on the one that is shown when it
is dropped at a call, the record of every item is consistent and tells of the last submission that
the ledger took for it.  From each board of the run to every later one the items only move forward,
and an item that has ended stays as it is. -/
theorem items_kept (ran : d.Ran setup o turns result) :
    (∀ before board, d.Snapshot turns before board → ∀ (k : Nat) (i : Item),
      board.items[k]? = some i →
        i.Kept (d.board.receipts k before) (d.board.confirmations k before)) ∧
    ∀ before board x between next,
      d.Snapshot turns (before ++ ⟨.publish board, (), x⟩ :: between) next →
        board.Follows next := by
  refine ⟨fun before board snapshot k i found => ran.kept_of_snapshot snapshot found, ?_⟩
  exact fun before board x between next snapshot => ran.follows_of_snapshot snapshot

/-- The item of the small exit is kept when it has been confirmed. -/
theorem items_kept_confirmed :
    let w := Sample.world (fun _ => ⟨Sample.transaction [Sample.owner] 0, 100⟩) id
    let turns := (w.play {} [] (Run.whole (Sample.setup false) Sample.options)).1
    ∃ before board i, Snapshot {} turns before board ∧ board.items[0]? = some i ∧
      i.status = .confirmed ∧
      i.Kept (Board.receipts 0 {} before) (Board.confirmations 0 {} before) := by
  intro w turns
  have confirmed : turns[25]?.bind (fun t => t.step.board?.bind fun board =>
      board.items[0]?.map Item.status) = some .confirmed := by
    decide +kernel
  obtain ⟨t, taken, shown⟩ := Option.bind_eq_some_iff.1 confirmed
  obtain ⟨board, shows, listed⟩ := Option.bind_eq_some_iff.1 shown
  obtain ⟨i, found, ended⟩ := Option.map_eq_some_iff.1 listed
  obtain ⟨inside, rfl⟩ := List.getElem?_eq_some_iff.1 taken
  have split : turns = turns.take 25 ++ turns[25] :: turns.drop 26 := by simp
  have snapshot := Snapshot.of_shown (d := {}) split shows
  exact ⟨_, board, i, snapshot, found, ended,
    (items_kept (ran_play Sample.accepted w)).1 _ board snapshot 0 i found⟩

end Ran

end Desk

end PoolExit
