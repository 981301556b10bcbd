import PoolExit.Proofs.Play
import PoolExit.Proofs.Whole

/-!
# How runs end

Every run that a desk takes on comes to an end, whatever is answered and whenever it is cancelled.
It fails only if the guard refuses its plan.  In every other case its board is at rest
(`Board.AtRest`): each item of the plan has ended, and nothing is left to do.

The work ends every item, unless it is told of a cancellation.  Then the run is still cancelled
when it looks at its token for the last time, and the items left behind are skipped.
-/

namespace PoolExit

/-- What a summary says of items: how many there are, and how many of them have come to which
end. -/
structure Summary.Counts (s : Summary) (items : List Item) : Prop where
  total : s.total = items.length
  confirmed : s.confirmed = items.countP fun i => i.status = .confirmed
  failed : s.failed = items.countP fun i => i.status = .error
  skipped : s.skipped = items.countP fun i => i.status = .skipped
  inFlight : s.inFlight = items.countP fun i =>
    i.status = .pending ∨ i.status = .signed ∨ i.status = .sent

namespace Board

/-- Nothing is under way on the board, and every item has come to one of its three ends. -/
structure AtRest (b : Board) : Prop where
  ended : ∀ i ∈ b.items, i.status = .confirmed ∨ i.status = .error ∨ i.status = .skipped
  counts : b.summary.Counts b.items
  total : b.summary.total = b.summary.confirmed + b.summary.failed + b.summary.skipped
  inFlight : b.summary.inFlight = 0
  planning : b.planning = false
  running : b.running = false
  currentIndex : b.currentIndex = none
  phase : b.phase = .idle

/-- The summary of a board counts its items. -/
lemma counts_summary (b : Board) : b.summary.Counts b.items where
  total := rfl
  confirmed := rfl
  failed := rfl
  skipped := rfl
  inFlight := List.countP_congr fun i _ => by cases h : i.status <;> simp [Status.isTerminal]

/-- The counts of a board add up. -/
lemma total_summary (b : Board) : b.summary.total =
    b.summary.confirmed + b.summary.failed + b.summary.skipped + b.summary.inFlight := by
  simp only [summary, count]
  induction b.items with
  | nil => rfl
  | cons i items ih =>
      rw [List.length_cons, ih]
      simp only [List.countP_cons]
      cases h : i.status <;> simp [Status.isTerminal] <;> omega

variable {b : Board} {error : Option String} {cancelled : Bool}

lemma tasks_closed (b : Board) (error : Option String) (cancelled : Bool) :
    (b.closed error cancelled).tasks = b.tasks := by
  cases cancelled with
  | false => rfl
  | true =>
      rw [tasks, tasks, closed, if_pos rfl, List.map_map]
      exact List.map_congr_left fun i _ => (i.onward_stop .skipped cancelledReason).task

/-- Closing a board ends its items: they have ended before, or the run is cancelled and they are
skipped. -/
lemma isTerminal_closed (ended : cancelled = true ∨ ∀ k, b.Ended k) :
    ∀ i ∈ (b.closed error cancelled).items, i.status.isTerminal = true := by
  intro i hi
  cases cancelled with
  | true =>
      obtain ⟨j, -, rfl⟩ := List.mem_map.1 hi
      exact j.isTerminal_stop rfl cancelledReason
  | false =>
      rcases ended with h | ended
      · cases h
      · obtain ⟨k, hk⟩ := List.mem_iff_getElem?.1 hi
        exact ended k i hk

lemma atRest_closed (ended : cancelled = true ∨ ∀ k, b.Ended k) :
    (b.closed none cancelled).AtRest := by
  have terminal : ∀ i ∈ (b.closed none cancelled).items, i.status.isTerminal = true :=
    isTerminal_closed ended
  have none : (b.closed none cancelled).summary.inFlight = 0 := by
    simpa [summary, List.countP_eq_zero] using terminal
  refine ⟨?_, counts_summary _, ?_, none, rfl, rfl, rfl, rfl⟩
  · intro i hi
    have end' := terminal i hi
    cases h : i.status <;> simp [h, Status.isTerminal] at end' ⊢
  · rw [total_summary, none, Nat.add_zero]

end Board

namespace Desk

open Run

variable {d : Desk} {setup : Setup} {o : Options} {turns : List Turn} {board : Board}

namespace Ran

/-- What a run was told of before its last look, this look finds. -/
lemma cancelled_of_tellsStop {x y cancelled : Bool} {us vs : List Turn}
    (admits : d.Admits (⟨.publish Board.opened, (), x⟩ :: (us ++ ⟨.stopped, cancelled, y⟩ :: vs)))
    (active : ShowsActive us) (told : ∃ t ∈ us, t.tellsStop = true) : cancelled = true := by
  obtain ⟨t, mem, tells⟩ := told
  rw [← List.cons_append] at admits
  have opened : Board.opened.isActive = true := rfl
  have known : (d.afterAll (⟨.publish Board.opened, (), x⟩ :: us)).stopped = true := by
    refine (admits_append.1 admits).1.stopped_of_tellsStop (List.mem_cons_of_mem _ mem) tells ?_
    exact shows_cons.2 ⟨by simp [Step.board?, opened], active⟩
  rw [admits.fits.stopped rfl, known]

/-- A run without a failure leaves its board at rest. -/
lemma atRest (ran : d.Ran setup o turns (.ok board)) : board.AtRest := by
  have admits := ran.admits
  obtain ⟨x, us, outcome, b, vs, b', rfl, executed, concluded⟩ := ran.course
  cases concluded with
  | finished harmless cancelled y z w =>
      refine Board.atRest_closed ?_
      rcases harmless with rfl | rfl
      · rcases executed.ended with ended | told
        · exact .inr ended
        · exact .inl (cancelled_of_tellsStop admits executed.showsActive told)
      · exact .inl (cancelled_of_tellsStop admits executed.showsActive executed.tellsStop)

/-- The board of a run has the tasks of its plan. -/
lemma tasks_of_planned (ran : d.Ran setup o turns (.ok board)) {plan : Plan}
    (planned : Planned setup o turns plan) : board.tasks = plan.tasks := by
  obtain ⟨x, ps, us, outcome, b, vs, b', rfl, made, acted, concluded⟩ := ran.acted planned
  cases concluded with
  | finished harmless cancelled y z w => rw [Board.tasks_closed, acted.tasks]

/-- The result of a run is the board that the desk shows from then on. -/
lemma board_afterAll (ran : d.Ran setup o turns (.ok board)) :
    (d.afterAll turns).board = board := by
  obtain ⟨x, us, outcome, b, vs, b', rfl, executed, concluded⟩ := ran.course
  cases concluded with
  | finished harmless cancelled y z w =>
      rw [← List.cons_append, List.append_cons]
      exact board_afterAll_of_shown (by simp [Step.board?])

end Ran

/-- **How runs end.**  A run that the desk takes on comes to an end in every world.  However it
goes, it fails only with the strangers for whom the guard refuses its plan; otherwise it ends with
the board at rest, on which every task of the plan has come to an end, and this is the board that
the desk shows. -/
theorem ends (accepted : d.accept o = .ok ()) :
    (∀ w : World, ∃ turns result, w.play d [] (Run.whole setup o) = (turns, result) ∧
      d.Ran setup o turns result) ∧
    ∀ turns result, d.Ran setup o turns result →
      (∃ board, result = .ok board ∧ board.AtRest ∧ (d.afterAll turns).board = board ∧
        ∀ plan, Planned setup o turns plan → board.tasks = plan.tasks) ∨
      ∃ plan strangers, result = .error (.unexpectedSigner strangers) ∧
        Planned setup o turns plan ∧ setup.guard.checkAll plan.tasks = .error strangers := by
  constructor
  · intro w
    exact ⟨_, _, rfl, ran_play accepted w⟩
  · intro turns result ran
    cases result with
    | ok board =>
        exact .inl ⟨board, rfl, ran.atRest, ran.board_afterAll, fun _ => ran.tasks_of_planned⟩
    | error e =>
        obtain ⟨plan, strangers, planned, refused, rfl⟩ := ran.refused_of_error
        exact .inr ⟨plan, strangers, rfl, planned, refused⟩

/-- The small exit ends with its one item confirmed. -/
theorem ends_confirmed :
    let w := Sample.world (fun _ => ⟨Sample.transaction [Sample.owner] 0, 100⟩) id
    ∃ turns board,
      w.play {} [] (Run.whole (Sample.setup false) Sample.options) = (turns, .ok board) ∧
      board.AtRest ∧ board.summary.confirmed = 1 := by
  intro w
  have confirmed : (w.play {} [] (Run.whole (Sample.setup false) Sample.options)).2.toOption.map
      (fun board => board.summary.confirmed) = some 1 := by
    decide +kernel
  obtain ⟨plays, law⟩ := ends (o := Sample.options) Sample.accepted
  obtain ⟨turns, result, played, ran⟩ := plays w
  rw [played] at confirmed
  rcases law turns result ran with ⟨board, rfl, rests, -⟩ | ⟨plan, strangers, rfl, -⟩
  · exact ⟨turns, board, played, rests, by simpa [Except.toOption] using confirmed⟩
  · simp [Except.toOption] at confirmed

end Desk

end PoolExit
