import PoolExit.Proofs.Moves
import PoolExit.Proofs.Session

/-!
# One run at a time

Sessions in which nothing differs but the plans under way agree, and they go on to agree whatever is
done (`Session.Agree.performAll`).  A desk that takes on a run forgets what was before, so what
becomes of the run does not depend on it (`Session.agree_run`).

`Session.Exclusive` puts together what one run at a time means.  A run that is refused and a plan
change nothing, and a cancellation finds the run if there is one.  A run whose calls are answered
comes to its end (`Session.exists_ended`), and a run that has ended or was dropped leaves the desk
to the next one (`Desk.Vacated`).  Every session is of this kind (`Session.exclusive`).
-/

namespace PoolExit

lemma Item.skip_eq (i : Item) (reason : String) : (i.skip reason).2 =
    if i.status.isTerminal then i else { i with status := .skipped, error := some reason } := by
  split
  next ended => exact stop_of_terminal ended .skipped reason
  next goesOn => exact stop_of_not_terminal (Bool.eq_false_iff.2 goesOn) rfl reason

namespace Desk

variable {d : Desk}

/-- No run is under way, and the last one has left the desk to the next one. -/
structure Vacated (d : Desk) : Prop where
  inactive : d.board.isActive = false
  finished : d.board.finished = true
  currentIndex : d.board.currentIndex = none
  abort : d.abort = (false, d)
  accepts : ∀ o, o.validate = .ok () → d.accept o = .ok ()

lemma abort_of_inactive (sound : d.Sound) (inactive : d.board.isActive = false) :
    d.abort = (false, d) := by
  have none : d.token = none := by simpa [Sound, inactive] using sound
  rw [Desk.abort, none]

lemma abort_fst (sound : d.Sound) : d.abort.1 = d.board.isActive := by
  rw [← sound, Desk.abort]
  cases d.token <;> rfl

lemma vacated_of_closed (sound : d.Sound) {b : Board} {error : Option String} {cancelled : Bool}
    (closed : d.board = b.closed error cancelled) : d.Vacated := by
  have inactive : d.board.isActive = false := by
    rw [closed]
    rfl
  refine ⟨inactive, by rw [closed]; rfl, by rw [closed]; rfl, abort_of_inactive sound inactive, ?_⟩
  intro o valid
  simp [accept, valid, inactive]

end Desk

namespace Session

variable {setup : Setup} {s s' : Session}

/-! ## Sessions that agree -/

/-- A run that is carried on alike from two desks goes alike. -/
lemma agree_carry {o : Options} {p : Talk (Except ExitError Board)}
    (settled : p.settle s.desk = p.settle s'.desk) (runs : s.runs = s'.runs) :
    (s.carry o p).1 = (s'.carry o p).1 ∧ Agree (s.carry o p).2 (s'.carry o p).2 := by
  unfold carry
  rw [settled]
  obtain ⟨desk, rest⟩ := p.settle s'.desk
  cases rest with
  | done result => exact ⟨rfl, rfl, runs⟩
  | ask step next => exact ⟨rfl, rfl, congrArg (List.cons _) runs⟩

/-- What is not about plans does not depend on the plans under way. -/
lemma Agree.perform (agree : Agree s s') {act : Act} (unplanned : act.ofPlan = false) :
    (s.perform setup act).1 = (s'.perform setup act).1 ∧
      Agree (s.perform setup act).2 (s'.perform setup act).2 := by
  obtain ⟨desk, runs⟩ := agree
  cases act with
  | run o =>
      simp only [Session.perform, desk]
      cases s'.desk.accept o with
      | error e => exact ⟨rfl, desk, runs⟩
      | ok u => exact agree_carry (by rw [desk]) runs
  | abort =>
      have outcome := congrArg (fun d : Desk => Act.Outcome.requested d.abort.1) desk
      exact ⟨outcome, congrArg (fun d : Desk => d.abort.2) desk, runs⟩
  | answer k answer lost =>
      simp only [Session.perform, desk, runs]
      cases s'.runs[k]? with
      | none => exact ⟨rfl, desk, runs⟩
      | some r => exact agree_carry rfl rfl
  | drop k =>
      simp only [Session.perform, desk, runs]
      cases s'.runs[k]? with
      | none => exact ⟨rfl, desk, runs⟩
      | some r => exact ⟨rfl, rfl, rfl⟩
  | plan | answerPlan | dropPlan => cases unplanned

/-- Sessions that agree go on to agree, whatever is done. -/
theorem Agree.performAll {r r' : Act.Outcome × Session} (agree : Agree r.2 r'.2)
    (orderly : r.2.Orderly setup) (orderly' : r'.2.Orderly setup) (acts : List Act) :
    Agree (performAll setup r acts).2 (performAll setup r' acts).2 := by
  induction acts generalizing r r' with
  | nil => exact agree
  | cons act acts ih =>
      refine ih ?_ (orderly.perform act) (orderly'.perform act)
      cases plans : act.ofPlan with
      | false => exact (agree.perform plans).2
      | true =>
          have first : Agree (r.2.perform setup act).2 r.2 :=
            (agree_of_ofPlan orderly.plans plans).1
          exact first.trans (agree.trans (agree_of_ofPlan orderly'.plans plans).1.symm)

/-- A desk that takes on a run forgets everything that was before. -/
theorem agree_run (orderly : s.Orderly setup) (orderly' : s'.Orderly setup) {o : Options}
    (accepted : s.desk.accept o = .ok ()) (accepted' : s'.desk.accept o = .ok ()) :
    (s.perform setup (.run o)).1 = (s'.perform setup (.run o)).1 ∧
      Agree (s.perform setup (.run o)).2 (s'.perform setup (.run o)).2 := by
  -- The first turn shows the open board, with a token that nobody has cancelled.
  obtain ⟨next, opens⟩ : ∃ next, Run.whole setup o = .ask (.publish Board.opened) next := ⟨_, rfl⟩
  have forgets : ∀ d : Desk, d.Sound → d.accept o = .ok () →
      (Run.whole setup o).settle d = Talk.settle (next ()) ⟨Board.opened, some false⟩ := by
    intro d sound accepted
    rw [opens, ← sound.stopped_eq_false accepted]
    rfl
  have settled := (forgets _ orderly.sound accepted).trans
    (forgets _ orderly'.sound accepted').symm
  simp only [Session.perform, accepted, accepted']
  exact agree_carry settled ((orderly.alone accepted).trans (orderly'.alone accepted').symm)

/-! ## One run at a time -/

/-- A run whose calls are answered comes to its end. -/
theorem exists_ended (answers : (c : Call) → c.Answer) {o : Options}
    (p : Talk (Except ExitError Board)) (s : Session) : ∃ n result,
      (performAll setup (s.carry o p) (List.replicate n (.answer 0 answers false))).1 =
        .ended result := by
  induction p generalizing s with
  | done a => exact ⟨0, a, rfl⟩
  | ask step next ih =>
      cases step with
      | call c =>
          obtain ⟨n, result, ended⟩ := ih (answers c) s
          exact ⟨n + 1, result, ended⟩
      | race c =>
          obtain ⟨n, result, ended⟩ := ih (some (answers c)) s
          exact ⟨n + 1, result, ended⟩
      | stopped => exact ih s.desk.stopped s
      | publish b => exact ih () { s with desk := s.desk.publish b }
      | note n => exact ih () s

/-- What a session with one run at a time has to satisfy. -/
structure Exclusive (setup : Setup) (s : Session) : Prop where
  single : s.runs.length ≤ 1
  active : s.desk.board.isActive = true ↔ s.runs ≠ []
  /-- Without a run, any valid options are taken on. -/
  accepts : ∀ o, o.fault? = none → s.runs = [] → s.desk.accept o = .ok ()
  invalid : ∀ o fault, o.fault? = some fault →
    s.perform setup (.run o) = (.refused (.invalidOptions fault.message), s)
  busy : ∀ o, o.fault? = none → s.runs ≠ [] →
    s.perform setup (.run o) = (.refused .runInProgress, s)
  /-- Whoever conducts a run that is refused makes no call and leaves the desk. -/
  refused : ∀ o e, s.perform setup (.run o) = (.refused e, s) →
    ∀ {m : Type → Type} [Monad m] [LawfulMonad m] (k : Conductor m),
      (k.run setup o).run s.desk = pure (.refused e, s.desk)
  aborts : ∃ running, (s.perform setup .abort).1 = .requested running ∧
    (running = true ↔ s.runs ≠ [])
  plans : ∀ act, act.ofPlan = true → Agree (s.perform setup act).2 s
  /-- Whoever answers the calls of the run brings it to its end. -/
  ends : s.runs ≠ [] → ∀ answers : (c : Call) → c.Answer, ∃ n result,
    (performAll setup (.idle, s) (List.replicate n (.answer 0 answers false))).1 = .ended result
  /-- A run ends along a transcript, from the desk that took it on. -/
  ended : ∀ act result s', s.perform setup act = (.ended result, s') →
    s'.runs = [] ∧ s'.desk.Vacated ∧
    ∃ (o : Options) (start : Desk) (turns : List Turn),
      (act = .run o ∨ o ∈ s.runs.map OpenRun.options) ∧ start.Ran setup o turns result ∧
      start.afterAll turns = s'.desk ∧ ∀ board, result = .ok board → s'.desk.board = board
  /-- Where a run is dropped, what has not ended is skipped. -/
  dropped : ∀ k, k < s.runs.length → ∃ s' : Session, s.perform setup (.drop k) = (.dropped, s') ∧
    s'.runs = [] ∧ s'.desk.Vacated ∧
    ∀ n : Nat, s'.desk.board.items[n]? = s.desk.board.items[n]?.map fun i =>
      if i.status.isTerminal then i
      else { i with status := .skipped, error := some Board.cancelledReason }

lemma carry_eq_ended {o : Options} {start : Desk} {turns : List Turn}
    {p : Talk (Except ExitError Board)} (under : Underway setup o start turns p)
    (here : start.afterAll turns = s.desk) (none : s.runs = []) {result : Except ExitError Board}
    (ended : s.carry o p = (.ended result, s')) : s'.runs = [] ∧ s'.desk.Vacated ∧
      ∃ turns, start.Ran setup o turns result ∧ start.afterAll turns = s'.desk ∧
        ∀ board, result = .ok board → s'.desk.board = board := by
  rcases carry_cases under here with ⟨r, desk, us, carried, ran, rfl⟩ | ⟨desk, rest, carried, -⟩
  · rw [carried] at ended
    cases ended
    obtain ⟨b, error, cancelled, closed⟩ := ran.exists_closed
    refine ⟨none, Desk.vacated_of_closed (under.sound.afterAll us) closed, us, ran, rfl, ?_⟩
    rintro board rfl
    exact ran.board_afterAll
  · rw [carried] at ended
    cases ended

/-- Only where the desk does not take on a run, it is refused. -/
lemma Orderly.accept_of_refused (orderly : s.Orderly setup) {o : Options} {e : ExitError}
    (refused : s.perform setup (.run o) = (.refused e, s')) : s.desk.accept o = .error e := by
  simp only [Session.perform] at refused
  cases accepted : s.desk.accept o with
  | error e' =>
      rw [accepted] at refused
      cases refused
      rfl
  | ok u =>
      rw [accepted] at refused
      rcases carry_cases (.whole orderly.sound accepted) rfl with
        ⟨_, _, _, carried, -⟩ | ⟨_, _, carried, -⟩ <;>
      · rw [carried] at refused
        cases refused

/-- A run ends at its beginning or with the answer to a call. -/
lemma Orderly.of_ended (orderly : s.Orderly setup) {act : Act} {result : Except ExitError Board}
    (ended : s.perform setup act = (.ended result, s')) : s'.runs = [] ∧ s'.desk.Vacated ∧
      ∃ (o : Options) (start : Desk) (turns : List Turn),
        (act = .run o ∨ o ∈ s.runs.map OpenRun.options) ∧ start.Ran setup o turns result ∧
        start.afterAll turns = s'.desk ∧ ∀ board, result = .ok board → s'.desk.board = board := by
  have unplanned : ∀ {t : Session} {p : Talk (Except ExitError Plan)},
      t.carryPlan p ≠ (.ended result, s') := by
    intro t p h
    unfold carryPlan at h
    split at h <;> cases h
  cases act with
  | run o =>
      simp only [Session.perform] at ended
      cases accepted : s.desk.accept o with
      | error e =>
          rw [accepted] at ended
          cases ended
      | ok u =>
          rw [accepted] at ended
          obtain ⟨empty, vacated, turns, law⟩ := carry_eq_ended (.whole orderly.sound accepted) rfl
            (orderly.alone accepted) ended
          exact ⟨empty, vacated, o, s.desk, turns, .inl rfl, law⟩
  | answer k answer lost =>
      simp only [Session.perform] at ended
      cases found : s.runs[k]? with
      | none =>
          rw [found] at ended
          cases ended
      | some r =>
          rw [found] at ended
          obtain ⟨held, none⟩ := orderly.held found
          obtain ⟨start, past, under, here⟩ := held.answered answer lost
          obtain ⟨empty, vacated, turns, law⟩ :=
            carry_eq_ended (s := { s with runs := s.runs.eraseIdx k }) under here none ended
          have named : r.options ∈ s.runs.map OpenRun.options :=
            List.mem_map_of_mem (List.mem_of_getElem? found)
          exact ⟨empty, vacated, r.options, start, turns, .inr named, law⟩
  | plan o => exact absurd ended unplanned
  | answerPlan k answer =>
      simp only [Session.perform] at ended
      split at ended
      · cases ended
      · exact absurd ended unplanned
  | drop k =>
      simp only [Session.perform] at ended
      split at ended <;> cases ended
  | abort | dropPlan => cases ended

/-- A session in order has one run at a time. -/
lemma Orderly.isExclusive (orderly : s.Orderly setup) : Exclusive setup s := by
  have active : s.desk.board.isActive = true ↔ s.runs ≠ [] := by
    simp [orderly.isActive]
  refine
    { single := orderly.single, active, accepts := ?_, invalid := ?_, busy := ?_, refused := ?_
      aborts := ?_, plans := ?_, ends := ?_, ended := ?_, dropped := ?_ }
  · intro o valid none
    simp [Desk.accept, Options.validate, valid, orderly.isActive, none]
  · intro o fault found
    simp [Session.perform, Desk.accept, Options.validate, found]
  · intro o valid some
    simp [Session.perform, Desk.accept, Options.validate, valid, active.2 some]
  · intro o e refused m _ _ k
    rw [Conductor.run, StateT.run_bind, StateT.run_get, pure_bind]
    simp only [orderly.accept_of_refused refused]
    rfl
  · exact ⟨_, rfl, by rw [Desk.abort_fst orderly.sound, active]⟩
  · exact fun act plans => (agree_of_ofPlan orderly.plans plans).1
  · intro some answers
    obtain ⟨r, rs, runs⟩ := List.exists_cons_of_ne_nil some
    obtain ⟨n, result, ended⟩ := exists_ended answers (r.rest.answered answers false)
      { s with runs := rs }
    refine ⟨n + 1, result, ?_⟩
    have first : s.perform setup (.answer 0 answers false) =
        ({ s with runs := rs } : Session).carry r.options (r.rest.answered answers false) := by
      simp only [Session.perform, runs]
      rfl
    rw [List.replicate_succ, Session.performAll, List.foldl_cons, first]
    exact ended
  · exact fun act result s' ended => orderly.of_ended ended
  · intro k named
    obtain ⟨held, none⟩ := orderly.held (List.getElem?_eq_getElem named)
    have board : s.desk.drop.board = s.desk.board.closed (some Desk.droppedReason) true := by
      rw [Desk.drop, if_pos held.isActive]
      rfl
    refine ⟨_, by rw [Session.perform, List.getElem?_eq_getElem named], none,
      Desk.vacated_of_closed orderly.sound.drop board, fun n => ?_⟩
    rw [board, Board.closed, if_pos rfl, List.getElem?_map]
    exact congrArg (Option.map · _) (funext fun i => i.skip_eq Board.cancelledReason)

lemma after_append_cons (acts : List Act) (act : Act) (more : List Act) :
    after setup (acts ++ act :: more) =
      (performAll setup ((after setup acts).perform setup act) more).2 := by
  rw [after, performAll, List.foldl_append, List.foldl_cons]
  rfl

/-- **One run at a time.**  Whatever is done at a desk, there is one run at a time.  And a run that
is taken on goes as it goes at every other desk that takes it on, while the same is done from then
on: it comes to the same calls, its acts have the same outcomes, and it shows the same boards. -/
theorem exclusive (setup : Setup) (acts : List Act) :
    Exclusive setup (after setup acts) ∧
    ∀ (acts' : List Act) (o : Options), o.fault? = none →
      (after setup acts).runs = [] → (after setup acts').runs = [] →
      ((after setup acts).perform setup (.run o)).1 =
        ((after setup acts').perform setup (.run o)).1 ∧
      ∀ more : List Act,
        Agree (after setup (acts ++ .run o :: more)) (after setup (acts' ++ .run o :: more)) ∧
        ∀ act, act.ofPlan = false →
          ((after setup (acts ++ .run o :: more)).perform setup act).1 =
            ((after setup (acts' ++ .run o :: more)).perform setup act).1 := by
  refine ⟨(orderly_after acts).isExclusive, fun acts' o valid none none' => ?_⟩
  have accepted := (orderly_after acts).isExclusive.accepts o valid none
  have accepted' := (orderly_after acts').isExclusive.accepts o valid none'
  obtain ⟨outcome, begun⟩ := agree_run (orderly_after acts) (orderly_after acts') accepted accepted'
  refine ⟨outcome, fun more => ?_⟩
  have agree := begun.performAll ((orderly_after acts).perform (.run o))
    ((orderly_after acts').perform (.run o)) more
  rw [after_append_cons, after_append_cons]
  exact ⟨agree, fun act unplanned => (agree.perform unplanned).1⟩

/-- The small exit at its first call: a second run is refused, a cancellation finds the run, its
answers bring it to its end, and where it is dropped, the next run comes to the same call. -/
theorem exclusive_at_discovery :
    let s := after (Sample.setup false) [.run Sample.options]
    s.runs.length = 1 ∧
    s.perform (Sample.setup false) (.run Sample.options) = (.refused .runInProgress, s) ∧
    (s.perform (Sample.setup false) .abort).1 = .requested true ∧
    (∀ answers, ∃ n result, (performAll (Sample.setup false) (.idle, s)
      (List.replicate n (.answer 0 answers false))).1 = .ended result) ∧
    (after (Sample.setup false) [.run Sample.options, .drop 0]).desk.Vacated ∧
    Agree s (after (Sample.setup false) [.run Sample.options, .drop 0, .run Sample.options]) := by
  have one : (after (Sample.setup false) [.run Sample.options]).runs.length = 1 := by
    decide +kernel
  intro s
  obtain ⟨law, -⟩ := exclusive (Sample.setup false) [.run Sample.options]
  have some : s.runs ≠ [] := List.ne_nil_of_length_pos (one ▸ Nat.one_pos)
  obtain ⟨running, found, iff⟩ := law.aborts
  obtain ⟨s', dropped, none, vacated, -⟩ := law.dropped 0 (one ▸ Nat.one_pos)
  have there : after (Sample.setup false) [.run Sample.options, .drop 0] = s' :=
    congrArg Prod.snd dropped
  obtain ⟨-, same⟩ := exclusive (Sample.setup false) []
  obtain ⟨-, again⟩ := same [.run Sample.options, .drop 0] Sample.options rfl rfl (there ▸ none)
  exact ⟨one, law.busy _ rfl some, (iff.2 some) ▸ found, law.ends some, there ▸ vacated,
    (again []).1⟩

end Session

end PoolExit
