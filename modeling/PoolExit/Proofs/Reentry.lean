import PoolExit.Proofs.Session

/-!
# Requests from inside a call

A conductor works on the desk too, so while it answers a call of a run it may ask for further runs
and plans, and cancel the run.  Of all this only the cancellation reaches the desk of a run under
way (`Conductor.heeds_run`, `Conductor.Minds.heeds_conduct`).

A run that is conducted so takes part in a session (`Conductor.Minds.in_session`): it is asked for,
its calls are answered, meanwhile it may be cancelled, and where it hangs it is dropped.  So the
laws of sessions hold of the runs that the program conducts.
-/

namespace PoolExit

namespace Conductor

variable {m : Type → Type} [Monad m] {k : Conductor m} {α β : Type} {d d' : Desk}

/-- Every call leaves the desk of a run under way as it is, or cancels the run. -/
def Minds (k : Conductor m) : Prop :=
  ∀ c d, d.board.isActive = true → Ensures (fun r : Reply c.Answer × Desk => Heeds d r)
    ((k.answer c).run d)

lemma Serves.minds [LawfulMonad m] (serves : k.Serves) : k.Minds :=
  fun c d _ => (serves c d).mono fun _ h => h.2

variable [LawfulMonad m]

/-- A run that is asked for while another one is under way is refused, so the desk stays. -/
theorem heeds_run (k : Conductor m) (setup : Setup) (o : Options)
    (active : d.board.isActive = true) : Ensures (Heeds d) ((k.run setup o).run d) := by
  have refused : ∃ e, d.accept o = .error e := by
    unfold Desk.accept
    split
    · exact ⟨_, rfl⟩
    · exact ⟨_, if_pos active⟩
  obtain ⟨e, refused⟩ := refused
  rw [Conductor.run, StateT.run_bind, StateT.run_get, pure_bind]
  simp only [refused]
  exact ensures_pure (.inl rfl)

/-- A plan that is conducted while a run is under way leaves the desk to this run. -/
theorem Minds.heeds_conduct (minds : k.Minds) {p : Talk α} (apart : p.Apart)
    (active : d.board.isActive = true) : Ensures (Heeds d) ((k.conduct p).run d) := by
  induction p generalizing d with
  | done a =>
      rw [conduct, StateT.run_pure]
      exact ensures_pure (.inl rfl)
  | ask s next ih =>
      rcases apart with ⟨⟨c, rfl⟩ | ⟨n, rfl⟩, later⟩
      · rw [conduct, StateT.run_bind]
        refine (minds c d active).bind ?_
        rintro ⟨reply, d'⟩ heeds
        cases answer : reply.answer? with
        | none => exact ensures_pure (heeds.trans (β := Option α) (.inl rfl))
        | some a => exact (ih a (later a) (heeds.isActive active)).mono fun r h => heeds.trans h
      · rw [conduct, StateT.run_bind, StateT.run_monadLift, monadLift_self, bind_assoc]
        refine (ensures_true (k.note n)).bind fun u _ => ?_
        rw [pure_bind]
        exact ih () (later ()) active

end Conductor

/-! ## Conducted runs in sessions -/

namespace Talk

variable {α : Type}

lemma nonempty_answers : Nonempty ((c : Call) → c.Answer) := by
  obtain ⟨w⟩ := (inferInstance : Nonempty World)
  exact ⟨w.answer []⟩

/-- There are answers with a given one. -/
lemma exists_answers {c : Call} (a : c.Answer) :
    ∃ answers : (c : Call) → c.Answer, answers c = a := by
  classical
  obtain ⟨answers⟩ := nonempty_answers
  exact ⟨Function.update answers c a, Function.update_self c a answers⟩

lemma exists_answered_call {c : Call} (a : c.Answer) (next : c.Answer → Talk α) (stopped : Bool) :
    ∃ answers lost, answered answers (lost && stopped) (.ask (.call c) next) = next a := by
  obtain ⟨answers, given⟩ := exists_answers a
  exact ⟨answers, false, congrArg next given⟩

lemma exists_answered_race {c : Call} {a : Option c.Answer} (next : Option c.Answer → Talk α)
    {stopped : Bool} (lost : a = none → stopped = true) :
    ∃ answers lost, answered answers (lost && stopped) (.ask (.race c) next) = next a := by
  cases a with
  | none =>
      obtain ⟨answers⟩ := nonempty_answers
      exact ⟨answers, true, by rw [lost rfl]; rfl⟩
  | some a =>
      obtain ⟨answers, given⟩ := exists_answers a
      exact ⟨answers, false, congrArg (fun b => next (some b)) given⟩

end Talk

namespace Reply

variable {α : Type} {reply : Reply α}

/-- A raced call is given up only where the run is cancelled. -/
lemma stopped_of_raced {stopped : Bool} {a : Option α} (raced : reply.raced? stopped = some a)
    (lost : a = none) : stopped = true := by
  subst lost
  cases reply <;> cases stopped <;> simp [Reply.raced?] at raced ⊢

end Reply

namespace Session

variable {setup : Setup} {s : Session} {o : Options} {p q : Talk (Except ExitError Board)}

/-- From an outcome on, some acts lead to what came out of a run that was conducted: it has ended
with a result, or it hangs at a call. -/
def Comes (setup : Setup) (t : Act.Outcome × Session) (r : Option (Except ExitError Board) × Desk) :
    Prop :=
  ∃ acts t', performAll setup t acts = t' ∧ t'.2.desk = r.2 ∧
    match r.1 with
    | some result => t'.1 = .ended result
    | none => t'.2.runs.length = 1

lemma performAll_append (t : Act.Outcome × Session) (acts more : List Act) :
    performAll setup t (acts ++ more) = performAll setup (performAll setup t acts) more :=
  List.foldl_append

/-- A conductor that heeds the run under way takes part in its session. -/
lemma exists_heeded {α : Type} {a : α} {d : Desk} {outcome : Act.Outcome}
    (heeds : Conductor.Heeds s.desk (a, d)) :
    ∃ acts outcome', performAll setup (outcome, s) acts = (outcome', { s with desk := d }) := by
  rcases heeds with same | ⟨-, same⟩
  · obtain rfl : d = s.desk := same
    exact ⟨[], outcome, rfl⟩
  · obtain rfl : d = s.desk.abort.2 := same
    exact ⟨[.abort], _, rfl⟩

/-- A run that hangs at its call is left there. -/
lemma comes_hung {α : Type} {a : α} {d : Desk} (alone : s.runs = [])
    (heeds : Conductor.Heeds s.desk (a, d)) :
    Comes setup (.waits, { s with runs := ⟨o, p⟩ :: s.runs }) (none, d) := by
  obtain ⟨acts, outcome, performed⟩ :=
    exists_heeded (s := { s with runs := ⟨o, p⟩ :: s.runs }) heeds
  exact ⟨acts, _, performed, rfl, by simp [alone]⟩

/-- A run whose call is answered goes on from there. -/
lemma Comes.of_answered {α : Type} {a : α} {d : Desk} (heeds : Conductor.Heeds s.desk (a, d))
    {answers : (c : Call) → c.Answer} {lost : Bool}
    (answered : p.answered answers (lost && d.stopped) = q)
    {r : Option (Except ExitError Board) × Desk}
    (later : Comes setup ({ s with desk := d }.carry o q) r) :
    Comes setup (.waits, { s with runs := ⟨o, p⟩ :: s.runs }) r := by
  obtain ⟨acts, outcome, performed⟩ :=
    exists_heeded (s := { s with runs := ⟨o, p⟩ :: s.runs }) heeds
  obtain ⟨more, t, rest, law⟩ := later
  refine ⟨acts ++ .answer 0 answers lost :: more, t, ?_, law⟩
  rw [performAll_append, performed, ← rest, ← answered]
  rfl

/-- A run that is conducted from a desk on follows a session. -/
lemma comes_conduct {m : Type → Type} [Monad m] [LawfulMonad m] {k : Conductor m}
    (minds : k.Minds) {start : Desk} {turns : List Turn} (alone : s.runs = [])
    (under : Underway setup o start turns p) (here : start.afterAll turns = s.desk) :
    Ensures (Comes setup (s.carry o p)) ((k.conduct p).run s.desk) := by
  induction p generalizing s turns with
  | done a =>
      rw [Conductor.conduct, StateT.run_pure]
      exact ensures_pure ⟨[], _, rfl, rfl, rfl⟩
  | ask step next ih =>
      cases step with
      | call c =>
          have active := here ▸ under.isActive rfl
          rw [Conductor.conduct, StateT.run_bind]
          refine (minds c s.desk active).bind ?_
          rintro ⟨reply, d⟩ heeds
          cases answer : reply.answer? with
          | none => exact ensures_pure (comes_hung alone heeds)
          | some a =>
              obtain ⟨x, running, after⟩ := heeds.exists_after (s := .call c) rfl a
              obtain ⟨later, there⟩ := under.turn here (Turn.fits_call running)
              obtain ⟨answers, lost, answered⟩ := Talk.exists_answered_call a next d.stopped
              exact (ih a (s := { s with desk := d }) alone later (there.trans after.symm)).mono
                fun r => .of_answered heeds answered
      | race c =>
          have active := here ▸ under.isActive rfl
          rw [Conductor.conduct, StateT.run_bind]
          refine (minds c s.desk active).bind ?_
          rintro ⟨reply, d⟩ heeds
          simp only [StateT.run_bind, Conductor.stopped, StateT.run_get, StateT.run_pure, pure_bind]
          cases answer : reply.raced? d.stopped with
          | none => exact ensures_pure (comes_hung alone heeds)
          | some a =>
              have lost := Reply.stopped_of_raced answer
              obtain ⟨x, running, after⟩ := heeds.exists_after (s := .race c) rfl a
              have fits := Turn.fits_race running fun given => after ▸ lost given
              obtain ⟨later, there⟩ := under.turn here fits
              obtain ⟨answers, l, answered⟩ := Talk.exists_answered_race next lost
              exact (ih a (s := { s with desk := d }) alone later (there.trans after.symm)).mono
                fun r => .of_answered heeds answered
      | stopped =>
          rw [Conductor.conduct, StateT.run_bind]
          simp only [StateT.run_bind, Conductor.stopped, StateT.run_get, StateT.run_pure, pure_bind]
          obtain ⟨later, there⟩ := under.turn here (Turn.fits_stopped s.desk)
          exact ih s.desk.stopped alone later there
      | publish b =>
          rw [Conductor.conduct, StateT.run_bind, StateT.run_modify, pure_bind]
          obtain ⟨later, there⟩ := under.turn here (Turn.fits_publish b s.desk)
          exact ih () (s := { s with desk := s.desk.publish b }) alone later there
      | note n =>
          rw [Conductor.conduct, StateT.run_bind, StateT.run_monadLift, monadLift_self, bind_assoc]
          refine (ensures_true (k.note n)).bind fun u _ => ?_
          rw [pure_bind]
          obtain ⟨later, there⟩ := under.turn here (Turn.fits_note n s.desk)
          exact ih () alone later there

end Session

/-- The outcome of the last act of a run that was conducted. -/
def RunOutcome.outcome : RunOutcome → Act.Outcome
  | .refused e => .refused e
  | .dropped => .dropped
  | .ended result => .ended result

/-- **Conducted runs take part in sessions.**  A run that is conducted comes out as some acts of a
session do, of which the first one asks for the run, and it leaves the desk as they do. -/
theorem Conductor.Minds.in_session {m : Type → Type} [Monad m] [LawfulMonad m] {k : Conductor m}
    (minds : k.Minds) {setup : Setup} {s : Session} (orderly : s.Orderly setup) (o : Options) :
    Ensures (fun r : RunOutcome × Desk => ∃ acts t,
      Session.performAll setup (s.perform setup (.run o)) acts = t ∧
      t.1 = r.1.outcome ∧ t.2.desk = r.2) ((k.run setup o).run s.desk) := by
  rw [Conductor.run, StateT.run_bind, StateT.run_get, pure_bind]
  simp only [Session.perform]
  cases accepted : s.desk.accept o with
  | error e => exact ensures_pure ⟨[], _, rfl, rfl, rfl⟩
  | ok u =>
      have under : Underway setup o s.desk [] (Run.whole setup o) := .whole orderly.sound accepted
      have follows := Session.comes_conduct minds (orderly.alone accepted) under rfl
      simp only [StateT.run_bind]
      refine follows.bind ?_
      rintro ⟨result, d⟩ ⟨acts, t, performed, desk, law⟩
      cases result with
      | some result => exact ensures_pure ⟨acts, t, performed, law, desk⟩
      | none =>
          -- Where the run hangs, it is dropped.
          obtain ⟨r, one⟩ := List.length_eq_one_iff.1 law
          have dropped : t.2.perform setup (.drop 0) =
              (.dropped, { t.2 with desk := t.2.desk.drop, runs := t.2.runs.eraseIdx 0 }) := by
            rw [Session.perform, one]
            rfl
          have last : Session.performAll setup t [.drop 0] = t.2.perform setup (.drop 0) := rfl
          rw [StateT.run_bind, StateT.run_modify, pure_bind, StateT.run_pure]
          refine ensures_pure ⟨acts ++ [.drop 0], _, Session.performAll_append _ _ _, ?_, ?_⟩
          · rw [performed, last, dropped]
            rfl
          · rw [performed, last, dropped]
            exact congrArg Desk.drop desk

end PoolExit
