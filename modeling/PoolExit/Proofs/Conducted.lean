import PoolExit.Command.Errand
import PoolExit.Proofs.Ending

/-!
# Conducted runs

In the program a talk is conducted by someone who answers its calls (`Conductor`), in whatever
monad, and who may cancel the run from inside a call.  A conductor that answers every call, and
touches the desk only to cancel the run under way, follows a transcript
(`Conductor.Serves.follows`).  So what holds of all transcripts of a run holds of the run that is
conducted.

The conductor of the program is one of this kind.  Hence an exit always comes to its end, with all
items ended or with the strangers that its plan was refused for (`Command.Errand.ends_run`).
-/

namespace PoolExit

/-- Whatever comes out of a computation has a property. -/
def Ensures {m : Type → Type} [Monad m] {α : Type} (P : α → Prop) (x : m α) : Prop :=
  ∃ y : m {a // P a}, Subtype.val <$> y = x

section

variable {m : Type → Type} [Monad m] [LawfulMonad m] {α β : Type} {P : α → Prop} {Q : β → Prop}

lemma ensures_true (x : m α) : Ensures (fun _ => True) x :=
  ⟨(fun a => ⟨a, trivial⟩) <$> x, by simp⟩

lemma ensures_pure {a : α} (h : P a) : Ensures P (pure a : m α) := ⟨pure ⟨a, h⟩, by simp⟩

lemma Ensures.bind {x : m α} {f : α → m β} (hx : Ensures P x) (hf : ∀ a, P a → Ensures Q (f a)) :
    Ensures Q (x >>= f) := by
  obtain ⟨y, rfl⟩ := hx
  refine ⟨y >>= fun a => (hf a.1 a.2).choose, ?_⟩
  rw [map_bind, bind_map_left]
  exact bind_congr fun a => (hf a.1 a.2).choose_spec

lemma Ensures.map {x : m α} (hx : Ensures P x) {f : α → β} (hf : ∀ a, P a → Q (f a)) :
    Ensures Q (f <$> x) := by
  rw [map_eq_pure_bind]
  exact hx.bind fun a h => ensures_pure (hf a h)

lemma Ensures.mono {R : α → Prop} {x : m α} (hx : Ensures P x) (h : ∀ a, P a → R a) :
    Ensures R x := by
  obtain ⟨y, rfl⟩ := hx
  exact ⟨(fun a => ⟨a.1, h a.1 a.2⟩) <$> y, by simp⟩

lemma Ensures.run {σ : Type} {x : StateT σ m α} (hx : Ensures P x) (s : σ) :
    Ensures (fun r : α × σ => P r.1) (x.run s) := by
  obtain ⟨y, rfl⟩ := hx
  exact ⟨(fun r => ⟨(r.1.1, r.2), r.1.2⟩) <$> y.run s, by simp⟩

/-- A computation beside the state leaves the state as it is. -/
lemma ensures_lift {σ : Type} (x : m α) (s : σ) :
    Ensures (fun r : α × σ => r.2 = s) ((StateT.lift x).run s) := by
  rw [StateT.run_lift]
  exact (ensures_true x).bind fun a _ => ensures_pure rfl

end

namespace Talk

variable {α : Type}

/-- From a desk on, some transcript of a talk comes to an outcome and leaves the desk as given. -/
def Follows (p : Talk α) (d : Desk) (r : Option α × Desk) : Prop :=
  ∃ a ts, r.1 = some a ∧ p.Goes ts a ∧ d.Admits ts ∧ d.afterAll ts = r.2

lemma Follows.ask {s : Step} {next : s.Answer → Talk α} {answer : s.Answer} {x : Bool} {d : Desk}
    {r : Option α × Desk} (fits : (⟨s, answer, x⟩ : Turn).Fits d)
    (h : (next answer).Follows (d.after ⟨s, answer, x⟩) r) : Follows (.ask s next) d r := by
  obtain ⟨a, ts, result, go, admits, desk⟩ := h
  exact ⟨a, _, result, ⟨answer, x, ts, rfl, go⟩, ⟨fits, admits⟩, desk⟩

end Talk

namespace Reply

variable {α : Type} {reply : Reply α}

lemma exists_answer (answered : reply ≠ .never) : ∃ a, reply.answer? = some a := by
  cases reply with
  | never => exact absurd rfl answered
  | atOnce a | later a => exact ⟨a, rfl⟩

/-- A raced call that is answered loses only where the run is cancelled. -/
lemma exists_raced (answered : reply ≠ .never) (stopped : Bool) :
    ∃ a, reply.raced? stopped = some a ∧ (a = none → stopped = true) := by
  cases reply with
  | never => exact absurd rfl answered
  | atOnce a => exact ⟨some a, rfl, nofun⟩
  | later a =>
      refine ⟨_, rfl, ?_⟩
      cases stopped <;> simp

end Reply

namespace Conductor

variable {m : Type → Type} [Monad m] {k : Conductor m} {α : Type}

/-- The desk is left as it is, or the run under way is cancelled. -/
def Heeds (d : Desk) (r : α × Desk) : Prop :=
  r.2 = d ∨ (d.token.isSome = true ∧ r.2 = d.abort.2)

/-- Every call is answered, and meanwhile the run under way is cancelled at most. -/
def Serves (k : Conductor m) : Prop :=
  ∀ c d, Ensures (fun r : Reply c.Answer × Desk => r.1 ≠ .never ∧ Heeds d r) ((k.answer c).run d)

/-- The desk after a call, as the desk after a turn. -/
lemma Heeds.exists_after {d d' : Desk} {a : α} (heeds : Heeds d (a, d')) {s : Step}
    (unseen : d.see s = d) (answer : s.Answer) :
    ∃ x, (x = true → (d.see s).token.isSome = true) ∧ d' = d.after ⟨s, answer, x⟩ := by
  rcases heeds with rfl | ⟨running, rfl⟩
  · refine ⟨false, nofun, ?_⟩
    simp [Desk.after, unseen]
  · refine ⟨true, fun _ => by rwa [unseen], ?_⟩
    simp [Desk.after, unseen]

variable [LawfulMonad m]

lemma ensures_requestAbort (note : Notice → m Unit) (d : Desk) :
    Ensures (Heeds d) ((Desk.requestAbort note).run d) := by
  simp only [Desk.requestAbort, StateT.run_bind, StateT.run_get, pure_bind, StateT.run_set]
  cases token : d.token with
  | none =>
      simp only [Desk.abort, token, Bool.false_eq_true, if_false]
      exact ensures_pure (.inl rfl)
  | some b =>
      simp only [Desk.abort, token, if_true, StateT.run_bind]
      refine (ensures_lift _ _).bind ?_
      rintro ⟨_, d'⟩ rfl
      exact ensures_pure (.inr ⟨by simp [token], by simp [Desk.abort, token]⟩)

/-- A talk that is conducted follows one of its transcripts. -/
theorem Serves.follows (serves : k.Serves) (p : Talk α) (d : Desk) :
    Ensures (p.Follows d) ((k.conduct p).run d) := by
  induction p generalizing d with
  | done a =>
      rw [conduct, StateT.run_pure]
      exact ensures_pure ⟨a, [], rfl, ⟨rfl, rfl⟩, trivial, rfl⟩
  | ask s next ih =>
      cases s with
      | call c =>
          rw [conduct, StateT.run_bind]
          refine (serves c d).bind ?_
          rintro ⟨reply, d'⟩ ⟨answered, heeds⟩
          obtain ⟨a, answer⟩ := Reply.exists_answer answered
          obtain ⟨x, running, rfl⟩ := heeds.exists_after (s := .call c) rfl a
          simp only [answer]
          exact (ih a _).mono fun r h => .ask (Turn.fits_call running) h
      | race c =>
          rw [conduct, StateT.run_bind]
          refine (serves c d).bind ?_
          rintro ⟨reply, d'⟩ ⟨answered, heeds⟩
          obtain ⟨a, answer, lost⟩ := Reply.exists_raced answered d'.stopped
          obtain ⟨x, running, rfl⟩ := heeds.exists_after (s := .race c) rfl a
          simp only [StateT.run_bind, stopped, StateT.run_get, StateT.run_pure, pure_bind, answer]
          exact (ih a _).mono fun r h => .ask (Turn.fits_race running lost) h
      | stopped =>
          rw [conduct, StateT.run_bind]
          simp only [StateT.run_bind, stopped, StateT.run_get, StateT.run_pure, pure_bind]
          exact (ih d.stopped d).mono fun r h => .ask (Turn.fits_stopped d) h
      | publish b =>
          rw [conduct, StateT.run_bind, StateT.run_modify, pure_bind]
          exact (ih () _).mono fun r h => .ask (Turn.fits_publish b d) h
      | note n =>
          rw [conduct, StateT.run_bind, StateT.run_monadLift, monadLift_self, bind_assoc]
          refine (ensures_true (k.note n)).bind fun u _ => ?_
          rw [pure_bind]
          exact (ih () d).mono fun r h => .ask (Turn.fits_note n d) h

/-- A run that the desk takes on is conducted along one of its transcripts, to its end. -/
lemma Serves.runs (serves : k.Serves) {setup : Setup} {o : Options} {d : Desk}
    (accepted : d.accept o = .ok ()) :
    Ensures (fun r : RunOutcome × Desk => ∃ turns result, r.1 = .ended result ∧
      d.Ran setup o turns result ∧ d.afterAll turns = r.2) ((k.run setup o).run d) := by
  rw [Conductor.run, StateT.run_bind, StateT.run_get, pure_bind]
  simp only [accepted, StateT.run_bind]
  refine (serves.follows (Run.whole setup o) d).bind ?_
  rintro ⟨outcome, d'⟩ ⟨result, turns, rfl, go, admits, rfl⟩
  exact ensures_pure ⟨turns, result, rfl, ⟨accepted, go, admits⟩, rfl⟩

end Conductor

namespace Command.Errand

open Conductor

/-- No call of an errand is left without an answer. -/
lemma reply_ne_never (e : Errand) (c : Call) :
    Ensures (fun reply : Reply c.Answer => reply ≠ .never) (e.reply c) := by
  cases c with
  | discover adapter owner =>
      simp only [reply]
      cases e.endpoints[adapter]? with
      | none => exact ensures_pure nofun
      | some points => exact (ensures_true _).bind fun _ _ => ensures_pure nofun
  | signAll _ | signOne _ => exact ensures_pure nofun
  | build | blockHeight | simulate _ | submit _ | confirm =>
      exact (ensures_true _).bind fun _ _ => ensures_pure nofun

/-- Heeding the user cancels the run under way at most. -/
lemma ensures_heed (d : Desk) : Ensures (Heeds d) (heed.run d) := by
  unfold heed
  simp only [StateT.run_bind, StateT.run_get, pure_bind]
  cases stopped : d.stopped with
  | true => exact ensures_pure (.inl rfl)
  | false =>
      simp only [Bool.false_eq_true, if_false, StateT.run_bind]
      refine (ensures_lift _ d).bind ?_
      rintro ⟨interrupted, d'⟩ rfl
      cases interrupted with
      | false => exact ensures_pure (.inl rfl)
      | true =>
          simp only [if_true, StateT.run_bind]
          refine (ensures_lift _ d').bind ?_
          rintro ⟨_, d''⟩ rfl
          rw [discard, map_const, Function.comp_apply, StateT.run_map]
          exact (ensures_requestAbort noteRun _).map fun _ heeds => heeds

/-- The conductor of an errand answers every call, and touches the desk only to cancel the run. -/
lemma serves (e : Errand) : e.conductor.Serves := by
  intro c d
  have asks : (e.conductor.answer c).run d =
      e.reply c >>= fun reply => heed.run d >>= fun r => pure (reply, r.2) := by
    simp only [conductor, StateT.run_bind, StateT.run_monadLift, monadLift_self, bind_assoc,
      pure_bind, StateT.run_pure]
  rw [asks]
  refine (reply_ne_never e c).bind fun reply answered => ?_
  exact (ensures_heed d).bind fun r heeds => ensures_pure ⟨answered, heeds⟩

/-- **How an exit ends.**  With valid options the exit of the program always ends, and either all
items have come to an end, or the plan was refused for strangers. -/
theorem ends_run (e : Errand) {o : Options} (valid : o.validate = .ok ()) :
    Ensures (fun outcome => (∃ board : Board, outcome = .ended (.ok board) ∧ board.AtRest) ∨
      ∃ strangers, outcome = .ended (.error (.unexpectedSigner strangers))) (e.run o) := by
  have accepted : ({} : Desk).accept o = .ok () := by simp [Desk.accept, valid, Board.isActive]
  have ends : Ensures (fun r : RunOutcome × Desk =>
      (∃ board : Board, r.1 = .ended (.ok board) ∧ board.AtRest) ∨
        ∃ strangers, r.1 = .ended (.error (.unexpectedSigner strangers)))
      ((e.conductor.run e.setup o).run {}) := by
    refine (e.serves.runs accepted).mono ?_
    rintro ⟨_, d⟩ ⟨turns, result, rfl, ran, -⟩
    cases result with
    | ok board => exact .inl ⟨board, rfl, ran.atRest⟩
    | error failure =>
        obtain ⟨plan, strangers, -, -, rfl⟩ := ran.refused_of_error
        exact .inr ⟨strangers, rfl⟩
  exact (ends.run e.unasked).bind fun r h => ensures_pure h

end Command.Errand

end PoolExit
