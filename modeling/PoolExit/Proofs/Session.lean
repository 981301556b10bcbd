import PoolExit.Proofs.Conducted
import PoolExit.Proofs.Underway

/-!
# Sessions

Many callers share one desk.  A `Session` is the desk with all runs and plans that are under way,
each at a call.  At every call anything can be done: another run or plan is asked for, the run is
cancelled, a call is answered, or a run is dropped where it is (`Session.perform`).  It makes no
difference whether this comes from inside the call or from elsewhere, and nothing else can happen
between two calls.

Whatever is done, there is at most one run, and the board and the token tell whether there is one
(`Session.Orderly`).  A run at a call is a transcript so far (`Underway`), so the laws of
transcripts hold of the runs of a session.  What is done about plans changes neither the desk nor
the runs (`Session.agree_of_ofPlan`).
-/

namespace PoolExit

/-! ## Sessions -/

/-- A run at a call: its options and what is left of it. -/
structure OpenRun where
  options : Options
  rest : Talk (Except ExitError Board)

/-- A desk with the runs and the plans under way, each at a call. -/
structure Session where
  desk : Desk := {}
  runs : List OpenRun := []
  plans : List (Talk (Except ExitError Plan)) := []

/-- What can be done while all runs and plans are at calls. -/
inductive Act where
  /-- A run is asked for. -/
  | run (o : Options)
  /-- A plan is asked for. -/
  | plan (o : Options)
  /-- The run under way is to be cancelled. -/
  | abort
  /-- The call of a run is answered, or given up if the run has been cancelled. -/
  | answer (k : Nat) (answer : (c : Call) → c.Answer) (lost : Bool)
  /-- A run is dropped at its call. -/
  | drop (k : Nat)
  /-- The call of a plan is answered. -/
  | answerPlan (k : Nat) (answer : (c : Call) → c.Answer)
  /-- A plan is dropped at its call. -/
  | dropPlan (k : Nat)

/-- Whether an act is about plans. -/
def Act.ofPlan : Act → Bool
  | .plan _ | .answerPlan .. | .dropPlan _ => true
  | .run _ | .abort | .answer .. | .drop _ => false

/-- What comes out of an act at once. -/
inductive Act.Outcome where
  /-- There was nothing to do. -/
  | idle
  | refused (e : ExitError)
  /-- The run or the plan is at a call. -/
  | waits
  | ended (result : Except ExitError Board)
  | planned (result : Except ExitError Plan)
  /-- A cancellation was asked for, and there was a run under way or not. -/
  | requested (running : Bool)
  | dropped

/-- What is left of a talk after the answer to its call. -/
def Talk.answered {α : Type} (answer : (c : Call) → c.Answer) (lost : Bool) : Talk α → Talk α
  | .ask (.call c) next => next (answer c)
  | .ask (.race c) next => next (if lost then none else some (answer c))
  | p => p

lemma Talk.Apart.answered {α : Type} {p : Talk α} (apart : p.Apart)
    (answer : (c : Call) → c.Answer) (lost : Bool) : (p.answered answer lost).Apart := by
  cases p with
  | done a => trivial
  | ask step next =>
      rcases apart with ⟨⟨c, rfl⟩ | ⟨n, rfl⟩, later⟩
      · exact later _
      · exact ⟨.inr ⟨n, rfl⟩, later⟩

namespace Session

/-- Carries a run on to its next call. -/
def carry (s : Session) (o : Options) (p : Talk (Except ExitError Board)) : Act.Outcome × Session :=
  match p.settle s.desk with
  | (desk, .done result) => (.ended result, { s with desk })
  | (desk, rest) => (.waits, { s with desk, runs := ⟨o, rest⟩ :: s.runs })

/-- Carries a plan on to its next call. -/
def carryPlan (s : Session) (p : Talk (Except ExitError Plan)) : Act.Outcome × Session :=
  match p.settle s.desk with
  | (desk, .done result) => (.planned result, { s with desk })
  | (desk, rest) => (.waits, { s with desk, plans := rest :: s.plans })

variable (setup : Setup)

/-- What an act makes of a session. -/
def perform (s : Session) : Act → Act.Outcome × Session
  | .run o => match s.desk.accept o with
    | .error e => (.refused e, s)
    | .ok () => s.carry o (Run.whole setup o)
  | .plan o => s.carryPlan (setup.plan o)
  | .abort => (.requested s.desk.abort.1, { s with desk := s.desk.abort.2 })
  | .answer k answer lost => match s.runs[k]? with
    | none => (.idle, s)
    | some r => { s with runs := s.runs.eraseIdx k }.carry r.options
        (r.rest.answered answer (lost && s.desk.stopped))
  | .drop k => match s.runs[k]? with
    | none => (.idle, s)
    | some _ => (.dropped, { s with desk := s.desk.drop, runs := s.runs.eraseIdx k })
  | .answerPlan k answer => match s.plans[k]? with
    | none => (.idle, s)
    | some p => { s with plans := s.plans.eraseIdx k }.carryPlan (p.answered answer false)
  | .dropPlan k => (.dropped, { s with plans := s.plans.eraseIdx k })

/-- The last outcome, and the session after several acts. -/
def performAll (r : Act.Outcome × Session) (acts : List Act) : Act.Outcome × Session :=
  acts.foldl (fun r act => r.2.perform setup act) r

/-- The session after several acts at a new desk. -/
def after (acts : List Act) : Session := (performAll setup (.idle, {}) acts).2

/-! ## What is kept -/

/-- A run at a call, at a desk that may have been cancelled since the call was made. -/
def Held (d : Desk) (r : OpenRun) : Prop :=
  ∃ start turns, Underway setup r.options start turns r.rest ∧ r.rest.Waits ∧
    Conductor.Heeds (start.afterAll turns) ((), d)

/-- There is no run and the board shows none, or there is one and it is at a call. -/
structure Orderly (s : Session) : Prop where
  sound : s.desk.Sound
  runs : (s.runs = [] ∧ s.desk.board.isActive = false) ∨
    ∃ r, s.runs = [r] ∧ Held setup s.desk r
  plans : ∀ p ∈ s.plans, p.Apart

end Session

namespace Desk

variable {d : Desk}

lemma board_abort (d : Desk) : d.abort.2.board = d.board := by
  unfold abort
  split <;> rfl

lemma Sound.afterAll (sound : d.Sound) (ts : List Turn) : (d.afterAll ts).Sound := by
  induction ts generalizing d with
  | nil => exact sound
  | cons t ts ih => exact ih (sound.after t)

lemma inactive_of_accepted {o : Options} (accepted : d.accept o = .ok ()) :
    d.board.isActive = false := by
  unfold accept at accepted
  split at accepted
  · cases accepted
  · simpa using accepted

end Desk

namespace Conductor.Heeds

variable {α β : Type} {a : α} {d d' : Desk}

lemma isActive (heeds : Heeds d (a, d')) (active : d.board.isActive = true) :
    d'.board.isActive = true := by
  rcases heeds with same | ⟨-, same⟩
  · obtain rfl : d' = d := same
    exact active
  · obtain rfl : d' = d.abort.2 := same
    rwa [Desk.board_abort]

lemma sound (heeds : Heeds d (a, d')) (sound : d.Sound) : d'.Sound := by
  rcases heeds with same | ⟨-, same⟩
  · obtain rfl : d' = d := same
    exact sound
  · obtain rfl : d' = d.abort.2 := same
    exact sound.abort

/-- A run that is cancelled twice is cancelled. -/
lemma trans {r : β × Desk} (heeds : Heeds d (a, d')) (later : Heeds d' r) : Heeds d r := by
  rcases heeds with same | ⟨running, same⟩
  · obtain rfl : d' = d := same
    exact later
  · obtain rfl : d' = d.abort.2 := same
    obtain ⟨b, known⟩ := Option.isSome_iff_exists.1 running
    have again : d.abort.2.abort.2 = d.abort.2 := by simp [Desk.abort, known]
    rcases later with same | ⟨-, same⟩
    · exact .inr ⟨running, same⟩
    · exact .inr ⟨running, same.trans again⟩

end Conductor.Heeds

namespace Session

variable {setup : Setup} {s s' : Session}

/-! ## Carrying on -/

lemma carry_of_done {o : Options} {p : Talk (Except ExitError Board)}
    {result : Except ExitError Board} (done : (p.settle s.desk).2 = .done result) :
    s.carry o p = (.ended result, { s with desk := (p.settle s.desk).1 }) := by
  unfold carry
  generalize p.settle s.desk = r at done
  obtain ⟨desk, rest⟩ := r
  obtain rfl : rest = .done result := done
  rfl

lemma carry_of_waits {o : Options} {p : Talk (Except ExitError Board)}
    (waits : (p.settle s.desk).2.Waits) : s.carry o p =
      (.waits, { s with
        desk := (p.settle s.desk).1
        runs := ⟨o, (p.settle s.desk).2⟩ :: s.runs }) := by
  unfold carry
  generalize p.settle s.desk = r at waits
  obtain ⟨desk, rest⟩ := r
  cases rest with
  | done result => exact waits.elim
  | ask s next => rfl

/-- How a session is left by a run that is carried on: the run has ended and closed its board, or it
is at a call. -/
lemma carry_cases {o : Options} {start : Desk} {turns : List Turn}
    {p : Talk (Except ExitError Board)} (under : Underway setup o start turns p)
    (here : start.afterAll turns = s.desk) :
    (∃ result desk turns, s.carry o p = (.ended result, { s with desk }) ∧
      start.Ran setup o turns result ∧ start.afterAll turns = desk) ∨
    ∃ desk rest, s.carry o p = (.waits, { s with desk, runs := ⟨o, rest⟩ :: s.runs }) ∧
      Held setup desk ⟨o, rest⟩ := by
  obtain ⟨ts, leads, admits, desk⟩ := p.exists_settle s.desk
  rw [← here] at admits
  have later := under.append leads admits
  have there : start.afterAll (turns ++ ts) = (p.settle s.desk).1 := by
    rw [Desk.afterAll_append, here, desk]
  rcases p.settle_cases s.desk with ⟨result, done⟩ | waits
  · rw [done] at later
    exact .inl ⟨result, _, _, carry_of_done done, later.ran, there⟩
  · exact .inr ⟨_, _, carry_of_waits waits, start, _, later, waits, .inl there.symm⟩

/-- Carrying on a plan changes neither the desk nor the runs. -/
lemma carryPlan_of_apart {p : Talk (Except ExitError Plan)} (apart : p.Apart) :
    (s.carryPlan p).2.desk = s.desk ∧ (s.carryPlan p).2.runs = s.runs ∧
      ∀ q ∈ (s.carryPlan p).2.plans, q ∈ s.plans ∨ q.Apart := by
  obtain ⟨settled, rest⟩ := apart.settle s.desk s.desk
  rw [settled] at rest
  unfold carryPlan
  rw [settled]
  cases h : (p.settle s.desk).2 with
  | done result => exact ⟨rfl, rfl, fun q mem => .inl mem⟩
  | ask step next =>
      refine ⟨rfl, rfl, fun q mem => ?_⟩
      rcases List.mem_cons.1 mem with rfl | mem
      · exact .inr (h ▸ rest)
      · exact .inl mem

/-! ## Runs at a call -/

lemma Held.isActive {d : Desk} {r : OpenRun} (held : Held setup d r) :
    d.board.isActive = true := by
  obtain ⟨start, turns, under, waits, heeds⟩ := held
  exact heeds.isActive (under.isActive waits)

lemma Held.sound {d : Desk} {r : OpenRun} (held : Held setup d r) : d.Sound := by
  obtain ⟨start, turns, under, -, heeds⟩ := held
  exact heeds.sound (under.sound.afterAll turns)

lemma Held.abort {d : Desk} {r : OpenRun} (held : Held setup d r) : Held setup d.abort.2 r := by
  have token : d.token.isSome = true := held.sound.trans held.isActive
  obtain ⟨start, turns, under, waits, heeds⟩ := held
  exact ⟨start, turns, under, waits, heeds.trans (.inr ⟨token, rfl⟩)⟩

/-- A run goes on from its call with any answer, and may be given up if it has been cancelled. -/
lemma Held.answered {d : Desk} {r : OpenRun} (held : Held setup d r)
    (answer : (c : Call) → c.Answer) (lost : Bool) : ∃ start turns,
    Underway setup r.options start turns (r.rest.answered answer (lost && d.stopped)) ∧
      start.afterAll turns = d := by
  obtain ⟨start, turns, under, waits, heeds⟩ := held
  obtain ⟨o, rest⟩ := r
  cases rest with
  | done result => exact waits.elim
  | ask step next =>
      cases step with
      | call c =>
          obtain ⟨x, running, rfl⟩ := heeds.exists_after (s := .call c) rfl (answer c)
          exact ⟨start, _, under.turn rfl (Turn.fits_call running)⟩
      | race c =>
          obtain ⟨x, running, here⟩ := heeds.exists_after (s := .race c) rfl
            (if (lost && d.stopped) = true then none else some (answer c))
          have givenUp : (if (lost && d.stopped) = true then none else some (answer c)) = none →
              d.stopped = true := by
            intro given
            by_contra goesOn
            simp [goesOn] at given
          have fits := Turn.fits_race running fun given => here ▸ givenUp given
          obtain ⟨later, there⟩ := under.turn rfl fits
          exact ⟨start, _, later, there.trans here.symm⟩
      | stopped | publish | note => cases waits

/-! ## One act -/

lemma orderly_default : Orderly setup {} where
  sound := Desk.sound_default
  runs := .inl ⟨rfl, rfl⟩
  plans := nofun

/-- Two sessions that differ in the plans under way at most. -/
structure Agree (s s' : Session) : Prop where
  desk : s.desk = s'.desk
  runs : s.runs = s'.runs

lemma Agree.refl (s : Session) : Agree s s := ⟨rfl, rfl⟩

lemma Agree.symm (h : Agree s s') : Agree s' s := ⟨h.desk.symm, h.runs.symm⟩

lemma Agree.trans {s'' : Session} (h : Agree s s') (h' : Agree s' s'') : Agree s s'' :=
  ⟨h.desk.trans h'.desk, h.runs.trans h'.runs⟩

/-- What is done about plans changes neither the desk nor the runs. -/
theorem agree_of_ofPlan (apart : ∀ p ∈ s.plans, p.Apart) {act : Act} (plans : act.ofPlan = true) :
    Agree (s.perform setup act).2 s ∧ ∀ p ∈ (s.perform setup act).2.plans, p.Apart := by
  cases act with
  | plan o =>
      obtain ⟨desk, runs, later⟩ := carryPlan_of_apart (s := s) (setup.apart_plan o)
      exact ⟨⟨desk, runs⟩, fun q mem => (later q mem).elim (apart q) id⟩
  | answerPlan k answer =>
      simp only [perform]
      cases found : s.plans[k]? with
      | none => exact ⟨.refl s, apart⟩
      | some p =>
          have going : (p.answered answer false).Apart :=
            (apart p (List.mem_of_getElem? found)).answered answer false
          obtain ⟨desk, runs, later⟩ :=
            carryPlan_of_apart (s := { s with plans := s.plans.eraseIdx k }) going
          refine ⟨⟨desk, runs⟩, fun q mem => (later q mem).elim (fun mem => ?_) id⟩
          exact apart q (List.mem_of_mem_eraseIdx mem)
  | dropPlan k => exact ⟨⟨rfl, rfl⟩, fun q mem => apart q (List.mem_of_mem_eraseIdx mem)⟩
  | run | abort | answer | drop => cases plans

namespace Orderly

lemma single (orderly : s.Orderly setup) : s.runs.length ≤ 1 := by
  rcases orderly.runs with ⟨none, -⟩ | ⟨r, one, -⟩
  · simp [none]
  · simp [one]

/-- The board tells whether there is a run. -/
lemma isActive (orderly : s.Orderly setup) : s.desk.board.isActive = !s.runs.isEmpty := by
  rcases orderly.runs with ⟨none, inactive⟩ | ⟨r, one, held⟩
  · simp [none, inactive]
  · simp [one, held.isActive]

/-- A run is taken on only where there is none. -/
lemma alone (orderly : s.Orderly setup) {o : Options} (accepted : s.desk.accept o = .ok ()) :
    s.runs = [] := by
  simpa [Desk.inactive_of_accepted accepted] using orderly.isActive

/-- Only the one run can be named. -/
lemma held (orderly : s.Orderly setup) {k : Nat} {r : OpenRun} (found : s.runs[k]? = some r) :
    Held setup s.desk r ∧ s.runs.eraseIdx k = [] := by
  rcases orderly.runs with ⟨none, -⟩ | ⟨r', one, held⟩
  · simp [none] at found
  · rw [one] at found ⊢
    obtain ⟨rfl, rfl⟩ : k = 0 ∧ r' = r := by simpa [List.getElem?_singleton] using found
    exact ⟨held, rfl⟩

/-- The only run leaves the session in order where it is carried on. -/
lemma carry (plans : ∀ p ∈ s.plans, p.Apart) (none : s.runs = []) {o : Options} {start : Desk}
    {turns : List Turn} {p : Talk (Except ExitError Board)}
    (under : Underway setup o start turns p) (here : start.afterAll turns = s.desk) :
    (s.carry o p).2.Orderly setup := by
  rcases carry_cases under here with
    ⟨result, desk, us, carried, ran, rfl⟩ | ⟨desk, rest, carried, held⟩
  · rw [carried]
    obtain ⟨b, error, cancelled, closed⟩ := ran.exists_closed
    refine ⟨under.sound.afterAll us, .inl ⟨none, ?_⟩, plans⟩
    rw [closed]
    rfl
  · rw [carried]
    exact ⟨held.sound, .inr ⟨⟨o, rest⟩, by rw [none], held⟩, plans⟩

lemma of_ofPlan (orderly : s.Orderly setup) {act : Act} (plans : act.ofPlan = true) :
    (s.perform setup act).2.Orderly setup := by
  obtain ⟨agree, apart⟩ := agree_of_ofPlan orderly.plans plans
  refine ⟨agree.desk ▸ orderly.sound, ?_, apart⟩
  rw [agree.desk, agree.runs]
  exact orderly.runs

/-- An act leaves the session in order. -/
theorem perform (orderly : s.Orderly setup) (act : Act) :
    (s.perform setup act).2.Orderly setup := by
  cases act with
  | run o =>
      simp only [Session.perform]
      cases accepted : s.desk.accept o with
      | error e => exact orderly
      | ok u =>
          exact carry orderly.plans (orderly.alone accepted) (.whole orderly.sound accepted) rfl
  | abort =>
      refine ⟨orderly.sound.abort, ?_, orderly.plans⟩
      rcases orderly.runs with ⟨none, inactive⟩ | ⟨r, one, held⟩
      · exact .inl ⟨none, (congrArg Board.isActive (Desk.board_abort _)).trans inactive⟩
      · exact .inr ⟨r, one, held.abort⟩
  | answer k answer lost =>
      simp only [Session.perform]
      cases found : s.runs[k]? with
      | none => exact orderly
      | some r =>
          obtain ⟨held, none⟩ := orderly.held found
          obtain ⟨start, turns, under, here⟩ := held.answered answer lost
          exact carry (s := { s with runs := s.runs.eraseIdx k }) orderly.plans none under here
  | drop k =>
      simp only [Session.perform]
      cases found : s.runs[k]? with
      | none => exact orderly
      | some r =>
          obtain ⟨held, none⟩ := orderly.held found
          refine ⟨orderly.sound.drop, .inl ⟨none, ?_⟩, orderly.plans⟩
          simp only [Desk.drop, held.isActive, if_true]
          rfl
  | plan | answerPlan | dropPlan => exact of_ofPlan orderly rfl

end Orderly

/-- Several acts leave the session in order. -/
lemma Orderly.performAll {r : Act.Outcome × Session} (orderly : r.2.Orderly setup)
    (acts : List Act) : (performAll setup r acts).2.Orderly setup := by
  induction acts generalizing r with
  | nil => exact orderly
  | cons act acts ih => exact ih (orderly.perform act)

lemma orderly_after (acts : List Act) : (after setup acts).Orderly setup :=
  orderly_default.performAll acts

end Session

end PoolExit
