import PoolExit.Proofs.Ending
import PoolExit.Proofs.Record

/-!
# Runs under way

A run that has got to a call has gone through the first turns of a run, and whatever comes next, it
can be played to its end.  So it shares the laws of the calls of whole runs: at every call the board
shows a run under way (`Underway.isActive`), and once the run has ended, the board is closed
(`Desk.Ran.exists_closed`).

Between two calls a talk asks nobody but the desk, so nothing can come between.  `Talk.settle`
carries a talk on to its next call.  A talk that never looks at the desk and shows no board is
carried on alike at every desk (`Talk.Apart.settle`); a plan that is made outside a run is of this
kind.
-/

namespace PoolExit

namespace Talk

variable {α β : Type}

/-! ## The first turns of a talk -/

/-- A talk goes through turns, and there is something left of it. -/
inductive Leads : Talk α → List Turn → Talk α → Prop
  | refl (p) : Leads p [] p
  | ask {s next answer x ts q} (leads : Leads (next answer) ts q) :
      Leads (.ask s next) (⟨s, answer, x⟩ :: ts) q

lemma Leads.append {p q r : Talk α} {ts us : List Turn} (h : Leads p ts q) (h' : Leads q us r) :
    Leads p (ts ++ us) r := by
  induction h with
  | refl p => exact h'
  | ask leads ih => exact .ask (ih h')

lemma Leads.goes {p q : Talk α} {ts us : List Turn} {a : α} (h : Leads p ts q)
    (go : Goes q us a) : Goes p (ts ++ us) a := by
  induction h with
  | refl p => exact go
  | ask leads ih => exact ⟨_, _, _, rfl, ih go⟩

/-! ## Up to the next call -/

/-- Carries a talk on to its next call, or to its end. -/
def settle : Talk α → Desk → Desk × Talk α
  | .ask .stopped next, d => settle (next d.stopped) d
  | .ask (.publish b) next, d => settle (next ()) (d.publish b)
  | .ask (.note _) next, d => settle (next ()) d
  | p, d => (d, p)

/-- The talk is at a call. -/
def Waits : Talk α → Prop
  | .done _ => False
  | .ask s _ => s.call?.isSome = true

/-- A talk that is carried on comes to its end or to a call. -/
lemma settle_cases (p : Talk α) (d : Desk) :
    (∃ a, (p.settle d).2 = .done a) ∨ (p.settle d).2.Waits := by
  induction p generalizing d with
  | done a => exact .inl ⟨a, rfl⟩
  | ask s next ih =>
      cases s with
      | call c | race c => exact .inr rfl
      | stopped => exact ih _ _
      | publish b => exact ih _ _
      | note n => exact ih _ _

/-- A talk is carried on along turns that the desk admits. -/
lemma exists_settle (p : Talk α) (d : Desk) :
    ∃ ts, p.Leads ts (p.settle d).2 ∧ d.Admits ts ∧ d.afterAll ts = (p.settle d).1 := by
  induction p generalizing d with
  | done a => exact ⟨[], .refl _, trivial, rfl⟩
  | ask s next ih =>
      cases s with
      | call c | race c => exact ⟨[], .refl _, trivial, rfl⟩
      | stopped =>
          obtain ⟨ts, leads, admits, desk⟩ := ih d.stopped d
          exact ⟨_, .ask leads, ⟨Turn.fits_stopped d, admits⟩, desk⟩
      | publish b =>
          obtain ⟨ts, leads, admits, desk⟩ := ih () (d.publish b)
          exact ⟨_, .ask leads, ⟨Turn.fits_publish b d, admits⟩, desk⟩
      | note n =>
          obtain ⟨ts, leads, admits, desk⟩ := ih () d
          exact ⟨_, .ask leads, ⟨Turn.fits_note n d, admits⟩, desk⟩

/-! ## Talks apart from the desk -/

/-- Whatever is answered, the talk makes plain calls and shows events, and does nothing else. -/
def Apart : Talk α → Prop
  | .done _ => True
  | .ask s next => ((∃ c, s = .call c) ∨ ∃ n, s = .note n) ∧ ∀ answer, Apart (next answer)

lemma apart_pure (a : α) : Apart (pure a : Talk α) := trivial

lemma Apart.bind {p : Talk α} {f : α → Talk β} (hp : Apart p) (hf : ∀ a, Apart (f a)) :
    Apart (p >>= f) := by
  induction p with
  | done a => exact hf a
  | ask s next ih => exact ⟨hp.1, fun answer => ih answer (hp.2 answer)⟩

lemma Apart.map {p : Talk α} (hp : Apart p) (f : α → β) : Apart (f <$> p) := by
  rw [map_eq_pure_bind]
  exact hp.bind fun _ => apart_pure _

lemma apart_call (c : Call) : Apart (Talk.call c) := ⟨.inl ⟨c, rfl⟩, fun _ => trivial⟩

lemma apart_note (n : Notice) : Apart (Talk.note n) := ⟨.inr ⟨n, rfl⟩, fun _ => trivial⟩

lemma apart_noteAll : ∀ ns : List Notice, Apart (noteAll ns)
  | [] => trivial
  | n :: rest => (apart_note n).bind fun _ => apart_noteAll rest

/-- Carrying on a talk apart from the desk leaves the desk, and does not depend on it. -/
theorem Apart.settle {p : Talk α} (apart : Apart p) (d d' : Desk) :
    p.settle d = (d, (p.settle d').2) ∧ Apart (p.settle d).2 := by
  induction p with
  | done a => exact ⟨rfl, trivial⟩
  | ask s next ih =>
      rcases apart with ⟨⟨c, rfl⟩ | ⟨n, rfl⟩, later⟩
      · exact ⟨rfl, .inl ⟨c, rfl⟩, later⟩
      · exact ih () (later ())

end Talk

namespace Planning

open Talk

lemma apart_discover (s : PlanSettings) : ∀ adapters : List (Adapter × Nat),
    Apart (discover s adapters)
  | [] => apart_pure _
  | (a, index) :: rest => by
      rw [discover]
      refine (apart_call _).bind fun answer => ?_
      cases answer with
      | ok listings =>
          exact (apart_note _).bind fun _ => (apart_discover s rest).bind fun _ => apart_pure _
      | error e => exact (apart_discover s rest).bind fun _ => apart_pure _

lemma apart_buildHigher (s : PlanSettings) (c : Candidate) :
    ∀ (built : List Variant) (fees : List UInt64), Apart (buildHigher s c built fees)
  | _, [] => apart_pure _
  | built, fee :: rest => by
      rw [buildHigher]
      refine (apart_call _).bind fun answer => ?_
      cases answer with
      | ok draft => exact (apart_noteAll _).bind fun _ => apart_buildHigher s c _ rest
      | error e => exact (apart_note _).bind fun _ => apart_pure _

lemma apart_buildTask (s : PlanSettings) (c : Candidate) : Apart (buildTask s c) := by
  unfold buildTask
  cases s.feeLevels with
  | nil => exact apart_pure _
  | cons fee higher =>
      refine (apart_call _).bind fun answer => ?_
      cases answer with
      | ok primary =>
          exact (apart_noteAll _).bind fun _ => (apart_buildHigher s c _ higher).bind fun _ =>
            apart_pure _
      | error e => exact apart_pure _

lemma apart_buildTasks (s : PlanSettings) : ∀ cs : List Candidate, Apart (buildTasks s cs)
  | [] => apart_pure _
  | c :: rest => (apart_buildTask s c).bind fun _ => (apart_buildTasks s rest).bind fun _ =>
      apart_pure _

/-- A plan that is made outside a run neither looks at the desk nor shows a board. -/
lemma apart_plan (adapters : List Adapter) (s : PlanSettings) :
    Apart (plan adapters s false) := by
  refine ((apart_discover s _).map some).bind fun findings => ?_
  cases findings with
  | none => exact apart_pure _
  | some findings =>
      refine (apart_noteAll _).bind fun _ => ?_
      refine ((apart_buildTasks s _).map some).bind fun results => ?_
      cases results with
      | none => exact apart_pure _
      | some results =>
          exact (apart_noteAll _).bind fun _ => (apart_note _).bind fun _ => apart_pure _

end Planning

lemma Setup.apart_plan (setup : Setup) (o : Options) : (setup.plan o).Apart := by
  unfold Setup.plan
  split
  · exact Talk.apart_pure _
  · refine (Planning.apart_plan _ _).bind fun made => ?_
    cases made <;> exact Talk.apart_pure _

/-! ## Runs at a call -/

/-- The desk took on a run, which has gone through turns that the desk admits. -/
structure Underway (setup : Setup) (o : Options) (start : Desk) (turns : List Turn)
    (rest : Talk (Except ExitError Board)) : Prop where
  sound : start.Sound
  accepted : start.accept o = .ok ()
  leads : (Run.whole setup o).Leads turns rest
  admits : start.Admits turns

instance : Nonempty World :=
  ⟨Sample.world (fun _ => ⟨Sample.transaction [Sample.owner] 0, 100⟩) id⟩

namespace Underway

variable {setup : Setup} {o : Options} {start : Desk} {turns : List Turn}
  {rest : Talk (Except ExitError Board)}

/-- A run that has taken no turn yet. -/
lemma whole (sound : start.Sound) (accepted : start.accept o = .ok ()) :
    Underway setup o start [] (Run.whole setup o) := ⟨sound, accepted, .refl _, trivial⟩

lemma append (under : Underway setup o start turns rest) {us : List Turn}
    {rest' : Talk (Except ExitError Board)} (leads : rest.Leads us rest')
    (admits : (start.afterAll turns).Admits us) :
    Underway setup o start (turns ++ us) rest' :=
  ⟨under.sound, under.accepted, under.leads.append leads,
    Desk.admits_append.2 ⟨under.admits, admits⟩⟩

/-- One more turn, which fits the desk as the run has left it. -/
lemma turn {d : Desk} {s : Step} {next : s.Answer → Talk (Except ExitError Board)}
    (under : Underway setup o start turns (.ask s next)) (here : start.afterAll turns = d)
    {answer : s.Answer} {x : Bool} (fits : Turn.Fits ⟨s, answer, x⟩ d) :
    Underway setup o start (turns ++ [⟨s, answer, x⟩]) (next answer) ∧
      start.afterAll (turns ++ [⟨s, answer, x⟩]) = d.after ⟨s, answer, x⟩ := by
  subst here
  exact ⟨under.append (.ask (.refl _)) ⟨fits, trivial⟩, Desk.afterAll_append _ _ _⟩

/-- A run that has nothing left is a whole run. -/
lemma ran {result : Except ExitError Board}
    (under : Underway setup o start turns (.done result)) : start.Ran setup o turns result := by
  have done : Talk.Goes (.done result : Talk (Except ExitError Board)) [] result := ⟨rfl, rfl⟩
  have go := under.leads.goes done
  rw [List.append_nil] at go
  exact ⟨under.accepted, go, under.admits⟩

/-- A run under way goes on to its end in some world. -/
lemma exists_ran (under : Underway setup o start turns rest) :
    ∃ us result, rest.Goes us result ∧ start.Ran setup o (turns ++ us) result := by
  obtain ⟨w⟩ := (inferInstance : Nonempty World)
  have go := w.goes_play rest (start.afterAll turns) turns
  exact ⟨_, _, go, under.accepted, under.leads.goes go,
    Desk.admits_append.2 ⟨under.admits, w.admits_play rest _ turns⟩⟩

/-- At every call the board shows a run under way. -/
theorem isActive (under : Underway setup o start turns rest) (waits : rest.Waits) :
    (start.afterAll turns).board.isActive = true := by
  obtain ⟨us, result, go, ran⟩ := under.exists_ran
  cases rest with
  | done r => exact waits.elim
  | ask s next =>
      obtain ⟨c, calls⟩ := Option.isSome_iff_exists.1 waits
      obtain ⟨answer, x, later, rfl, -⟩ := go
      have shows : ShowsActive turns := (ran.placed calls rfl).2
      obtain ⟨y, vs, outcome, b, ws, b', split, -, -⟩ := ran.course
      -- The first turn shows the open board, so it is not the call.
      cases turns with
      | nil =>
          obtain ⟨first, -⟩ := List.cons.inj split
          cases first
          cases calls
      | cons t turns =>
          obtain ⟨rfl, -⟩ := List.cons.inj split
          rw [Desk.board_afterAll_eq]
          exact Board.afterAll_of_shows (b := Board.opened) (shows_cons.1 shows).2 rfl

end Underway

/-- A run closes its board, whatever its result. -/
theorem Desk.Ran.exists_closed {d : Desk} {setup : Setup} {o : Options} {turns : List Turn}
    {result : Except ExitError Board} (ran : d.Ran setup o turns result) :
    ∃ (b : Board) (error : Option String) (cancelled : Bool),
      (d.afterAll turns).board = b.closed error cancelled := by
  obtain ⟨x, us, outcome, b, vs, b', rfl, -, concluded⟩ := ran.course
  cases concluded with
  | finished harmless cancelled y z w =>
      refine ⟨b, none, cancelled, ?_⟩
      rw [← List.cons_append, List.append_cons]
      exact board_afterAll_of_shown (by simp [Step.board?])
  | @givenUp e harmful cancelled y z w =>
      refine ⟨b, some e.describe, cancelled, ?_⟩
      rw [← List.cons_append, List.append_cons, List.append_cons]
      exact board_afterAll_of_shown (by simp)

end PoolExit
