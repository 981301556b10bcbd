import PoolExit.Proofs.Stages

/-!
# Whole runs

A run opens, is executed and concludes.  `Desk.Ran.placed` says where in a run a call can stand: in
planning, in the batch, within an attempt or in the rehearsal of a dry run.  The last three come
only after all drafts of the plan have passed the guard, and up to any call only boards of a run
under way have been shown.  `Executed.ended` and `Executed.tellsStop` say what is left for the end
of a run: every item has ended, or a turn told of a cancellation.
-/

namespace PoolExit

namespace Run

/-! ## Where calls stand -/

/-- The primary drafts that a run has signed in the batch. -/
def primaries (tasks : List Task) : List Transaction := tasks.map fun t => t.primary.transaction

/-- The work of a run is in line with its tasks, and each signed draft has the message of its task's
primary draft. -/
def InLine (tasks : List Task) (work : List ((Task × Option Transaction) × Nat)) : Prop :=
  ∀ ⦃task primary index⦄, ((task, some primary), index) ∈ work →
    tasks[index]? = some task ∧ primary.message = task.primary.transaction.message

/-- Where in a run a call can stand. -/
inductive Placed (setup : Setup) (o : Options) (before : List Turn) (u : Turn) (after : List Turn) :
    Prop
  | planning (quiet : u.step.Quiet (Planning.Priced (setup.planSettings o).feeLevels))
  | signing {tasks : List Task} {earlier inner : List Turn} {board x}
      (passed : setup.guard.checkAll tasks = .ok ())
      (quiet : u.step.Quiet (Signing.Requests (primaries tasks))) (raced : ∀ c, u.step ≠ .call c)
      (shown : before = earlier ++ ⟨.publish board, (), x⟩ :: inner) (planned : board.tasks = tasks)
      (silent : ∀ t ∈ inner, t.step.board? = none)
  | attempting {tasks : List Task} {work} (plain : o.dryRun = false)
      (passed : setup.guard.checkAll tasks = .ok ()) (inLine : InLine tasks work)
      (stretch : Stretch (Attempting setup (setup.planSettings o) tasks work) before u after)
  | rehearsing {tasks : List Task} {work} (dry : o.dryRun = true)
      (passed : setup.guard.checkAll tasks = .ok ()) (inLine : InLine tasks work)
      (rehearsing : Rehearsing tasks work before u)

section

variable {setup : Setup} {o : Options} {before after : List Turn} {u : Turn}

lemma Placed.append_left (ts : List Turn) (placed : Placed setup o before u after) :
    Placed setup o (ts ++ before) u after := by
  cases placed with
  | planning quiet => exact .planning quiet
  | signing passed quiet raced shown planned silent =>
      exact .signing passed quiet raced (by rw [shown, List.append_assoc]) planned silent
  | attempting plain passed inLine stretch =>
      exact .attempting plain passed inLine (stretch.append_left ts)
  | rehearsing dry passed inLine rehearsing =>
      exact .rehearsing dry passed inLine (rehearsing.append_left ts)

lemma Placed.append_right (ts : List Turn) (placed : Placed setup o before u after) :
    Placed setup o before u (after ++ ts) := by
  cases placed with
  | planning quiet => exact .planning quiet
  | signing passed quiet raced shown planned silent =>
      exact .signing passed quiet raced shown planned silent
  | attempting plain passed inLine stretch =>
      exact .attempting plain passed inLine (stretch.append_right ts)
  | rehearsing dry passed inLine rehearsing => exact .rehearsing dry passed inLine rehearsing

/-- Nothing is sent in planning or in the batch. -/
lemma Placed.sending {c : Call} (placed : Placed setup o before u after)
    (calls : u.step.call? = some c) (sends : Sends c) :
    ∃ tasks work, setup.guard.checkAll tasks = .ok () ∧ InLine tasks work ∧
      ((o.dryRun = false ∧
          Stretch (Attempting setup (setup.planSettings o) tasks work) before u after) ∨
        (o.dryRun = true ∧ Rehearsing tasks work before u)) := by
  cases placed with
  | planning quiet =>
      rcases (quiet.2 c calls).toVenue with ⟨_, _, rfl⟩ | ⟨_, _, rfl⟩ <;>
        exact absurd sends not_false
  | signing passed quiet raced shown planned silent =>
      rcases quiet.2 c calls with rfl | ⟨_, _, rfl⟩ <;> exact absurd sends not_false
  | attempting plain passed inLine stretch => exact ⟨_, _, passed, inLine, .inl ⟨plain, stretch⟩⟩
  | rehearsing dry passed inLine rehearsing => exact ⟨_, _, passed, inLine, .inr ⟨dry, rehearsing⟩⟩

end

/-! ## Planning and the batch -/

section

variable {setup : Setup} {o : Options} {plan : Plan} {b b' : Board} {ts : List Turn}

lemma priced_of_goes_planning {made : Option Plan} (go : Talk.Goes (planning setup o) ts made) :
    ∀ t ∈ ts, t.step.Quiet (Planning.Priced (setup.planSettings o).feeLevels) :=
  (Planning.priced_plan _ _ _).of_goes go

lemma quiet_of_goes_planning {made : Option Plan} (go : Talk.Goes (planning setup o) ts made) :
    ∀ t ∈ ts, t.step.Quiet Planning.ToVenue :=
  (Planning.callsOnly_plan _ _ _).of_goes go

lemma quiet_of_goes_signing {outcome : Option Signatures}
    (go : Talk.Goes (signing setup plan) ts outcome) :
    ∀ t ∈ ts, t.step.Quiet (Signing.Requests (primaries plan.tasks)) :=
  (Signing.only_batch _ _).untilStopped.quiet_of_goes go

lemma aligned_of_goes_signing {outcome : Signatures}
    (go : Talk.Goes (signing setup plan) ts (some outcome)) :
    Signing.Aligned (primaries plan.tasks) outcome := by
  rcases Talk.Goes.of_untilStopped go with ⟨a, x, us, h, -, batch⟩ | ⟨h, -⟩
  · obtain rfl := Option.some.inj h
    exact Signing.aligned_of_goes_batch batch
  · cases h

/-- A batch that was given up was told of the cancellation. -/
lemma tellsStop_of_goes_signing (go : Talk.Goes (signing setup plan) ts none) :
    ∃ t ∈ ts, t.tellsStop = true := by
  rcases Talk.Goes.of_untilStopped go with ⟨a, x, us, h, -, -⟩ | ⟨-, us, t, rfl, tells⟩
  · cases h
  · exact ⟨t, by simp, tells⟩

/-! ## Working -/

lemma Worked.onward {work : List ((Task × Option Transaction) × Nat)}
    (worked : Worked setup o work b ts b') : b.Onward b' := by
  cases worked with
  | submitted plain submitted => exact submitted.onward
  | rehearsed dry rehearsed => exact rehearsed.onward

lemma Worked.shows {work : List ((Task × Option Transaction) × Nat)}
    (worked : Worked setup o work b ts b') : Shows b.Onward ts := by
  cases worked with
  | submitted plain submitted => exact submitted.shows
  | rehearsed dry rehearsed => exact rehearsed.shows

theorem Worked.ended {work : List ((Task × Option Transaction) × Nat)}
    (worked : Worked setup o work b ts b') :
    (∀ {task primary index}, ((task, some primary), index) ∈ work → b'.Ended index) ∨
      ∃ t ∈ ts, t.tellsStop = true := by
  cases worked with
  | submitted plain submitted => exact submitted.ended
  | rehearsed dry rehearsed => exact rehearsed.ended

theorem Worked.placed {work : List ((Task × Option Transaction) × Nat)}
    (worked : Worked setup o work b ts b') (passed : setup.guard.checkAll b.tasks = .ok ())
    (inLine : InLine b.tasks work) {u : Turn} {c : Call} (calls : u.step.call? = some c)
    {before after : List Turn} (split : ts = before ++ u :: after) :
    Placed setup o before u after := by
  cases worked with
  | submitted plain submitted =>
      exact .attempting plain passed inLine (submitted.stretch calls split)
  | rehearsed dry rehearsed =>
      exact .rehearsing dry passed inLine (rehearsed.rehearsing calls split)

/-! ## Execution -/

@[simp] lemma isActive_planned (b : Board) (tasks : List Task) :
    (b.planned tasks).isActive = true := by simp [Board.isActive, Board.planned]

@[simp] lemma tasks_planned (b : Board) (tasks : List Task) :
    (b.planned tasks).tasks = tasks := by
  simp [Board.tasks, Board.planned, Function.comp_def, Item.pending]

/-- What a run that acts on its plan shows goes on from the plan. -/
lemma Acted.shows {r : Except ExitError Unit} (acted : Acted setup o plan b ts r b') :
    Shows (b.planned plan.tasks).Onward ts := by
  have planned := Board.Onward.refl (b.planned plan.tasks)
  cases acted with
  | nothing empty x y | refused refused x y => simpa [Step.board?] using planned
  | unsigned passed x signed =>
      simpa [Step.board?, shows_of_quiet (quiet_of_goes_signing signed)] using planned
  | worked passed x signed y settled worked =>
      have works := worked.shows.mono fun _ => settled.onward.trans
      simp [Step.board?, shows_of_quiet (quiet_of_goes_signing signed), planned, settled.shows,
        works]

/-- Only boards of a run under way are shown between its start and its end. -/
lemma Executed.showsActive {r : Except ExitError Unit}
    (executed : Executed setup o b ts r b') : ShowsActive ts := by
  cases executed with
  | unplanned planned => exact shows_of_quiet (quiet_of_goes_planning planned)
  | planned planned acted =>
      have active := acted.shows.mono fun _ onward => onward.isActive.trans (isActive_planned b _)
      exact shows_append.2 ⟨shows_of_quiet (quiet_of_goes_planning planned), active⟩

/-- What a run does with its plan keeps the tasks. -/
lemma Acted.tasks {r : Except ExitError Unit} (acted : Acted setup o plan b ts r b') :
    b'.tasks = plan.tasks := by
  cases acted with
  | nothing | refused | unsigned => exact tasks_planned b _
  | worked passed x signed y settled worked =>
      exact worked.onward.tasks.trans (settled.onward.tasks.trans (tasks_planned b _))

/-- A call that a run makes once it has its plan is made in the batch or in the work. -/
lemma Acted.place {r : Except ExitError Unit} (acted : Acted setup o plan b ts r b') {u : Turn}
    {c : Call} (calls : u.step.call? = some c) {before after : List Turn}
    (split : ts = before ++ u :: after) :
    setup.guard.checkAll plan.tasks = .ok () ∧
      ((∃ x between outcome last later,
          before = ⟨.publish (b.planned plan.tasks), (), x⟩ :: between ∧ after = last ++ later ∧
          Talk.Goes (signing setup plan) (between ++ u :: last) outcome) ∨
        ∃ earlier first work b₁, before = earlier ++ first ∧ b₁.tasks = plan.tasks ∧
          InLine plan.tasks work ∧ Worked setup o work b₁ (first ++ u :: after) b') := by
  have shown : ∀ x, ∀ t ∈ [(⟨.publish (b.planned plan.tasks), (), x⟩ : Turn)],
      ¬ t.step.call? = some c := by
    simp [Step.call?]
  cases acted with
  | nothing empty x y | refused refused x y =>
      obtain ⟨between, rfl, rest⟩ := place_of_append _ calls (shown x) split
      obtain ⟨rfl, rfl, rfl⟩ := place_unique (P := fun u => u.step.call? = some c) [] [] calls
        (by simp) (by simp) rest
      cases calls
  | unsigned passed x signed =>
      obtain ⟨between, rfl, rfl⟩ := place_of_append _ calls (shown x) split
      exact ⟨passed, .inl ⟨x, between, _, after, [], rfl, (List.append_nil _).symm, signed⟩⟩
  | @worked us outcome vs slots b₁ ws _ passed x signed y settled worked =>
      refine ⟨passed, ?_⟩
      obtain ⟨between, rfl, inside⟩ := place_of_append _ calls (shown x) split
      rcases place_cases inside with ⟨last, rfl, rfl⟩ | ⟨first, rfl, later⟩
      · exact .inl ⟨x, between, _, last, _, rfl, rfl, signed⟩
      · have silent : ∀ notice, ∀ t ∈ (⟨.note notice, (), y⟩ : Turn) :: vs,
            ¬ t.step.call? = some c := by
          refine fun notice => List.forall_mem_cons.2 ⟨by simp [Step.call?], fun t ht => ?_⟩
          simp [settled.callless t ht]
        obtain ⟨first, rfl, rfl⟩ := place_of_append (_ :: vs) calls (silent _) later
        refine .inr ⟨_, first, _, b₁, by rw [← List.append_assoc us, ← List.append_assoc], ?_, ?_,
          worked⟩
        · exact settled.onward.tasks.trans (tasks_planned b _)
        · exact fun _ _ _ => (settled.work (aligned_of_goes_signing signed)).1

/-- A call that a run makes once it has its plan has its place in the batch or in the work. -/
theorem Acted.placed {r : Except ExitError Unit} (acted : Acted setup o plan b ts r b') {u : Turn}
    {c : Call} (calls : u.step.call? = some c) {before after : List Turn}
    (split : ts = before ++ u :: after) : Placed setup o before u after := by
  obtain ⟨passed, ⟨x, between, outcome, last, later, rfl, rfl, signed⟩ |
    ⟨earlier, first, work, b₁, rfl, tasks, inLine, worked⟩⟩ := acted.place calls split
  · -- A call of the batch stands behind the board of the plan.
    have quiet := quiet_of_goes_signing signed
    refine .append_right later <| .signing passed (quiet u (by simp))
      (Talk.Goes.raced_of_untilStopped signed u (by simp)) (List.nil_append _).symm
      (tasks_planned b _) ?_
    exact fun t ht => (quiet t (by simp [ht])).1
  · exact (worked.placed (tasks ▸ passed) (tasks ▸ inLine) calls rfl).append_left earlier

/-- Once a run has its plan, it orders drafts in attempts only, and a dry run orders none. -/
lemma Acted.attempting_of_build {r : Except ExitError Unit} (acted : Acted setup o plan b ts r b')
    {u : Turn} {adapter : Nat} {order : BuildOrder}
    (builds : u.step.call? = some (.build adapter order)) {before after : List Turn}
    (split : ts = before ++ u :: after) :
    o.dryRun = false ∧ ∃ tasks work,
      Stretch (Attempting setup (setup.planSettings o) tasks work) before u after := by
  obtain ⟨-, ⟨x, between, outcome, last, later, rfl, rfl, signed⟩ |
    ⟨earlier, first, work, b₁, rfl, -, -, worked⟩⟩ := acted.place builds split
  · rcases (quiet_of_goes_signing signed u (by simp)).2 _ builds with h | ⟨_, _, h⟩ <;> cases h
  · cases worked with
    | submitted plain submitted =>
        exact ⟨plain, b₁.tasks, work, (submitted.stretch builds rfl).append_left earlier⟩
    | rehearsed dry rehearsed =>
        cases rehearsed.rehearsing builds rfl
        cases builds

/-- Every call of a run has its place. -/
theorem Executed.placed {r : Except ExitError Unit} (executed : Executed setup o b ts r b')
    {u : Turn} {c : Call} (calls : u.step.call? = some c) {before after : List Turn}
    (split : ts = before ++ u :: after) : Placed setup o before u after := by
  cases executed with
  | unplanned planned => exact .planning (priced_of_goes_planning planned u (by simp [split]))
  | @planned ps plan us _ _ planned acted =>
      rcases place_cases split with ⟨between, rfl, rfl⟩ | ⟨between, rfl, inside⟩
      · exact .planning (priced_of_goes_planning planned u (by simp))
      · exact (acted.placed calls inside).append_left ps

/-! ## Ends -/

/-- A run that did its work has ended every item, unless it was told of a cancellation. -/
theorem Acted.ended (acted : Acted setup o plan b ts (.ok ()) b') :
    (∀ k, b'.Ended k) ∨ ∃ t ∈ ts, t.tellsStop = true := by
  have tasks := acted.tasks
  cases acted with
  | nothing empty x y =>
      refine .inl fun k i hi => ?_
      simp [Board.planned, empty] at hi
  | worked passed x signed y settled worked =>
      rcases worked.ended with all | ⟨t, ht, tells⟩
      · refine .inl fun k i hi => ?_
        have planned : k < plan.tasks.length := by
          obtain ⟨h, -⟩ := List.getElem?_eq_some_iff.1 hi
          rw [← tasks]
          simpa [Board.tasks] using h
        rcases (settled.work (aligned_of_goes_signing signed)).2 planned with
          ended | ⟨task, primary, mem⟩
        · exact worked.onward.ended ended i hi
        · exact all mem i hi
      · exact .inr ⟨t, by simp [ht], tells⟩

theorem Executed.ended (executed : Executed setup o b ts (.ok ()) b') :
    (∀ k, b'.Ended k) ∨ ∃ t ∈ ts, t.tellsStop = true := by
  cases executed with
  | planned planned acted =>
      rcases acted.ended with all | ⟨t, ht, tells⟩
      · exact .inl all
      · exact .inr ⟨t, by simp [ht], tells⟩

/-- A run was ended as cancelled only where it was told of a cancellation. -/
theorem Executed.tellsStop (executed : Executed setup o b ts (.error .cancelled) b') :
    ∃ t ∈ ts, t.tellsStop = true := by
  cases executed with
  | unplanned planned =>
      obtain ⟨us, t, rfl, tells⟩ := Planning.tellsStop_of_goes_plan planned
      exact ⟨t, by simp, tells⟩
  | planned planned acted =>
      cases acted with
      | unsigned passed x signed =>
          obtain ⟨t, ht, tells⟩ := tellsStop_of_goes_signing signed
          exact ⟨t, by simp [ht], tells⟩

/-- Besides a cancellation only a stranger in the plan fails a run. -/
lemma Executed.refused_of_error {e : ExitError} (executed : Executed setup o b ts (.error e) b')
    (harmful : e ≠ .cancelled) : ∃ ps plan us strangers, ts = ps ++ us ∧
      Talk.Goes (planning setup o) ps (some plan) ∧
      setup.guard.checkAll plan.tasks = .error strangers ∧ e = .unexpectedSigner strangers := by
  cases executed with
  | unplanned => exact absurd rfl harmful
  | planned planned acted =>
      cases acted with
      | unsigned => exact absurd rfl harmful
      | refused refused x y => exact ⟨_, _, _, _, rfl, planned, refused, rfl⟩

/-! ## The plan -/

/-- What comes after the planning in which a run makes its plan is the run acting on this plan. -/
lemma Executed.acted_of_planned {r : Except ExitError Unit}
    (executed : Executed setup o b ts r b') {ps rest vs : List Turn}
    (planned : Talk.Goes (planning setup o) ps (some plan)) (split : ts ++ vs = ps ++ rest) :
    ∃ us, ts = ps ++ us ∧ Acted setup o plan b us r b' := by
  cases executed with
  | unplanned none =>
      obtain ⟨-, h, -⟩ := none.unique planned split
      cases h
  | @planned ps' plan' us _ _ made acted =>
      rw [List.append_assoc] at split
      obtain ⟨rfl, h, -⟩ := made.unique planned split
      obtain rfl := Option.some.inj h
      exact ⟨us, rfl, acted⟩

/-- The run made the plan: it stands at the end of the planning with which the run begins. -/
def Planned (setup : Setup) (o : Options) (turns : List Turn) (plan : Plan) : Prop :=
  ∃ x ps rest, turns = ⟨.publish Board.opened, (), x⟩ :: (ps ++ rest) ∧
    Talk.Goes (planning setup o) ps (some plan)

end

end Run

namespace Desk.Ran

open Run

variable {d : Desk} {setup : Setup} {o : Options} {turns : List Turn}
  {result : Except ExitError Board}

/-- A run opens, is executed and concludes. -/
lemma course (ran : d.Ran setup o turns result) :
    ∃ x us outcome b vs b', turns = ⟨.publish Board.opened, (), x⟩ :: (us ++ vs) ∧
      Executed setup o Board.opened us outcome b ∧ Concluded b outcome vs result b' :=
  goes_whole ran.goes

/-- A run that made its plan acts on it and concludes. -/
lemma acted (ran : d.Ran setup o turns result) {plan : Plan}
    (planned : Planned setup o turns plan) :
    ∃ x ps us outcome b vs b', turns = ⟨.publish Board.opened, (), x⟩ :: (ps ++ us ++ vs) ∧
      Talk.Goes (planning setup o) ps (some plan) ∧
      Acted setup o plan Board.opened us outcome b ∧ Concluded b outcome vs result b' := by
  obtain ⟨x, us, outcome, b, vs, b', rfl, executed, concluded⟩ := ran.course
  obtain ⟨y, ps, rest, split, made⟩ := planned
  obtain ⟨us, rfl, acted⟩ := executed.acted_of_planned made (List.cons.inj split).2
  exact ⟨x, ps, us, outcome, b, vs, b', rfl, made, acted, concluded⟩

/-- A run fails only where the guard refuses its plan. -/
lemma refused_of_error {e : ExitError} (ran : d.Ran setup o turns (.error e)) :
    ∃ plan strangers, Planned setup o turns plan ∧
      setup.guard.checkAll plan.tasks = .error strangers ∧ e = .unexpectedSigner strangers := by
  obtain ⟨x, us, outcome, b, vs, b', rfl, executed, concluded⟩ := ran.course
  cases concluded with
  | givenUp harmful cancelled y z w =>
      obtain ⟨ps, plan, us, strangers, rfl, made, refused, rfl⟩ := executed.refused_of_error harmful
      exact ⟨plan, strangers, ⟨x, ps, us ++ _, by rw [List.append_assoc], made⟩, refused, rfl⟩

/-- A run that is told of a cancellation was cancelled. -/
lemma exists_aborted (ran : d.Ran setup o turns result) (sound : d.Sound) {t : Turn}
    (mem : t ∈ turns) (tells : t.tellsStop = true) : ∃ u ∈ turns, u.aborted = true := by
  obtain ⟨before, after, rfl⟩ := List.append_of_mem mem
  have known : (d.afterAll (before ++ [t])).stopped = true := by
    rw [afterAll_append]
    exact stopped_of_tellsStop ran.admits.fits tells
  rcases aborted_of_stopped known with earlier | ⟨u, hu, aborted⟩
  · rw [sound.stopped_eq_false ran.accepted] at earlier
    cases earlier
  · refine ⟨u, ?_, aborted⟩
    rw [List.append_cons]
    exact List.mem_append_left after hu

/-- The end of a run makes no call. -/
lemma callless_of_concluded {outcome : Except ExitError Unit} {b b' : Board} {ts : List Turn}
    (concluded : Concluded b outcome ts result b') : ∀ t ∈ ts, t.step.call? = none := by
  cases concluded <;> simp [Step.call?]

/-- Every call of a run has its place, and only boards of a run under way are shown before it. -/
theorem placed (ran : d.Ran setup o turns result) {u : Turn} {c : Call}
    (calls : u.step.call? = some c) {before after : List Turn}
    (split : turns = before ++ u :: after) :
    Placed setup o before u after ∧ ShowsActive before := by
  obtain ⟨x, us, outcome, b, vs, b', rfl, executed, concluded⟩ := ran.course
  have ends : ∀ t ∈ vs, ¬ t.step.call? = some c := by
    intro t ht
    simp [callless_of_concluded concluded t ht]
  obtain ⟨between, last, rfl, rfl, rfl⟩ := place_between (P := fun u => u.step.call? = some c)
    [_] us vs calls (by simp [Step.call?]) ends split
  refine ⟨((executed.placed calls rfl).append_right vs).append_left _, ?_⟩
  have active := (shows_append.1 executed.showsActive).1
  have opened : Board.opened.isActive = true := rfl
  exact shows_cons.2 ⟨by simp [Step.board?, opened], active⟩

end Desk.Ran

end PoolExit
