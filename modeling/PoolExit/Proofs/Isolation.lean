import PoolExit.Proofs.Answers
import PoolExit.Proofs.Ending

/-!
# Items do not disturb each other

Two exits that plan the same task bring it equally far, if each call is answered from its arguments
alone and neither exit is cancelled.  The other tasks may differ, and with them the place of the
task in the plan, the calls before it and the way in which the batch is signed.

For in such an exit every task comes as far as the answers say (`Desk.Undisturbed.outcome_eq`).
-/

namespace PoolExit

namespace Run

variable {A : Answers} {setup : Setup} {o : Options} {plan : Plan} {b b' : Board} {ts : List Turn}

/-! ## One item among others -/

/-- What the work on all items means to one of them.  Without a signed transaction it is passed
over; with one it stays as it is up to the work on it, and from there on. -/
inductive Fares (K : Transaction → Nat → Task → Board → List Turn → Board → Prop) (ts : List Turn)
    (k : Nat) (task : Task) (i : Item) : Option Transaction → Item → Prop
  | passed : Fares K ts k task i none i
  | worked {primary b us b' j} (item : K primary k task b us b') (within : us ⊆ ts)
      (found : b.items[k]? = some i) (found' : b'.items[k]? = some j) :
      Fares K ts k task i (some primary) j

section

variable {K : Transaction → Nat → Task → Board → List Turn → Board → Prop} {us : List Turn}
  {k : Nat} {task : Task} {i j : Item} {slot : Option Transaction}

lemma Fares.mono (fares : Fares K ts k task i slot j) (within : ts ⊆ us) :
    Fares K us k task i slot j := by
  cases fares with
  | passed => exact .passed
  | worked item inside found found' =>
      exact .worked item (fun t ht => within (inside ht)) found found'

/-- If the work on an item is determined by how far it has come, so is what the work on all items
means to it. -/
lemma Fares.outcome (brings : Transaction → Outcome → Outcome)
    (fares : Fares K ts k task i slot j) (serves : ∀ t ∈ ts, A.Serves t)
    (law : ∀ {primary b us b' i}, K primary k task b us b' → (∀ t ∈ us, A.Serves t) →
      b.items[k]? = some i → i.Ongoing →
      ∃ j, b'.items[k]? = some j ∧ j.outcome = brings primary i.outcome)
    (ongoing : slot ≠ none → i.Ongoing) :
    j.outcome = slot.elim i.outcome fun primary => brings primary i.outcome := by
  cases fares with
  | passed => rfl
  | worked item within found found' =>
      obtain ⟨j', same, out⟩ := law item (fun t ht => serves t (within ht)) found (ongoing nofun)
      obtain rfl := Option.some.inj (found'.symm.trans same)
      exact out

variable {work : List ((Task × Option Transaction) × Nat)}

/-- Work on other items leaves an item as it is. -/
lemma Rounds.kept (rounds : Rounds K work b ts b')
    (touches : ∀ {primary k task b us b'}, K primary k task b us b' → b.Touched k b')
    (elsewhere : ∀ e ∈ work, e.2 ≠ k) : b'.items[k]? = b.items[k]? := by
  induction rounds with
  | done | stopped => rfl
  | unsigned rest ih => exact ih fun e he => elsewhere e (by simp [he])
  | @worked task primary index work b ts b₁ us b' x y item rest ih =>
      rw [ih fun e he => elsewhere e (by simp [he]),
        (touches item).getElem?_of_ne (elsewhere _ List.mem_cons_self)]
      rfl

/-- Every item is worked on for itself. -/
lemma Rounds.fares (rounds : Rounds K work b ts b')
    (touches : ∀ {primary k task b us b'}, K primary k task b us b' → b.Touched k b')
    (goesOn : ∀ t ∈ ts, t.tellsStop = false) (distinct : (work.map Prod.snd).Nodup)
    (mem : ((task, slot), k) ∈ work) (found : b.items[k]? = some i) :
    ∃ j, b'.items[k]? = some j ∧ Fares K ts k task i slot j := by
  induction rounds with
  | done => simp at mem
  | stopped => cases goesOn _ List.mem_cons_self
  | @unsigned task' index work b ts b' rest ih =>
      obtain ⟨first, others⟩ := List.nodup_cons.1 distinct
      rcases List.mem_cons.1 mem with h | mem
      · obtain ⟨⟨rfl, rfl⟩, rfl⟩ : (task = task' ∧ slot = none) ∧ k = index := by simpa using h
        have kept := rest.kept touches fun e he same => first (List.mem_map.2 ⟨e, he, same⟩)
        exact ⟨i, kept.trans found, .passed⟩
      · exact ih goesOn others mem found
  | @worked task' primary index work b ts b₁ us b' x y item rest ih =>
      obtain ⟨first, others⟩ := List.nodup_cons.1 distinct
      have touched := touches item
      rcases List.mem_cons.1 mem with h | mem
      · obtain ⟨⟨rfl, rfl⟩, rfl⟩ : (task = task' ∧ slot = some primary) ∧ k = index := by
          simpa using h
        have kept := rest.kept touches fun e he same => first (List.mem_map.2 ⟨e, he, same⟩)
        obtain ⟨j, found'⟩ : ∃ j, b₁.items[k]? = some j := by
          obtain ⟨change, -, rfl⟩ := touched
          exact ⟨change i, by rw [Board.getElem?_update, if_pos rfl]; simp [Board.focus, found]⟩
        exact ⟨j, kept.trans found', .worked item (fun t ht => by simp [ht]) found found'⟩
      · have ne : index ≠ k := fun same => first (List.mem_map.2 ⟨_, mem, same.symm⟩)
        obtain ⟨j, found', fares⟩ := ih (fun t ht => goesOn t (by simp [ht])) others mem
          ((touched.getElem?_of_ne ne).trans found)
        exact ⟨j, found', fares.mono fun t ht => by simp [ht]⟩

end

/-! ## One task of a plan -/

/-- The slot of a task in the batch is filled as the wallet signs its primary draft. -/
lemma slot_of_goes_signing {us : List Turn} {outcome : Signatures} {k : Nat} {task : Task}
    (signed : Talk.Goes (signing setup plan) us (some outcome)) (serves : ∀ t ∈ us, A.Serves t)
    (planned : plan.tasks[k]? = some task) :
    ∃ slot, (outcome.transactions.zip outcome.errors)[k]? = some slot ∧
      Signing.filled slot = A.signed task.primary.transaction := by
  rcases Talk.Goes.of_untilStopped signed with ⟨a, x, vs, h, rfl, batch⟩ | ⟨h, -⟩
  · obtain rfl := Option.some.inj h
    have filled := Signing.filled_of_goes_batch batch fun t ht =>
      Answers.serves_raced.1 (serves t.raced (by simpa using .inr ⟨t, ht, rfl⟩))
    obtain ⟨inside, rfl⟩ := List.getElem?_eq_some_iff.1 planned
    have inside' : k < (outcome.transactions.zip outcome.errors).length := by
      rw [← filled.length_eq]
      simpa using inside
    refine ⟨_, List.getElem?_eq_getElem inside', ?_⟩
    simpa using filled.get (i := k) (by simpa using inside) inside'
  · cases h

/-- Once the plan is signed, the work brings each of its tasks as far as the answers say. -/
lemma outcome_of_worked {us vs : List Turn} {outcome : Signatures}
    {slots : List (Option Transaction)} {k : Nat} {task : Task}
    (signed : Talk.Goes (signing setup plan) us (some outcome))
    (settled : Settled (entries plan outcome) (Board.opened.planned plan.tasks) vs slots b)
    (worked : Worked setup o (plan.tasks.zip slots).zipIdx b ts b')
    (signs : ∀ t ∈ us, A.Serves t) (serves : ∀ t ∈ ts, A.Serves t)
    (planned : plan.tasks[k]? = some task) :
    ∃ i, b'.items[k]? = some i ∧ i.outcome = A.outcome setup o task := by
  have goesOn : ∀ t ∈ ts, t.tellsStop = false := fun t ht => (serves t ht).goesOn
  have distinct : ((plan.tasks.zip slots).zipIdx.map Prod.snd).Nodup := by
    rw [List.zipIdx_map_snd]
    exact List.nodup_range'
  obtain ⟨⟨t, error⟩, listed, filled⟩ := slot_of_goes_signing signed signs planned
  have at_k : (plan.tasks.zip (outcome.transactions.zip outcome.errors))[k]? =
      some (task, t, error) := List.getElem?_zip_eq_some.2 ⟨planned, listed⟩
  -- The item and the slot are as the batch left them.
  have found : b.items[0 + k]? = some (settledItem task error) :=
    (settled.settledFrom rfl (pendingFrom_planned plan _)).2 at_k
  rw [Nat.zero_add] at found
  obtain ⟨inside, -⟩ := List.getElem?_eq_some_iff.1 planned
  obtain ⟨_, _, slot, slotted, -⟩ := settled.slot (aligned_of_goes_signing signed) inside
  obtain ⟨_, _, _, same, fills⟩ := settled.slot_of_getElem? slotted
  cases Option.some.inj (same.symm.trans at_k)
  have mem : ((task, slot), k) ∈ (plan.tasks.zip slots).zipIdx :=
    List.mem_zipIdx_iff_getElem?.2 (List.getElem?_zip_eq_some.2 ⟨planned, slotted⟩)
  have ongoing : slot ≠ none → (settledItem task error).Ongoing := by
    cases fills with
    | signed => exact fun _ => .inl rfl
    | refused => exact fun h => absurd rfl h
  have expected : A.outcome setup o task = slot.elim (settledItem task error).outcome fun primary =>
      if o.dryRun then A.rehearse primary (settledItem task error).outcome
      else A.pursue setup (setup.planSettings o).order primary task (settledItem task error).outcome
        task.attempts := by
    rw [Answers.outcome, ← filled]
    cases fills <;> rfl
  cases worked with
  | submitted plain submitted =>
      obtain ⟨j, found', fares⟩ :=
        submitted.rounds.fares (fun handled => handled.touched) goesOn distinct mem found
      have out := fares.outcome (fun primary i =>
        A.pursue setup (setup.planSettings o).order primary task i task.attempts) serves
        (fun handled => handled.pursued) ongoing
      exact ⟨j, found', by simpa [expected, plain] using out⟩
  | rehearsed dry rehearsed =>
      obtain ⟨j, found', fares⟩ :=
        rehearsed.rounds.fares (fun rehearsal => rehearsal.touched) goesOn distinct mem found
      have out := fares.outcome A.rehearse serves (fun rehearsal => rehearsal.rehearsed) ongoing
      exact ⟨j, found', by simpa [expected, dry] using out⟩

end Run

/-! ## Undisturbed exits -/

namespace Desk

open Run

/-- An exit that nobody cancels and in which each call is answered from its arguments alone. -/
structure Undisturbed (A : Answers) (d : Desk) (setup : Setup) (o : Options) (turns : List Turn)
    (result : Except ExitError Board) (plan : Plan) : Prop where
  ran : d.Ran setup o turns result
  sound : d.Sound
  planned : Planned setup o turns plan
  unaborted : ∀ t ∈ turns, t.aborted = false
  answered : ∀ t ∈ turns, A.Answered t

variable {A : Answers} {d d' : Desk} {setup : Setup} {o o' : Options} {turns turns' : List Turn}
  {result result' : Except ExitError Board} {plan plan' : Plan}

namespace Ran

/-- A run that nobody cancels is told of no cancellation. -/
lemma goesOn (ran : d.Ran setup o turns result) (sound : d.Sound)
    (unaborted : ∀ t ∈ turns, t.aborted = false) : ∀ t ∈ turns, t.tellsStop = false := by
  intro t mem
  by_contra tells
  obtain ⟨u, hu, aborted⟩ := ran.exists_aborted sound mem (by simpa using tells)
  rw [unaborted u hu] at aborted
  cases aborted

/-- A run that is told of no cancellation makes a plan. -/
lemma exists_planned (ran : d.Ran setup o turns result)
    (goesOn : ∀ t ∈ turns, t.tellsStop = false) : ∃ plan, Planned setup o turns plan := by
  obtain ⟨x, us, outcome, b, vs, b', rfl, executed, concluded⟩ := ran.course
  cases executed with
  | unplanned none =>
      obtain ⟨ps, t, rfl, tells⟩ := Planning.tellsStop_of_goes_plan none
      rw [goesOn t (by simp)] at tells
      cases tells
  | @planned ps plan us _ _ made acted => exact ⟨plan, x, ps, us ++ vs, by simp, made⟩

end Ran

end Desk

/-! ## A world that gives the answers -/

namespace Answers

variable {A : Answers}

/-- The world that gives the answers, whatever the venues list, and lets the exit go on. -/
def world (A : Answers) (discover : Nat → Pubkey → Except VenueError (List Listing)) : World where
  answer _
    | .discover adapter owner => discover adapter owner
    | .build adapter order => A.build adapter order
    | .signAll ts => ts.mapM A.sign
    | .signOne t => A.sign t
    | .blockHeight => A.height
    | .simulate t => A.simulate t
    | .submit t => A.submit t
    | .confirm signature expiry => A.confirm signature expiry
  aborts _ _ := false
  loses _ _ := false

lemma gives_signAll : ∀ {ts signed : List Transaction}, ts.mapM A.sign = .ok signed →
    List.Forall₂ (fun t s => A.sign t = .ok s) ts signed
  | [], signed, h => by
      obtain rfl : [] = signed := by simpa [pure, Except.pure] using h
      exact .nil
  | t :: ts, signed, h => by
      rw [List.mapM_cons] at h
      cases first : A.sign t with
      | error e => simp [first, bind, Except.bind] at h
      | ok s =>
          cases rest : ts.mapM A.sign with
          | error e => simp [first, rest, bind, Except.bind] at h
          | ok others =>
              obtain rfl : s :: others = signed := by
                simpa [first, rest, bind, Except.bind, pure, Except.pure] using h
              exact .cons first (gives_signAll rest)

lemma gives_world (discover : Nat → Pubkey → Except VenueError (List Listing))
    (past : List Turn) (c : Call) : A.Gives c ((A.world discover).answer past c) := by
  cases c with
  | signAll ts => exact fun signed h => gives_signAll h
  | discover => trivial
  | build | signOne | blockHeight | simulate | submit | confirm => rfl

/-- In such a world nothing disturbs a talk. -/
lemma undisturbed_play {α : Type} (discover : Nat → Pubkey → Except VenueError (List Listing))
    (p : Talk α) (d : Desk) (past : List Turn) :
    ∀ t ∈ ((A.world discover).play d past p).1, t.aborted = false ∧ A.Answered t := by
  induction p generalizing d past with
  | done a => simp [World.play]
  | ask s next ih =>
      refine List.forall_mem_cons.2 ⟨⟨rfl, ?_⟩, ih _ _ _⟩
      cases s with
      | call c => exact gives_world discover past c
      | race c => exact gives_world discover past c
      | stopped | publish | note => trivial

/-- For all answers there are undisturbed exits. -/
lemma exists_undisturbed (A : Answers)
    (discover : Nat → Pubkey → Except VenueError (List Listing)) {d : Desk} {setup : Setup}
    {o : Options} (sound : d.Sound) (accepted : d.accept o = .ok ()) :
    ∃ plan, d.Undisturbed A setup o ((A.world discover).play d [] (Run.whole setup o)).1
      ((A.world discover).play d [] (Run.whole setup o)).2 plan := by
  have ran : d.Ran setup o _ _ := Desk.ran_play accepted (A.world discover)
  have undisturbed := undisturbed_play (A := A) discover (Run.whole setup o) d []
  obtain ⟨plan, planned⟩ := ran.exists_planned (ran.goesOn sound fun t ht => (undisturbed t ht).1)
  exact ⟨plan, ran, sound, planned, fun t ht => (undisturbed t ht).1,
    fun t ht => (undisturbed t ht).2⟩

end Answers

/-! ## Isolation -/

namespace Desk

open Run

variable {A : Answers} {d d' : Desk} {setup : Setup} {o o' : Options} {turns turns' : List Turn}
  {result result' : Except ExitError Board} {plan plan' : Plan}

namespace Undisturbed

lemma serves (exit : d.Undisturbed A setup o turns result plan) : ∀ t ∈ turns, A.Serves t :=
  fun t mem => ⟨exit.answered t mem, exit.ran.goesOn exit.sound exit.unaborted t mem⟩

/-- An undisturbed exit whose plan passes the guard brings each task as far as the answers say. -/
theorem outcome_eq (exit : d.Undisturbed A setup o turns result plan)
    (passed : setup.guard.checkAll plan.tasks = .ok ()) {k : Nat} {task : Task}
    (found : plan.tasks[k]? = some task) : ∃ board i, result = .ok board ∧
      board.tasks = plan.tasks ∧ board.items[k]? = some i ∧
      i.outcome = A.outcome setup o task := by
  have serves := exit.serves
  have ran := exit.ran
  obtain ⟨x, ps, us, outcome, b, vs, b', rfl, made, acted, concluded⟩ := ran.acted exit.planned
  cases acted with
  | nothing empty => simp [empty] at found
  | refused refused =>
      rw [passed] at refused
      cases refused
  | unsigned _ y signed =>
      obtain ⟨t, mem, tells⟩ := tellsStop_of_goes_signing signed
      rw [(serves t (by simp [mem])).goesOn] at tells
      cases tells
  | @worked us outcome vs slots b₁ ws _ _ y signed z settled worked =>
      have signs : ∀ t ∈ us, A.Serves t := fun t ht => serves t (by simp [ht])
      have works : ∀ t ∈ ws, A.Serves t := fun t ht => serves t (by simp [ht])
      cases concluded with
      | finished harmless cancelled y z w =>
          obtain rfl : cancelled = false :=
            Answers.serves_stopped.1 (serves ⟨.stopped, cancelled, y⟩ (by simp))
          obtain ⟨i, found', out⟩ := outcome_of_worked signed settled worked signs works found
          exact ⟨_, i, rfl, ran.tasks_of_planned exit.planned, found', out⟩

end Undisturbed

/-- **Isolation.**  Two undisturbed exits with the same answers bring a task equally far, whatever
else they plan; in particular as far as an exit that plans this task alone. -/
theorem isolated (exit : d.Undisturbed A setup o turns result plan)
    (alone : d'.Undisturbed A setup o' turns' result' plan')
    (passed : setup.guard.checkAll plan.tasks = .ok ()) (dryRun : o'.dryRun = o.dryRun)
    (slippage : o'.slippageBps = o.slippageBps)
    (ceiling : o'.computeUnitCeiling = o.computeUnitCeiling) {k : Nat} {task : Task}
    (found : plan.tasks[k]? = some task) (only : plan'.tasks = [task]) :
    ∃ board board' i i', result = .ok board ∧ result' = .ok board' ∧ board.tasks = plan.tasks ∧
      board.items[k]? = some i ∧ board'.items = [i'] ∧ i.status = i'.status ∧
      i.submissionId = i'.submissionId ∧ i.feeLevel = i'.feeLevel ∧ i.attempts = i'.attempts := by
  have passed' : setup.guard.checkAll plan'.tasks = .ok () := by
    rw [only]
    rw [Guard.checkAll_eq_ok] at passed ⊢
    simpa using passed task (List.mem_of_getElem? found)
  obtain ⟨board, i, rfl, tasks, listed, out⟩ := exit.outcome_eq passed found
  obtain ⟨board', i', rfl, tasks', listed', out'⟩ :=
    alone.outcome_eq passed' (k := 0) (by rw [only]; rfl)
  have same : A.outcome setup o' task = A.outcome setup o task := by
    have orders : (setup.planSettings o').order = (setup.planSettings o).order := by
      funext position action fee
      simp [PlanSettings.order, Setup.planSettings, slippage, ceiling]
    rw [Answers.outcome, Answers.outcome, dryRun, orders]
  have items : board'.items = [i'] := by
    have one : board'.items.length = 1 := by
      rw [← List.length_map Item.task]
      exact (congrArg List.length tasks').trans (by simp [only])
    obtain ⟨j, items⟩ := List.length_eq_one_iff.1 one
    obtain rfl : j = i' := by simpa [items] using listed'
    exact items
  rw [same, ← out] at out'
  obtain ⟨status, submissionId, feeLevel, attempts⟩ :
      i'.status = i.status ∧ i'.submissionId = i.submissionId ∧ i'.feeLevel = i.feeLevel ∧
        i'.attempts = i.attempts := by
    simpa [Item.outcome] using out'
  exact ⟨board, board', i, i', rfl, rfl, tasks, listed, items, status.symm, submissionId.symm,
    feeLevel.symm, attempts.symm⟩

/-- The wallet refuses to sign the claim of the small exit, and so the batch.  The withdrawal behind
it is confirmed all the same, as in the exit that only withdraws. -/
theorem isolated_from_refused_claim :
    let claim := Sample.transaction [Sample.owner] 1
    let withdrawal := Sample.transaction [Sample.owner] 0
    let A : Answers :=
      { build := fun _ order => .ok ⟨if order.action = .claim then claim else withdrawal, 100⟩
        sign := fun t => if t = claim then .error (.failed "no claims") else .ok t
        height := .ok 20
        simulate := fun _ => .ok ()
        submit := fun _ => .ok (.replicate 64 7)
        confirm := fun _ _ => .ok () }
    let setup := { Sample.setup false with
      bulk := true
      adapters := [⟨.feeVault, fun _ => .ok { Sample.position with liquidity := 1 }⟩] }
    let both := { Sample.options with includeWithdrawals := true }
    let alone := { both with includeClaims := false }
    ∃ (turns turns' : List Turn) (plan plan' : Plan) (board board' : Board) (i i' : Item),
      ({} : Desk).Undisturbed A setup both turns (.ok board) plan ∧
      ({} : Desk).Undisturbed A setup alone turns' (.ok board') plan' ∧
      board.items.map Item.status = [.error, .confirmed] ∧ board.items[1]? = some i ∧
      board'.items = [i'] ∧ i.status = i'.status ∧ i.submissionId = i'.submissionId ∧
      i.feeLevel = i'.feeLevel ∧ i.attempts = i'.attempts := by
  intro claim withdrawal A setup both alone
  let discover : Nat → Pubkey → Except VenueError (List Listing) :=
    fun _ _ => .ok [⟨.feeVault, .null⟩]
  let w := A.world discover
  have statuses : ((w.play {} [] (whole setup both)).2.toOption.map
      fun b => b.items.map Item.status) = some [.error, .confirmed] := by decide +kernel
  have guarded : ((w.play {} [] (whole setup both)).2.toOption.map
      fun b => (setup.guard.checkAll b.tasks).toOption) = some (some ()) := by decide +kernel
  have second : ((w.play {} [] (whole setup both)).2.toOption.map fun b => b.tasks.drop 1) =
      (w.play {} [] (whole setup alone)).2.toOption.map Board.tasks := by decide +kernel
  obtain ⟨plan, exit⟩ : ∃ plan, ({} : Desk).Undisturbed A setup both
      (w.play {} [] (whole setup both)).1 (w.play {} [] (whole setup both)).2 plan :=
    A.exists_undisturbed discover sound_default rfl
  obtain ⟨plan', exit'⟩ : ∃ plan', ({} : Desk).Undisturbed A setup alone
      (w.play {} [] (whole setup alone)).1 (w.play {} [] (whole setup alone)).2 plan' :=
    A.exists_undisturbed discover sound_default rfl
  generalize (w.play {} [] (whole setup both)).2 = result at statuses guarded second exit
  generalize (w.play {} [] (whole setup alone)).2 = result' at second exit'
  cases result with
  | error e => cases statuses
  | ok board =>
      cases result' with
      | error e => cases second
      | ok board' =>
          have planned : board.tasks = plan.tasks := exit.ran.tasks_of_planned exit.planned
          have planned' : board'.tasks = plan'.tasks := exit'.ran.tasks_of_planned exit'.planned
          have ends : board.items.map Item.status = [.error, .confirmed] := Option.some.inj statuses
          obtain ⟨refused, task, two⟩ : ∃ refused task, plan.tasks = [refused, task] := by
            refine List.length_eq_two.1 ?_
            rw [← planned, Board.tasks, List.length_map, ← List.length_map Item.status, ends]
            rfl
          have only : plan'.tasks = [task] := by
            have last : board.tasks.drop 1 = board'.tasks := Option.some.inj second
            rw [← planned', ← last, planned, two]
            rfl
          have passed : setup.guard.checkAll plan.tasks = .ok () := by
            rw [← planned]
            cases checked : setup.guard.checkAll board.tasks with
            | ok u => rfl
            | error e => simp [checked, Except.toOption] at guarded
          obtain ⟨c, c', i, i', same, same', -, listed, items, agree⟩ :=
            isolated exit exit' passed rfl rfl rfl (k := 1) (by rw [two]; rfl) only
          obtain rfl := Except.ok.inj same
          obtain rfl := Except.ok.inj same'
          exact ⟨_, _, plan, plan', board, board', i, i', exit, exit', ends, listed, items, agree⟩

end Desk

end PoolExit
