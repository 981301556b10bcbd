import PoolExit.Command.Arguments
import PoolExit.Command.Errand
import PoolExit.Proofs.Drafting
import PoolExit.Proofs.Play

/-!
# Venues that are named more than once

An exit has an adapter for every mention of a venue, and nobody asks whether a venue was named
before.  Suppose that the adapters of one venue answer alike.  Then a plan is a function of the
answers (`tasks_of_goes_plan`): each adapter is asked for its positions once, and adds the tasks of
its venue.  So a venue that is named twice is asked twice, and each of its positions is claimed and
withdrawn twice (`Command.each_mention_counts`).
-/

namespace PoolExit

namespace Planning

open Talk

/-! ## Answers of venues -/

/-- Answers of the venues, each made from the arguments of the call alone. -/
structure VenueAnswers where
  list : Venue → Pubkey → Except VenueError (List Listing)
  build : Venue → BuildOrder → Except VenueError Draft

namespace VenueAnswers

variable (A : VenueAnswers)

/-- Whether a call is answered so, where the adapters are those of the venues in their order. -/
def Gives (venues : List Venue) : (c : Call) → c.Answer → Prop
  | .discover adapter owner, answer => ∀ v, venues[adapter]? = some v → answer = A.list v owner
  | .build adapter order, answer => ∀ v, venues[adapter]? = some v → answer = A.build v order
  | .signAll _, _ | .signOne _, _ | .blockHeight, _ | .simulate _, _ | .submit _, _
  | .confirm .., _ => True

/-- Whether the call of a turn, if it has one, is answered so. -/
def Answered (venues : List Venue) : Turn → Prop
  | ⟨.call c, answer, _⟩ => A.Gives venues c answer
  | ⟨.race c, some answer, _⟩ => A.Gives venues c answer
  | _ => True

lemma answered_raced {venues : List Venue} {t : Turn} :
    A.Answered venues t.raced ↔ A.Answered venues t := by
  obtain ⟨step, answer, x⟩ := t
  cases step <;> rfl

/-! ## A plan from answers -/

variable (s : PlanSettings)

/-- The drafts for higher fees, up to the first that fails. -/
def higher (p : Position) (action : Action) : List UInt64 → List Variant
  | [] => []
  | fee :: rest =>
    match A.build p.venue (s.order p action fee) with
    | .error _ => []
    | .ok draft => ⟨fee, draft⟩ :: higher p action rest

/-- The task for an action on a position, if there is a draft for the lowest fee. -/
def task (p : Position) (action : Action) : Option Task :=
  match s.feeLevels with
  | [] => none
  | fee :: rest =>
    match A.build p.venue (s.order p action fee) with
    | .error _ => none
    | .ok primary => some {
        venue := p.venue
        kind := action.kind
        pool := p.pool
        companion := p.companion
        action
        position := p
        primaryFeeLevel := fee
        primary
        variants := ⟨fee, primary⟩ :: A.higher s p action rest }

/-- The tasks that an adapter finds. -/
def found (a : Adapter) (index : Nat) : List Task :=
  ((sift s index a (A.list a.venue s.owner)).filterMap Finding.candidate?).filterMap fun c =>
    A.task s c.position c.action

/-- The tasks of a venue. -/
def tasks (v : Venue) : List Task := A.found s ⟨v, v.resolve⟩ 0

lemma higher_withVenues (venues : List Venue) (p : Position) (action : Action) :
    ∀ fees, A.higher { s with venues } p action fees = A.higher s p action fees
  | [] => rfl
  | fee :: rest => by
      rw [higher, higher, higher_withVenues venues p action rest]
      rfl

/-- The tasks of a venue do not depend on which venues are asked. -/
lemma tasks_withVenues (venues : List Venue) : A.tasks { s with venues } = A.tasks s := by
  have task : A.task { s with venues } = A.task s := by
    funext p action
    unfold VenueAnswers.task
    simp only [higher_withVenues]
    rfl
  funext v
  rw [tasks, tasks, found, found, task]
  rfl

end VenueAnswers

/-- The venue that is asked for positions in a turn. -/
def discovered? (venues : List Venue) (t : Turn) : Option Venue :=
  match t.step.call? with
  | some (.discover adapter _) => venues[adapter]?
  | _ => none

/-- The venues that are asked for positions, once for each time. -/
def asked (venues : List Venue) (ts : List Turn) : List Venue := ts.filterMap (discovered? venues)

section

variable {A : VenueAnswers} {venues : List Venue} {s : PlanSettings} {ts us : List Turn}

lemma asked_append (ts us : List Turn) :
    asked venues (ts ++ us) = asked venues ts ++ asked venues us := List.filterMap_append

lemma asked_raced (ts : List Turn) : asked venues (ts.map Turn.raced) = asked venues ts := by
  have same : discovered? venues ∘ Turn.raced = discovered? venues := by
    funext t
    obtain ⟨step, answer, x⟩ := t
    cases step <;> rfl
  rw [asked, List.filterMap_map, same, asked]

/-- Who asks for drafts only, asks no venue for its positions. -/
lemma asked_of_ordered {fees : List UInt64} (ordered : ∀ t ∈ ts, t.step.Quiet (Ordered fees)) :
    asked venues ts = [] := by
  refine List.filterMap_eq_nil_iff.2 fun t mem => ?_
  unfold discovered?
  split
  next calls =>
    obtain ⟨_, _, h, -⟩ := (ordered t mem).2 _ calls
    cases h
  next => rfl

lemma asked_of_callless (callless : ∀ t ∈ ts, t.step.call? = none) : asked venues ts = [] := by
  refine List.filterMap_eq_nil_iff.2 fun t mem => ?_
  rw [discovered?, callless t mem]

/-! ## Both rounds -/

lemma eq_list {adapter : Nat} {v : Venue} {owner : Pubkey}
    {answer : Except VenueError (List Listing)} {x : Bool} (here : venues[adapter]? = some v)
    (answered : A.Answered venues ⟨.call (.discover adapter owner), answer, x⟩) :
    answer = A.list v owner := answered v here

lemma eq_build {adapter : Nat} {v : Venue} {order : BuildOrder} {answer : Except VenueError Draft}
    {x : Bool} (here : venues[adapter]? = some v)
    (answered : A.Answered venues ⟨.call (.build adapter order), answer, x⟩) :
    answer = A.build v order := answered v here

/-- What an adapter lists is sifted alike at each place. -/
lemma found_eq (a : Adapter) (index : Nat) : A.found s a index = A.found s a 0 := by
  unfold VenueAnswers.found
  cases A.list a.venue s.owner with
  | error e => rfl
  | ok listings =>
      simp only [sift, List.filterMap_flatMap]
      congr 1
      funext l
      unfold siftListing
      split
      · rfl
      · split
        · rfl
        · split
          · rfl
          · simp [List.filterMap_map, Function.comp_def, Finding.candidate?]

lemma higher_of_goes {c : Candidate} (here : venues[c.adapter]? = some c.position.venue) :
    ∀ {fees : List UInt64} {built variants : List Variant} {ts : List Turn},
    Goes (buildHigher s c built fees) ts variants → (∀ t ∈ ts, A.Answered venues t) →
    variants = built ++ A.higher s c.position c.action fees
  | [], built, _, _, go, _ => by
      obtain ⟨-, rfl⟩ := goes_pure.1 go
      simp [VenueAnswers.higher]
  | fee :: rest, built, variants, _, go, answered => by
      obtain ⟨answer, _, _, rfl, asking, next⟩ := goes_bind.1 go
      obtain ⟨x, rfl⟩ := goes_call.1 asking
      obtain rfl := eq_build here (answered _ List.mem_cons_self)
      rw [VenueAnswers.higher]
      split at next
      next e built' =>
        obtain ⟨_, _, _, rfl, -, done⟩ := goes_bind.1 next
        obtain ⟨-, rfl⟩ := goes_pure.1 done
        simp [built']
      next draft built' =>
        obtain ⟨_, _, _, rfl, -, going⟩ := goes_bind.1 next
        have rest := higher_of_goes here going fun t mem => answered t (by simp [mem])
        simp [built', rest]

/-- A candidate gets its task from the answers of its venue. -/
lemma task_of_goes {c : Candidate} (here : venues[c.adapter]? = some c.position.venue)
    {r : Except VenueError Task} (go : Goes (buildTask s c) ts r)
    (answered : ∀ t ∈ ts, A.Answered venues t) : r.toOption = A.task s c.position c.action := by
  unfold buildTask at go
  unfold VenueAnswers.task
  cases levels : s.feeLevels with
  | nil =>
      simp only [levels] at go
      obtain ⟨-, rfl⟩ := goes_pure.1 go
      rfl
  | cons fee rest =>
      simp only [levels] at go
      obtain ⟨answer, _, _, rfl, asking, next⟩ := goes_bind.1 go
      obtain ⟨x, rfl⟩ := goes_call.1 asking
      obtain rfl := eq_build here (answered _ List.mem_cons_self)
      split at next
      next e built' =>
        obtain ⟨-, rfl⟩ := goes_pure.1 next
        simp [built', Except.toOption]
      next primary built' =>
        obtain ⟨_, _, _, rfl, -, building⟩ := goes_bind.1 next
        obtain ⟨variants, _, _, rfl, rising, done⟩ := goes_bind.1 building
        obtain ⟨-, rfl⟩ := goes_pure.1 done
        have higher := higher_of_goes here rising fun t mem => answered t (by simp [mem])
        simp [built', higher, Except.toOption]

lemma tasks_of_goes_buildTasks : ∀ {cs : List Candidate} {ts : List Turn}
    {results : List (Candidate × Except VenueError Task)},
    (∀ c ∈ cs, venues[c.adapter]? = some c.position.venue) → Goes (buildTasks s cs) ts results →
    (∀ t ∈ ts, A.Answered venues t) →
    results.filterMap built = cs.filterMap fun c => A.task s c.position c.action
  | [], _, _, _, go, _ => by
      obtain ⟨-, rfl⟩ := goes_pure.1 go
      rfl
  | c :: rest, _, _, here, go, answered => by
      obtain ⟨made, _, _, rfl, first, next⟩ := goes_bind.1 go
      obtain ⟨others, _, _, rfl, building, done⟩ := goes_bind.1 next
      obtain ⟨-, rfl⟩ := goes_pure.1 done
      obtain ⟨there, later⟩ := List.forall_mem_cons.1 here
      have task := task_of_goes there first fun t mem => answered t (by simp [mem])
      have tasks := tasks_of_goes_buildTasks later building fun t mem => answered t (by simp [mem])
      have single : built (c, made) = made.toOption := by cases made <;> rfl
      rw [List.filterMap_cons, List.filterMap_cons, single, task, tasks]

/-- Every adapter is asked once, and what it lists is sifted. -/
lemma candidates_of_goes_discover : ∀ {adapters : List (Adapter × Nat)} {ts : List Turn}
    {findings : List Finding}, (∀ a ∈ adapters, venues[a.2]? = some a.1.venue) →
    Goes (discover s adapters) ts findings → (∀ t ∈ ts, A.Answered venues t) →
    asked venues ts = adapters.map (fun a => a.1.venue) ∧
      findings.filterMap Finding.candidate? = adapters.flatMap fun a =>
        (sift s a.2 a.1 (A.list a.1.venue s.owner)).filterMap Finding.candidate?
  | [], _, _, _, go, _ => by
      obtain ⟨rfl, rfl⟩ := goes_pure.1 go
      exact ⟨rfl, rfl⟩
  | (a, index) :: rest, _, _, here, go, answered => by
      obtain ⟨there, later⟩ := List.forall_mem_cons.1 here
      obtain ⟨answer, _, vs, rfl, asking, listing⟩ := goes_bind.1 go
      obtain ⟨x, rfl⟩ := goes_call.1 asking
      obtain rfl := eq_list there (answered _ List.mem_cons_self)
      -- After the report of what was listed, the others are asked.
      obtain ⟨ns, us, others, reports, rfl, found, rfl⟩ : ∃ ns us others,
          (∀ t ∈ ns, t.step.call? = none) ∧ vs = ns ++ us ∧ Goes (discover s rest) us others ∧
          _ = sift s index a (A.list a.venue s.owner) ++ others := by
        split at listing
        next listings listed =>
          obtain ⟨_, ns, _, rfl, note, next⟩ := goes_bind.1 listing
          obtain ⟨y, rfl⟩ := goes_note.1 note
          obtain ⟨others, us, _, rfl, found, done⟩ := goes_bind.1 next
          obtain ⟨rfl, same⟩ := goes_pure.1 done
          exact ⟨[⟨.note (.discovered a.venue listings.length), (), y⟩], us, others,
            by simp [Step.call?], by simp, found, same.symm⟩
        next failed =>
          obtain ⟨others, us, _, rfl, found, done⟩ := goes_bind.1 listing
          obtain ⟨rfl, same⟩ := goes_pure.1 done
          exact ⟨[], us, others, by simp, by simp, found, same.symm⟩
      obtain ⟨others', candidates⟩ :=
        candidates_of_goes_discover later found fun t mem => answered t (by simp [mem])
      refine ⟨?_, ?_⟩
      · rw [asked_append, asked_append, asked_of_callless reports, others']
        simp [asked, discovered?, Step.call?, there]
      · rw [List.filterMap_append, candidates, List.flatMap_cons]

/-! ## The plan -/

/-- A round of planning asks and answers as it does without a run around it. -/
lemma answered_of_goes_round {α : Type} {p : Talk α} {stoppable : Bool} {a : α}
    (go : Goes (round stoppable p) ts (some a)) (answered : ∀ t ∈ ts, A.Answered venues t) :
    ∃ us, Goes p us a ∧ (∀ t ∈ us, A.Answered venues t) ∧ asked venues ts = asked venues us := by
  obtain ⟨us, plain, rfl | ⟨x, rfl⟩⟩ := goes_of_goes_round go
  · exact ⟨ts, plain, answered, rfl⟩
  · refine ⟨us, plain, fun t mem => A.answered_raced.1 (answered _ ?_), ?_⟩
    · exact List.mem_cons_of_mem _ (List.mem_map_of_mem mem)
    · rw [← asked_raced us]
      rfl

/-- The adapters of venues, one for each. -/
def adaptersOf (venues : List Venue) : List Adapter := venues.map fun v => ⟨v, v.resolve⟩

/-- All adapters are those of wanted venues. -/
lemma enabled_adaptersOf (wanted : venues ⊆ s.venues) :
    enabled (adaptersOf venues) s = (adaptersOf venues).zipIdx := by
  refine List.filter_eq_self.2 fun a mem => ?_
  obtain ⟨v, listed, same⟩ := List.mem_map.1 (List.fst_mem_of_mem_zipIdx mem)
  simpa [← same] using wanted listed

lemma venue_of_mem_zipIdx {a : Adapter × Nat} (mem : a ∈ (adaptersOf venues).zipIdx) :
    venues[a.2]? = some a.1.venue := by
  have found := List.mem_zipIdx_iff_getElem?.1 mem
  obtain ⟨v, here, same⟩ := Option.map_eq_some_iff.1 (List.getElem?_map.symm.trans found)
  rw [here, ← same]

/-- The tasks for all candidates are those of the venues. -/
lemma filterMap_candidates : (((adaptersOf venues).zipIdx.flatMap fun a =>
      (sift s a.2 a.1 (A.list a.1.venue s.owner)).filterMap Finding.candidate?).filterMap fun c =>
        A.task s c.position c.action) = venues.flatMap (A.tasks s) :=
  calc _ = (adaptersOf venues).zipIdx.flatMap fun a => A.found s a.1 a.2 := List.filterMap_flatMap
    _ = (adaptersOf venues).zipIdx.flatMap fun a => A.found s a.1 0 := by simp only [found_eq _ _]
    _ = ((adaptersOf venues).zipIdx.map Prod.fst).flatMap fun a => A.found s a 0 := by
      rw [List.flatMap_map]
    _ = venues.flatMap (A.tasks s) := by
      rw [List.zipIdx_map_fst, adaptersOf, List.flatMap_map]
      rfl

/-- A candidate was found through the adapter of its own venue. -/
lemma venue_of_candidate {findings : List Finding} {us : List Turn}
    (found : Goes (discover s (adaptersOf venues).zipIdx) us findings) {c : Candidate}
    (mem : c ∈ findings.filterMap Finding.candidate?) :
    venues[c.adapter]? = some c.position.venue := by
  obtain ⟨f, listed, h⟩ := List.mem_filterMap.1 mem
  cases f <;> cases h
  obtain ⟨a, value, enabled, resolved⟩ := resolved_of_goes_discover found c listed
  have own := faithful_map venues a (List.fst_mem_of_mem_zipIdx enabled) value _ resolved
  rw [own]
  exact venue_of_mem_zipIdx enabled

/-- **A plan from answers.**  Every adapter is asked for its positions once, and the plan has the
tasks of the venues, once for each time that a venue is named. -/
theorem tasks_of_goes_plan {stoppable : Bool} {made : Plan}
    (go : Goes (plan (adaptersOf venues) s stoppable) ts (some made))
    (answered : ∀ t ∈ ts, A.Answered venues t) (wanted : venues ⊆ s.venues) :
    asked venues ts = venues ∧ made.tasks = claimsFirst (venues.flatMap (A.tasks s)) := by
  have reports : ∀ {ns : List Notice} {us : List Turn} {u : Unit}, Goes (noteAll ns) us u →
      asked venues us = [] := fun go => asked_of_callless (callless_of_goes_noteAll go)
  cases planned_of_goes go with
  | made finding noted laying noted' x =>
      obtain ⟨us, found, listed, asks⟩ :=
        answered_of_goes_round finding fun t mem => answered t (by simp [mem])
      obtain ⟨vs, laid, drafted, asks'⟩ :=
        answered_of_goes_round laying fun t mem => answered t (by simp [mem])
      rw [enabled_adaptersOf wanted] at found
      obtain ⟨all, candidates⟩ :=
        candidates_of_goes_discover (fun a mem => venue_of_mem_zipIdx mem) found listed
      have orders : asked venues vs = [] :=
        asked_of_ordered ((only_buildTasks s _).quiet_of_goes laid)
      refine ⟨?_, ?_⟩
      · rw [asked_append, asked_append, asked_append, asked_append, asks, all, reports noted,
          asks', orders, reports noted']
        simp [asked, discovered?, Step.call?, adaptersOf, List.zipIdx_map, Function.comp_def]
      · have tasks :=
          tasks_of_goes_buildTasks (fun c mem => venue_of_candidate found mem) laid drafted
        rw [candidates, filterMap_candidates] at tasks
        exact congrArg claimsFirst tasks

/-! ## How often a task is planned -/

/-- The tasks of a venue are tasks at this venue. -/
lemma venue_of_mem_tasks {v : Venue} {t : Task} (mem : t ∈ A.tasks s v) : t.venue = v := by
  obtain ⟨c, listed, made⟩ := List.mem_filterMap.1 mem
  obtain ⟨f, sifted, h⟩ := List.mem_filterMap.1 listed
  cases f <;> cases h
  obtain ⟨-, -, value, resolved⟩ := resolved_of_mem_sift sifted
  have own : c.position.venue = v := venue_of_resolve resolved
  unfold VenueAnswers.task at made
  split at made
  · cases made
  · split at made
    · cases made
    · obtain rfl := Option.some.inj made
      exact own

/-- A task is planned as often as its venue lists it, for each time that the venue is named. -/
lemma count_flatMap_tasks (venues : List Venue) (t : Task) :
    (venues.flatMap (A.tasks s)).count t = venues.count t.venue * (A.tasks s t.venue).count t := by
  refine count_flatMap_of_own (fun v => ?_) venues
  by_cases here : t.venue = v
  · simp [here]
  · simpa [here, List.count_eq_zero] using fun mem => here (venue_of_mem_tasks mem)

lemma count_eraseDups (venues : List Venue) (v : Venue) :
    venues.eraseDups.count v = if v ∈ venues then 1 else 0 := by
  have distinct : venues.eraseDups.Nodup := pairwise_ne_eraseDups venues
  simp [distinct.count]

/-- Compared with naming each venue once, a task is planned as often as its venue is named. -/
lemma count_of_repeated (venues : List Venue) (t : Task) :
    (venues.flatMap (A.tasks s)).count t =
      venues.count t.venue * (venues.eraseDups.flatMap (A.tasks s)).count t := by
  rw [count_flatMap_tasks, count_flatMap_tasks, count_eraseDups]
  by_cases named : t.venue ∈ venues
  · rw [if_pos named, Nat.one_mul]
  · simp [List.count_eq_zero.2 named]

end

/-! ## Plans are made -/

/-- A world in which the venues answer so, and nobody is asked for anything else. -/
def VenueAnswers.world (A : VenueAnswers) (venues : List Venue) : World where
  answer _
    | .discover adapter owner => match venues[adapter]? with
      | some v => A.list v owner
      | none => .ok []
    | .build adapter order => match venues[adapter]? with
      | some v => A.build v order
      | none => .error (.builderUnavailable order.position.venue "")
    | .signAll ts => .ok ts
    | .signOne t => .ok t
    | .blockHeight => .ok 0
    | .simulate _ => .ok ()
    | .submit _ => .ok Signature.missing
    | .confirm .. => .ok ()
  aborts _ _ := false
  loses _ _ := false

lemma answered_of_play {α : Type} (A : VenueAnswers) (venues : List Venue) (p : Talk α) (d : Desk)
    (past : List Turn) : ∀ t ∈ ((A.world venues).play d past p).1, A.Answered venues t := by
  have gives : ∀ past c, A.Gives venues c ((A.world venues).answer past c) := by
    intro past c
    cases c with
    | discover adapter owner | build adapter order =>
        intro v here
        simp [VenueAnswers.world, here]
    | _ => trivial
  induction p generalizing d past with
  | done a => simp [World.play]
  | ask step next ih =>
      refine List.forall_mem_cons.2 ⟨?_, ih _ _ _⟩
      cases step with
      | call c | race c => exact gives past c
      | stopped | publish | note => trivial

end Planning

namespace Command

open Planning

/-! ## Names on the command line -/

/-- Reading names of venues keeps them all, in their order: a venue that is named again, under the
same name or another one, is listed again. -/
theorem readVenues_eq_ok {option word : String} {venues : List Venue} :
    readVenues option word = .ok venues ↔
      (word.splitOn ",").map Venue.read? = venues.map some := by
  unfold readVenues
  generalize word.splitOn "," = names
  induction names generalizing venues with
  | nil => cases venues <;> simp [pure, Except.pure]
  | cons name names ih =>
      rw [List.mapM_cons, bind_eq_ok, List.map_cons]
      constructor
      · rintro ⟨v, known, rest⟩
        obtain ⟨others, later, done⟩ := bind_eq_ok.1 rest
        obtain rfl := Except.ok.inj done
        rw [List.map_cons, ← ih.1 later]
        split at known
        next found => rw [found, Except.ok.inj known]
        next => cases known
      · intro named
        obtain ⟨v, others, rfl, known, rest⟩ := List.map_eq_cons_iff.1 named.symm
        refine ⟨v, by rw [← known], bind_eq_ok.2 ⟨others, ih.2 rest.symm, rfl⟩⟩

/-- Naming each venue once gives options with each venue once. -/
lemma venues_eraseDups (s : Settings) (a : ExitArguments) :
    (s.optionsFor { a with venues := a.venues.eraseDups }).venues =
      (s.optionsFor a).venues.eraseDups := by
  cases named : a.venues with
  | cons v vs => simp [Settings.optionsFor, Settings.options, named, List.eraseDups_cons]
  | nil =>
      have distinct : s.enabledVenues.eraseDups = s.enabledVenues := by
        cases first : (s.venue .feeVault).enable <;> cases second : (s.venue .clmm).enable <;>
          simp [Settings.enabledVenues, Venue.all, first, second, List.eraseDups_cons]
      simp [Settings.optionsFor, Settings.options, named, distinct]

/-- The settings of both plans differ in nothing but the venues, so a venue has the same tasks. -/
lemma tasks_eraseDups (s : Settings) (a : ExitArguments) (keypair : Keypair) (node : NodeClient)
    (A : VenueAnswers) :
    A.tasks ((Errand.ofSettings s (s.optionsFor { a with venues := a.venues.eraseDups }).venues
        keypair node).setup.planSettings
      (s.optionsFor { a with venues := a.venues.eraseDups })) =
    A.tasks ((Errand.ofSettings s (s.optionsFor a).venues keypair node).setup.planSettings
      (s.optionsFor a)) :=
  A.tasks_withVenues
    ((Errand.ofSettings s (s.optionsFor a).venues keypair node).setup.planSettings (s.optionsFor a))
    (s.optionsFor { a with venues := a.venues.eraseDups }).venues

/-- A plan that is made with settings for the arguments of a command, within a run or without one,
while the venues answer so. -/
structure Makes (s : Settings) (a : ExitArguments) (keypair : Keypair) (node : NodeClient)
    (A : VenueAnswers) (stoppable : Bool) (ts : List Turn) (plan : Plan) : Prop where
  goes : Talk.Goes (Planning.plan
    (Errand.ofSettings s (s.optionsFor a).venues keypair node).setup.adapters
    ((Errand.ofSettings s (s.optionsFor a).venues keypair node).setup.planSettings (s.optionsFor a))
    stoppable) ts (some plan)
  answered : ∀ t ∈ ts, A.Answered (s.optionsFor a).venues t

/-- **Each mention counts.**  Every venue is asked for its positions as often as it is named, and a
task is planned as often as its venue is named, compared with naming each venue once.  So both plans
have the same tasks exactly where no venue with a task is named twice. -/
theorem each_mention_counts (s : Settings) (a : ExitArguments) (keypair : Keypair)
    (node : NodeClient) (A : VenueAnswers) :
    (∃ ts plan, Makes s a keypair node A false ts plan) ∧
    ∀ stoppable ts plan, Makes s a keypair node A stoppable ts plan →
      asked (s.optionsFor a).venues ts = (s.optionsFor a).venues ∧
      ∀ stoppable' ts' plan',
        Makes s { a with venues := a.venues.eraseDups } keypair node A stoppable' ts' plan' →
        (∀ t, plan.tasks.count t = (s.optionsFor a).venues.count t.venue * plan'.tasks.count t) ∧
        (plan.tasks.Perm plan'.tasks ↔
          ∀ t ∈ plan'.tasks, (s.optionsFor a).venues.count t.venue = 1) := by
  refine ⟨?_, fun stoppable ts plan made => ?_⟩
  · obtain ⟨plan, some⟩ := exists_plan_of_goes
      (World.goes_play (w := A.world (s.optionsFor a).venues) _ {} [])
    exact ⟨_, plan, some ▸ World.goes_play _ {} [], answered_of_play A _ _ {} []⟩
  · obtain ⟨asks, tasks⟩ := tasks_of_goes_plan made.goes made.answered (fun _ h => h)
    refine ⟨asks, fun stoppable' ts' plan' made' => ?_⟩
    obtain ⟨-, tasks'⟩ := tasks_of_goes_plan made'.goes made'.answered (fun _ h => h)
    have counts : ∀ t, plan.tasks.count t =
        (s.optionsFor a).venues.count t.venue * plan'.tasks.count t := by
      intro t
      rw [tasks, tasks', (perm_claimsFirst _).count_eq, (perm_claimsFirst _).count_eq,
        count_of_repeated, tasks_eraseDups, venues_eraseDups]
    refine ⟨counts, ?_⟩
    constructor
    · intro same t mem
      have more : 0 < plan'.tasks.count t := List.count_pos_iff.2 mem
      have equal := (counts t).symm.trans (same.count_eq t)
      exact Nat.eq_of_mul_eq_mul_right more (by rw [equal, Nat.one_mul])
    · intro once
      refine List.perm_iff_count.2 fun t => ?_
      rw [counts t]
      by_cases mem : t ∈ plan'.tasks
      · rw [once t mem, Nat.one_mul]
      · rw [List.count_eq_zero.2 mem, Nat.mul_zero]

end Command

namespace Sample

/-- The arguments of a command that name the venue of the small exit twice. -/
def twice : Command.ExitArguments := { venues := [.feeVault, .feeVault] }

/-- Answers of the venues: one position with fees to claim, and a draft for each order. -/
def listed : Planning.VenueAnswers where
  list _ _ := .ok [⟨.feeVault, .object
    [("pool", .string "11111111111111111111111111111111"),
      ("feeVault", .string "11111111111111111111111111111111"), ("unclaimedFeeA", .int 1)]⟩]
  build _ _ := .ok ⟨transaction [owner] 0, 10⟩

def keypair : Keypair := ⟨owner, _, rfl⟩

def node : Command.NodeClient where
  url := ""
  commitment := .confirmed
  confirmTimeoutMs := 0
  pollIntervalMs := 0

end Sample

/-- A venue that is named twice is asked twice, and its one position is claimed twice. -/
theorem Command.each_mention_counts_twice :
    ∃ ts plan, Makes {} Sample.twice Sample.keypair Sample.node Sample.listed false ts plan ∧
      Planning.asked [.feeVault, .feeVault] ts = [.feeVault, .feeVault] ∧
    ∃ ts' plan', Makes {} { Sample.twice with venues := [.feeVault] } Sample.keypair Sample.node
        Sample.listed false ts' plan' ∧
      ∃ claim, plan'.tasks = [claim] ∧ claim.kind = .claim ∧ plan.tasks.count claim = 2 ∧
        ¬ plan.tasks.Perm plan'.tasks := by
  obtain ⟨⟨ts, plan, made⟩, counts⟩ :=
    each_mention_counts {} Sample.twice Sample.keypair Sample.node Sample.listed
  obtain ⟨⟨ts', plan', made'⟩, -⟩ := each_mention_counts {}
    { Sample.twice with venues := [.feeVault] } Sample.keypair Sample.node Sample.listed
  obtain ⟨asks, compared⟩ := counts false ts plan made
  obtain ⟨count, same⟩ := compared false ts' plan' made'
  -- The position has fees and no balance, so its venue has one task.
  have single : (Sample.listed.tasks ((Errand.ofSettings {} [.feeVault] Sample.keypair
      Sample.node).setup.planSettings (Settings.optionsFor {} { Sample.twice with
        venues := [.feeVault] })) .feeVault).map Task.kind = [.claim] := by decide +kernel
  obtain ⟨claim, tasks, kind⟩ := List.map_eq_singleton_iff.1 single
  have planned : plan'.tasks = [claim] := by
    have all := (Planning.tasks_of_goes_plan made'.goes made'.answered fun _ h => h).2
    refine List.perm_singleton.1 (all ▸ (Planning.perm_claimsFirst _).trans (.of_eq ?_))
    exact (List.flatMap_singleton _ _).trans tasks
  have venue : claim.venue = .feeVault :=
    Planning.venue_of_mem_tasks (tasks ▸ List.mem_singleton_self claim)
  refine ⟨ts, plan, made, asks, ts', plan', made', claim, planned, kind, ?_, fun perm => ?_⟩
  · rw [count claim, planned, venue, List.count_singleton_self]
    decide
  · have once := same.1 perm claim (planned ▸ List.mem_singleton_self claim)
    rw [venue] at once
    exact absurd once (by decide)

end PoolExit
