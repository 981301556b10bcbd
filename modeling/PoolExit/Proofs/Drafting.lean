import PoolExit.Proofs.Planning
import PoolExit.Venue.Resolve

/-!
# What a plan holds

For each candidate planning climbs the fees of the ladder: it asks for a draft at one fee after the
other, and stops at the first that fails (`Climbs`).  So the variants of a task have the fees of the
ladder from the lowest one on, without a gap.  Every task of a plan was laid out for a candidate, and
every candidate is a position that an adapter understood (`laid_of_goes_plan`).
-/

namespace PoolExit

namespace Planning

open Talk

variable {s : PlanSettings} {c : Candidate} {fees : List UInt64} {variants : List Variant}
  {asked : List Exchange} {ts : List Turn}

/-! ## Climbing the fees -/

/-- The call for a draft of a candidate. -/
def callFor (s : PlanSettings) (c : Candidate) (fee : UInt64) : Call :=
  .build c.adapter (s.order c.position c.action fee)

/-- A candidate gets these variants for the fees, and this is asked and answered for it. -/
inductive Climbs (s : PlanSettings) (c : Candidate) :
    List UInt64 → List Variant → List Exchange → Prop
  | done : Climbs s c [] [] []
  | fails (fee : UInt64) (rest : List UInt64) (e : VenueError) :
      Climbs s c (fee :: rest) [] [⟨callFor s c fee, .error e⟩]
  | builds (fee : UInt64) (draft : Draft) {rest : List UInt64} {variants : List Variant}
      {asked : List Exchange} (further : Climbs s c rest variants asked) :
      Climbs s c (fee :: rest) (⟨fee, draft⟩ :: variants) (⟨callFor s c fee, .ok draft⟩ :: asked)

/-- No fee is left out before the last variant. -/
lemma Climbs.levels (climbs : Climbs s c fees variants asked) :
    variants.map Variant.feeLevel <+: fees := by
  induction climbs with
  | done => exact List.prefix_rfl
  | fails fee rest e => exact List.nil_prefix
  | builds fee draft further ih => exact (List.prefix_cons_inj fee).2 ih

/-- The drafts for higher fees come of a climb behind those that are there. -/
lemma climbs_of_goes_buildHigher : ∀ {fees : List UInt64} {built variants : List Variant}
    {ts : List Turn}, Goes (buildHigher s c built fees) ts variants →
    ∃ higher, variants = built ++ higher ∧ Climbs s c fees higher (conversation ts)
  | [], built, _, _, go => by
      obtain ⟨rfl, rfl⟩ := goes_pure.1 go
      exact ⟨[], by simp, .done⟩
  | fee :: rest, built, _, _, go => by
      obtain ⟨answer, _, _, rfl, asking, next⟩ := goes_bind.1 go
      obtain ⟨x, rfl⟩ := goes_call.1 asking
      cases answer with
      | error e =>
          obtain ⟨_, _, _, rfl, note, done⟩ := goes_bind.1 next
          obtain ⟨y, rfl⟩ := goes_note.1 note
          obtain ⟨rfl, rfl⟩ := goes_pure.1 done
          exact ⟨[], by simp, by simpa using .fails fee rest e⟩
      | ok draft =>
          obtain ⟨_, _, _, rfl, noted, going⟩ := goes_bind.1 next
          obtain ⟨higher, rfl, climbs⟩ := climbs_of_goes_buildHigher going
          refine ⟨⟨fee, draft⟩ :: higher, by simp, ?_⟩
          simpa [conversation_of_goes_noteAll noted] using .builds fee draft climbs

/-! ## One task -/

/-- A task as it is laid out for a candidate. -/
structure Laid (s : PlanSettings) (c : Candidate) (t : Task) : Prop where
  position : t.position = c.position
  action : t.action = c.action
  venue : t.venue = c.position.venue
  levels : t.variants.map Variant.feeLevel <+: s.feeLevels
  primary : t.variants.head? = some ⟨t.primaryFeeLevel, t.primary⟩

/-- A task of a plan is tried with its variants. -/
lemma Laid.attempts {t : Task} (laid : Laid s c t) : t.attempts = t.variants := by
  have some : t.variants ≠ [] := by
    intro none
    have primary := laid.primary
    rw [none] at primary
    cases primary
  simp [Task.attempts, some]

/-- The task of a candidate that got variants. -/
def taskOf (c : Candidate) : List Variant → Option Task
  | [] => none
  | v :: variants => some {
      venue := c.position.venue
      kind := c.action.kind
      pool := c.position.pool
      companion := c.position.companion
      action := c.action
      position := c.position
      primaryFeeLevel := v.feeLevel
      primary := v.draft
      variants := v :: variants }

/-- There is no task exactly where there is no variant. -/
lemma taskOf_eq_none : taskOf c variants = none ↔ variants = [] := by
  cases variants <;> simp [taskOf]

/-- The draft for the lowest fee is asked for first, and its answer decides whether there is a task.
Behind it the other fees are climbed. -/
lemma first_of_goes_buildTask {r : Except VenueError Task} (go : Goes (buildTask s c) ts r) :
    (∃ e, conversation ts = [⟨callFor s c (s.ladder.first s.feeLevelBase), .error e⟩] ∧
      r = .error e) ∨
    ∃ draft higher asked t,
      conversation ts = ⟨callFor s c (s.ladder.first s.feeLevelBase), .ok draft⟩ :: asked ∧
      Climbs s c s.feeLevels.tail higher asked ∧
      taskOf c (⟨s.ladder.first s.feeLevelBase, draft⟩ :: higher) = some t ∧ r = .ok t := by
  unfold buildTask at go
  obtain ⟨answer, _, _, rfl, asking, next⟩ := goes_bind.1 go
  obtain ⟨x, rfl⟩ := goes_call.1 asking
  cases answer with
  | error e =>
      obtain ⟨rfl, rfl⟩ := goes_pure.1 next
      exact .inl ⟨e, rfl, rfl⟩
  | ok draft =>
      obtain ⟨_, _, _, rfl, noted, building⟩ := goes_bind.1 next
      obtain ⟨_, _, _, rfl, rising, done⟩ := goes_bind.1 building
      obtain ⟨rfl, rfl⟩ := goes_pure.1 done
      obtain ⟨higher, rfl, climbs⟩ := climbs_of_goes_buildHigher rising
      refine .inr ⟨draft, higher, _, _, ?_, climbs, rfl, rfl⟩
      simp [conversation_of_goes_noteAll noted, callFor]

/-- A task as it is made for a candidate, with its draft for the lowest fee. -/
structure Made (s : PlanSettings) (c : Candidate) (d : Draft) (t : Task) : Prop where
  laid : Laid s c t
  kind : t.kind = c.action.kind
  pool : t.pool = c.position.pool
  companion : t.companion = c.position.companion
  lowest : t.primaryFeeLevel = s.ladder.first s.feeLevelBase
  draft : t.primary = d

/-- What comes of a candidate when its draft for the lowest fee is answered so. -/
def Comes (s : PlanSettings) (c : Candidate) (first : Except VenueError Draft)
    (r : Except VenueError Task) : Prop :=
  (∃ e, first = .error e ∧ r = .error e) ∨ ∃ d t, first = .ok d ∧ r = .ok t ∧ Made s c d t

/-- The draft for the lowest fee is asked for first, and its answer decides whether there is a
task. -/
lemma comes_of_goes_buildTask {r : Except VenueError Task} (go : Goes (buildTask s c) ts r) :
    ∃ first later, Comes s c first r ∧ (∀ e ∈ later, OrderedFor s c s.feeLevels e.call) ∧
      conversation ts =
        ⟨.build c.adapter (s.order c.position c.action (s.ladder.first s.feeLevelBase)), first⟩ ::
          later := by
  have asked : ∀ e ∈ conversation ts, OrderedFor s c s.feeLevels e.call :=
    fun e => quiet_of_mem_conversation ((only_buildTask s c).quiet_of_goes go)
  rcases first_of_goes_buildTask go with
    ⟨e, talked, rfl⟩ | ⟨draft, higher, later, t, talked, climbs, task, rfl⟩
  · exact ⟨.error e, [], .inl ⟨e, rfl, rfl⟩, by simp, talked⟩
  · obtain rfl := Option.some.inj task
    refine ⟨.ok draft, later, .inr ⟨draft, _, rfl, rfl, ⟨rfl, rfl, rfl, ?_, rfl⟩, rfl, rfl, rfl, rfl,
      rfl⟩, fun e mem => asked e (talked ▸ List.mem_cons_of_mem _ mem), talked⟩
    exact (List.prefix_cons_inj _).2 climbs.levels

/-! ## All tasks -/

/-- A candidate is an action wanted on a position that its adapter listed and understood. -/
lemma listed_of_mem_sift {index : Nat} {a : Adapter}
    {answer : Except VenueError (List Listing)} (mem : .candidate c ∈ sift s index a answer) :
    c.adapter = index ∧ c.action ∈ s.actions c.position ∧
      ∃ listings, answer = .ok listings ∧
        ∃ l ∈ listings, l.venue = a.venue ∧ a.resolve l.value = .ok c.position := by
  cases answer with
  | error e => simp [sift] at mem
  | ok listings =>
      obtain ⟨l, listed, sifted⟩ := List.mem_flatMap.1 mem
      unfold siftListing at sifted
      split at sifted
      · simp at sifted
      next own =>
        split at sifted
        · simp at sifted
        next p resolved =>
          split at sifted
          · simp at sifted
          · obtain ⟨action, wanted, h⟩ := List.mem_map.1 sifted
            cases h
            exact ⟨rfl, wanted, listings, rfl, l, listed, not_not.1 own, resolved⟩

lemma resolved_of_mem_sift {index : Nat} {a : Adapter}
    {answer : Except VenueError (List Listing)} (mem : .candidate c ∈ sift s index a answer) :
    c.adapter = index ∧ c.action ∈ s.actions c.position ∧
      ∃ value, a.resolve value = .ok c.position := by
  obtain ⟨here, wanted, _, -, l, -, -, resolved⟩ := listed_of_mem_sift mem
  exact ⟨here, wanted, l.value, resolved⟩

/-- What is remarked on meanwhile does not change how an adapter is asked and its answer sifted. -/
lemma goes_discover_cons {a : Adapter} {index : Nat} {rest : List (Adapter × Nat)}
    {findings : List Finding} (go : Goes (discover s ((a, index) :: rest)) ts findings) :
    ∃ answer us others, Goes (discover s rest) us others ∧
      conversation ts = ⟨.discover index s.owner, answer⟩ :: conversation us ∧
      findings = sift s index a answer ++ others := by
  obtain ⟨answer, _, vs, rfl, asking, listing⟩ := goes_bind.1 go
  obtain ⟨x, rfl⟩ := goes_call.1 asking
  cases answer with
  | ok listings =>
      obtain ⟨_, _, _, rfl, note, next⟩ := goes_bind.1 listing
      obtain ⟨y, rfl⟩ := goes_note.1 note
      obtain ⟨others, us, _, rfl, found, done⟩ := goes_bind.1 next
      obtain ⟨rfl, rfl⟩ := goes_pure.1 done
      exact ⟨_, us, others, found, by simp, rfl⟩
  | error e =>
      obtain ⟨others, us, _, rfl, found, done⟩ := goes_bind.1 listing
      obtain ⟨rfl, rfl⟩ := goes_pure.1 done
      exact ⟨_, us, others, found, by simp, rfl⟩

/-- Every adapter is asked once, in order, and its answer is sifted. -/
lemma findings_of_goes_discover : ∀ {adapters : List (Adapter × Nat)} {ts : List Turn}
    {findings : List Finding}, Goes (discover s adapters) ts findings →
    ∃ told : List ((Adapter × Nat) × Except VenueError (List Listing)),
      told.map Prod.fst = adapters ∧
      conversation ts = told.map (fun x => ⟨.discover x.1.2 s.owner, x.2⟩) ∧
      findings = told.flatMap fun x => sift s x.1.2 x.1.1 x.2
  | [], _, _, go => by
      obtain ⟨rfl, rfl⟩ := goes_pure.1 go
      exact ⟨[], rfl, rfl, rfl⟩
  | (a, index) :: rest, _, _, go => by
      obtain ⟨answer, us, others, later, talked, rfl⟩ := goes_discover_cons go
      obtain ⟨told, rfl, asked, rfl⟩ := findings_of_goes_discover later
      exact ⟨((a, index), answer) :: told, rfl, by rw [talked, asked, List.map_cons], rfl⟩

/-- Every candidate is a position that an adapter understood. -/
lemma resolved_of_goes_discover {adapters : List (Adapter × Nat)} {findings : List Finding}
    (go : Goes (discover s adapters) ts findings) (c : Candidate)
    (mem : Finding.candidate c ∈ findings) :
    ∃ a value, (a, c.adapter) ∈ adapters ∧ a.resolve value = .ok c.position := by
  obtain ⟨told, rfl, -, rfl⟩ := findings_of_goes_discover go
  obtain ⟨⟨⟨a, index⟩, answer⟩, listed, sifted⟩ := List.mem_flatMap.1 mem
  obtain ⟨rfl, -, value, resolved⟩ := resolved_of_mem_sift sifted
  exact ⟨a, value, List.mem_map_of_mem listed, resolved⟩

/-- What is answered about a candidate: its draft for the lowest fee, what is asked about higher
fees, and what comes of it. -/
structure Building where
  first : Except VenueError Draft
  higher : List Exchange
  result : Except VenueError Task

/-- The candidates get their drafts one after the other. -/
lemma buildings_of_goes_buildTasks : ∀ {cs : List Candidate} {ts : List Turn}
    {results : List (Candidate × Except VenueError Task)}, Goes (buildTasks s cs) ts results →
    ∃ made : List (Candidate × Building), made.map Prod.fst = cs ∧
      results = made.map (fun m => (m.1, m.2.result)) ∧
      conversation ts = made.flatMap (fun m =>
        ⟨.build m.1.adapter (s.order m.1.position m.1.action (s.ladder.first s.feeLevelBase)),
          m.2.first⟩ :: m.2.higher) ∧
      ∀ m ∈ made, Comes s m.1 m.2.first m.2.result ∧
        ∀ e ∈ m.2.higher, OrderedFor s m.1 s.feeLevels e.call
  | [], _, _, go => by
      obtain ⟨rfl, rfl⟩ := goes_pure.1 go
      exact ⟨[], rfl, rfl, rfl, by simp⟩
  | c :: rest, _, _, go => by
      obtain ⟨result, _, _, rfl, building, next⟩ := goes_bind.1 go
      obtain ⟨others, _, _, rfl, later, done⟩ := goes_bind.1 next
      obtain ⟨rfl, rfl⟩ := goes_pure.1 done
      obtain ⟨first, higher, comes, ordered, talked⟩ := comes_of_goes_buildTask building
      obtain ⟨made, rfl, rfl, talked', laws⟩ := buildings_of_goes_buildTasks later
      refine ⟨(c, ⟨first, higher, result⟩) :: made, rfl, rfl, ?_,
        List.forall_mem_cons.2 ⟨⟨comes, ordered⟩, laws⟩⟩
      simp [talked, talked']

lemma laid_of_goes_buildTasks {cs : List Candidate}
    {results : List (Candidate × Except VenueError Task)} (go : Goes (buildTasks s cs) ts results) :
    ∀ t ∈ results.filterMap built, ∃ c ∈ cs, Laid s c t := by
  obtain ⟨made, rfl, rfl, -, laws⟩ := buildings_of_goes_buildTasks go
  intro t mem
  obtain ⟨_, listed, h⟩ := List.mem_filterMap.1 mem
  obtain ⟨m, mem', rfl⟩ := List.mem_map.1 listed
  rcases (laws m mem').1 with ⟨e, -, failed⟩ | ⟨d, t', -, got, law⟩
  · rw [failed] at h
    cases h
  · rw [got] at h
    obtain rfl := Option.some.inj h
    exact ⟨m.1, List.mem_map_of_mem mem', law.laid⟩

/-- **What a plan holds.**  Every task was laid out for a position that one of the adapters
understood. -/
theorem laid_of_goes_plan {adapters : List Adapter} {stoppable : Bool} {made : Plan}
    (go : Goes (plan adapters s stoppable) ts (some made)) :
    ∀ t ∈ made.tasks, ∃ c a value, Laid s c t ∧ a ∈ adapters ∧
      a.resolve value = .ok c.position := by
  obtain ⟨findings, results, _, _, found, laid, -, rfl⟩ := rounds_of_goes_plan go
  intro t mem
  obtain ⟨c, listed, law⟩ := laid_of_goes_buildTasks laid t ((perm_claimsFirst _).subset mem)
  obtain ⟨f, listed, h⟩ := List.mem_filterMap.1 listed
  cases f <;> cases h
  obtain ⟨a, value, enabled, resolved⟩ := resolved_of_goes_discover found c listed
  have mem' := (List.mem_filter.1 enabled).1
  exact ⟨c, a, value, law, List.fst_mem_of_mem_zipIdx mem', resolved⟩

/-! ## Drafts built anew -/

/-- Every adapter understands positions of its own venue only. -/
def Faithful (adapters : List Adapter) : Prop :=
  ∀ a ∈ adapters, ∀ value p, a.resolve value = .ok p → p.venue = a.venue

/-- Each venue understands its own positions only. -/
lemma venue_of_resolve {venue : Venue} {value : Json} {p : Position}
    (resolved : venue.resolve value = .ok p) : p.venue = venue := by
  cases value with
  | object members =>
      simp only [Venue.resolve, pure_bind, bind_eq_ok] at resolved
      obtain ⟨_, -, _, -, _, -, _, -, _, -, _, -, made⟩ := resolved
      obtain rfl := Except.ok.inj made
      rfl
  | _ => cases resolved

lemma faithful_map (venues : List Venue) :
    Faithful (venues.map fun v => (⟨v, v.resolve⟩ : Adapter)) := by
  intro a mem value p resolved
  obtain ⟨v, -, rfl⟩ := List.mem_map.1 mem
  exact venue_of_resolve resolved

/-- With faithful adapters every task of a plan can be built anew. -/
lemma exists_adapter_of_goes_plan {adapters : List Adapter} {stoppable : Bool} {made : Plan}
    (faithful : Faithful adapters) (go : Goes (plan adapters s stoppable) ts (some made)) {t : Task}
    (mem : t ∈ made.tasks) :
    ∃ index, adapters.findIdx? (fun a => a.venue = t.venue) = some index := by
  obtain ⟨c, a, value, laid, listed, resolved⟩ := laid_of_goes_plan go t mem
  have same : a.venue = t.venue := by
    rw [laid.venue, faithful a listed value _ resolved]
  refine Option.isSome_iff_exists.1 ?_
  rw [List.findIdx?_isSome]
  exact List.any_eq_true.2 ⟨a, listed, by simpa using same⟩

end Planning

end PoolExit
