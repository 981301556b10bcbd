import PoolExit.Proofs.Escalation
import PoolExit.Proofs.Repetition
import PoolExit.Proofs.Requests
import PoolExit.Proofs.Variants

/-!
# Drafts that are ordered again

A draft that has expired is ordered anew while its item is in work.  The candidate that it was
planned for is gone by then: the order is made from the task and the settings of the run, and the
adapter is looked up by the venue of the task.  If the adapters are those of venues, and no venue is
named twice, the order is nevertheless the one that was made in planning for the same fee, and it
goes to the adapter that listed the position (`Desk.Ran.renews`).
-/

namespace PoolExit

namespace Planning

open Talk

variable {venues : List Venue} {s : PlanSettings} {ts : List Turn}

/-! ## Looking up an adapter -/

/-- Where no venue is named twice, looking up a venue leads to its place. -/
lemma findIdx?_adaptersOf (once : venues.Nodup) {n : Nat} {v : Venue}
    (here : venues[n]? = some v) :
    ((adaptersOf venues).findIdx? fun a => a.venue = v) = some n := by
  obtain ⟨h, rfl⟩ := List.getElem?_eq_some_iff.1 here
  rw [adaptersOf, List.findIdx?_map, List.findIdx?_eq_some_iff_getElem]
  refine ⟨h, decide_eq_true rfl, fun m before same => ?_⟩
  exact Nat.ne_of_lt before ((once.getElem_inj_iff).1 (of_decide_eq_true same))

lemma resolve_of_mem_adaptersOf {a : Adapter} (mem : a ∈ adaptersOf venues) :
    a.resolve = a.venue.resolve := by
  obtain ⟨v, -, rfl⟩ := List.mem_map.1 mem
  rfl

/-! ## What planning ordered -/

/-- The adapter is the one of the position's venue, and it has listed the position. -/
structure Listed (s : PlanSettings) (venues : List Venue) (asked : List Exchange) (adapter : Nat)
    (p : Position) : Prop where
  venue : venues[adapter]? = some p.venue
  row : ∃ listings, ⟨.discover adapter s.owner, .ok listings⟩ ∈ asked ∧
    ∃ l ∈ listings, l.venue = p.venue ∧ p.venue.resolve l.value = .ok p

lemma Listed.mono {asked asked' : List Exchange} {adapter : Nat} {p : Position}
    (sub : asked ⊆ asked') (listed : Listed s venues asked adapter p) :
    Listed s venues asked' adapter p := by
  obtain ⟨venue, listings, mem, row⟩ := listed
  exact ⟨venue, listings, sub mem, row⟩

/-- An order repeats what was asked in planning for a variant of a task. -/
structure Repeats (s : PlanSettings) (venues : List Venue) (asked : List Exchange) (task : Task)
    (v : Variant) (adapter : Nat) (order : BuildOrder) : Prop where
  own : order = s.order task.position task.action v.feeLevel
  /-- The same adapter got the same order, and its answer is the draft that has expired. -/
  planned : ⟨.build adapter order, .ok v.draft⟩ ∈ asked
  /-- No other order was made for this position, action and fee. -/
  only : ∀ adapter' order' answer, ⟨.build adapter' order', answer⟩ ∈ asked →
    order'.position = task.position → order'.action = task.action → order'.feeLevel = v.feeLevel →
    adapter' = adapter ∧ order' = order
  listed : Listed s venues asked adapter task.position
  /-- Whenever it is ordered so, the same request is sent, whatever is known about the builder. -/
  sent : ∀ (e : Endpoints) probe path r, (e.build order probe).Takes path r →
    posted path = [e.orderRequest order] ∨ posted path = [] ∧ ∀ draft, r.1 ≠ .ok draft

/-- A candidate was listed by the adapter that it is ordered from. -/
lemma listed_of_mem_candidates
    {told : List ((Adapter × Nat) × Except VenueError (List Listing))} {c : Candidate}
    (asked : told.map Prod.fst = enabled (adaptersOf venues) s)
    (mem : c ∈ (told.flatMap fun x => sift s x.1.2 x.1.1 x.2).filterMap Finding.candidate?) :
    Listed s venues (told.map fun x => ⟨.discover x.1.2 s.owner, x.2⟩) c.adapter c.position := by
  obtain ⟨f, sifted, h⟩ := List.mem_filterMap.1 mem
  cases f <;> cases h
  obtain ⟨⟨⟨a, index⟩, answer⟩, mem, sifted⟩ := List.mem_flatMap.1 sifted
  obtain ⟨here, -, listings, rfl, l, listed, own, resolved⟩ := listed_of_mem_sift sifted
  have adapter : (a, index) ∈ (adaptersOf venues).zipIdx :=
    (List.mem_filter.1 (asked ▸ List.mem_map_of_mem mem)).1
  have among := List.fst_mem_of_mem_zipIdx adapter
  have venue : c.position.venue = a.venue := faithful_map venues a among l.value _ resolved
  refine ⟨?_, listings, List.mem_map.2 ⟨_, mem, by rw [here]⟩, l, listed, venue ▸ own, ?_⟩
  · rw [here, venue]
    exact venue_of_mem_zipIdx adapter
  · rw [venue, ← resolve_of_mem_adaptersOf among]
    exact resolved

/-- The order that is made from a planned task repeats what was asked in planning. -/
lemma repeats_of_goes_plan (once : venues.Nodup) {stoppable : Bool} {made : Plan}
    (go : Goes (plan (adaptersOf venues) s stoppable) ts (some made)) {t : Task}
    (mem : t ∈ made.tasks) {v : Variant} (variant : v ∈ t.variants) :
    ∃ adapter, ((adaptersOf venues).findIdx? fun a => a.venue = t.venue) = some adapter ∧
      Repeats s venues (conversation ts) t v adapter (s.order t.position t.action v.feeLevel) := by
  obtain ⟨told, climbs, asked, candidates, talked, -, tasks, laws⟩ := climbs_of_goes_plan go
  have listed : ∀ k ∈ climbs,
      Listed s venues (conversation ts) k.candidate.adapter k.candidate.position := by
    intro k climbed
    have found := listed_of_mem_candidates asked (candidates ▸ List.mem_map_of_mem climbed)
    exact found.mono (talked ▸ List.subset_append_left _ _)
  obtain ⟨k, climbed, task⟩ := exists_climb tasks mem
  have drafted := (laws k climbed).drafted task
  have here := findIdx?_adaptersOf once (listed k climbed).venue
  refine ⟨k.candidate.adapter, by rw [drafted.venue, here], rfl, ?_, ?_, ?_, ?_⟩
  · obtain ⟨n, found⟩ := List.mem_iff_getElem?.1 variant
    have answered := List.mem_of_getElem? (drafted.drafts n v found).2
    rw [talked, drafted.position, drafted.action]
    exact List.mem_append_right _ (List.mem_flatMap.2 ⟨k, climbed, answered⟩)
  · intro adapter' order' answer mem' position action fee
    rw [talked] at mem'
    rcases List.mem_append.1 mem' with discovers | builds
    · obtain ⟨x, -, h⟩ := List.mem_map.1 discovers
      cases h
    · -- Whatever was ordered was ordered for a candidate, and its venue has one place only.
      obtain ⟨k', climbed', inside⟩ := List.mem_flatMap.1 builds
      have called := (laws k' climbed').calls.subset (List.mem_map_of_mem inside)
      obtain ⟨fee', -, h⟩ := List.mem_map.1 called
      obtain ⟨rfl, rfl⟩ := Call.build.inj h
      have same : k'.candidate.position = k.candidate.position := position.trans drafted.position
      have there := findIdx?_adaptersOf once (listed k' climbed').venue
      rw [same, here] at there
      refine ⟨(Option.some.inj there).symm, ?_⟩
      rw [← position, ← action, ← fee]
      rfl
  · rw [drafted.position]
    exact listed k climbed
  · exact fun e probe path r takes => Endpoints.posted_of_takes_build takes

end Planning

namespace Desk.Ran

open Run

variable {d : Desk} {setup : Setup} {o : Options} {turns : List Turn}
  {result : Except ExitError Board}

/-- A run orders drafts in planning, where it races its calls, and in its attempts. -/
lemma place_of_order (ran : d.Ran setup o turns result) {before after : List Turn} {u : Turn}
    {adapter : Nat} {order : BuildOrder} (split : turns = before ++ u :: after)
    (builds : u.step.call? = some (.build adapter order)) :
    (∃ x first last rest made, before = ⟨.publish Board.opened, (), x⟩ :: first ∧
      after = last ++ rest ∧ Talk.Goes (planning setup o) (first ++ u :: last) made ∧
      u.step = .race (.build adapter order)) ∨
    StretchFrom (fun b ts => ∃ k i v r, Trial setup o b ts k i v r) d.board before u after := by
  obtain ⟨x, us, outcome, b, vs, b', course, executed, concluded⟩ := ran.course
  have ends : ∀ t ∈ vs, ¬ t.step.call? = some (.build adapter order) := by
    intro t ht
    simp [callless_of_concluded concluded t ht]
  obtain ⟨between, last, rfl, rfl, rfl⟩ :=
    place_between (P := fun u => u.step.call? = some (.build adapter order)) [_] us vs builds
      (by simp [Step.call?]) ends (course.symm.trans split)
  have races : ∀ {ps : List Turn} {made : Option Plan}, Talk.Goes (planning setup o) ps made →
      u ∈ ps → u.step = .race (.build adapter order) :=
    fun planned mem =>
      (Step.call_or_race builds).resolve_left (Planning.raced_of_goes_plan planned u mem _)
  generalize whole : between ++ u :: last = us at executed
  cases executed with
  | unplanned planned =>
      subst whole
      exact .inl ⟨x, between, last, vs, _, rfl, rfl, planned, races planned (by simp)⟩
  | @planned ps plan us _ _ planned acted =>
      rcases place_cases whole.symm with ⟨rest, rfl, rfl⟩ | ⟨first, rfl, inside⟩
      · exact .inl ⟨x, between, rest, us ++ vs, _, rfl, by simp, planned, races planned (by simp)⟩
      · obtain ⟨plain, tasks, work, stretch⟩ := acted.attempting_of_build builds inside
        have inRun := ((stretch.append_left ps).append_left
          [⟨.publish Board.opened, (), x⟩]).append_right vs
        obtain ⟨k, focused⟩ := focused_of_attempting inRun builds d.board
        rw [← board_afterAll_eq] at focused
        exact .inr ((ran.trial_of_call plain split builds focused).mono fun b ts trial => ⟨k, trial⟩)

/-- **An expired draft is ordered as it was planned.**  In a run with the adapters of venues, none of
which is named twice, whatever an attempt orders was ordered in planning: the same adapter, which is
the one that listed the position, got the same order, and so the same request is sent.  A run orders
drafts in planning and in its attempts only. -/
theorem renews {venues : List Venue} (own : setup.adapters = Planning.adaptersOf venues)
    (once : venues.Nodup) (ran : d.Ran setup o turns result) :
    (∀ before ts after k i v r, turns = before ++ (ts ++ after) →
      Trial setup o (d.afterAll before).board ts k i v r →
      ∀ adapter order, (adapter, order) ∈ orders ts →
        ∃ x ps rest plan, turns = ⟨.publish Board.opened, (), x⟩ :: (ps ++ rest) ∧
          Talk.Goes (planning setup o) ps (some plan) ∧ i.task ∈ plan.tasks ∧
          v ∈ i.task.variants ∧
          Planning.Repeats (setup.planSettings o) venues (conversation ps) i.task v adapter order) ∧
    ∀ before u after adapter order, turns = before ++ u :: after →
      u.step.call? = some (.build adapter order) →
      (∃ x first last rest made, before = ⟨.publish Board.opened, (), x⟩ :: first ∧
        after = last ++ rest ∧ Talk.Goes (planning setup o) (first ++ u :: last) made ∧
        u.step = .race (.build adapter order)) ∨
      StretchFrom (fun b ts => ∃ k i v r, Trial setup o b ts k i v r) d.board before u after := by
  refine ⟨?_, fun before u after adapter order => ran.place_of_order⟩
  intro before ts after k i v r split trial adapter order ordered
  obtain ⟨found, rfl⟩ := trial.ordered ordered
  obtain ⟨plan, planned, mem⟩ := ran.planned_of_trial split trial
  have variants := (fees_of_planned planned mem).1
  have variant : v ∈ i.task.variants := variants ▸ List.mem_of_getElem? trial.variant
  obtain ⟨x, ps, rest, begins, made⟩ := planned
  have go : Talk.Goes (Planning.plan (Planning.adaptersOf venues) (setup.planSettings o) true) ps
      (some plan) := own ▸ made
  obtain ⟨adapter', found', repeats⟩ := Planning.repeats_of_goes_plan once go mem variant
  rw [own, found'] at found
  obtain rfl := Option.some.inj found
  exact ⟨x, ps, rest, plan, begins, made, mem, variant, repeats⟩

/-- The venue of the small exit lists one position, and its planned draft has expired when its item
comes into work.  The order for a new draft repeats the one from planning. -/
theorem renews_expired :
    let setup := { Sample.setup false with adapters := Planning.adaptersOf [.feeVault] }
    let smooth := Sample.world (fun past => ⟨Sample.transaction [Sample.owner] 0,
      if (heights past).isEmpty then 10 else 100⟩) id
    let w : World := { smooth with
      answer := fun past c => match c with
        | .discover _ owner => Sample.listed.list .feeVault owner
        | c => smooth.answer past c }
    let turns := (w.play {} [] (whole setup Sample.options)).1
    ∃ before u after adapter order, turns = before ++ u :: after ∧
      u.step.call? = some (.build adapter order) ∧ heights before = [20] ∧
      StretchFrom (fun b ts => ∃ k i v r, Trial setup Sample.options b ts k i v r ∧
        ∃ x ps rest, turns = ⟨.publish Board.opened, (), x⟩ :: (ps ++ rest) ∧
          Planning.Repeats (setup.planSettings Sample.options) [.feeVault] (conversation ps) i.task v
            adapter order) ({} : Desk).board before u after := by
  intro setup smooth w turns
  have ran : ({} : Desk).Ran setup Sample.options turns _ := ran_play Sample.accepted w
  have ordered : (turns[17]?.bind Turn.ordered?).isSome = true := by decide +kernel
  have read : heights (turns.take 17) = [20] := by decide +kernel
  obtain ⟨⟨adapter, order⟩, found⟩ := Option.isSome_iff_exists.1 ordered
  obtain ⟨u, taken, found⟩ := Option.bind_eq_some_iff.1 found
  obtain ⟨u, after, split, builds⟩ := callAt_of_getElem? taken (Turn.ordered?_eq_some.1 found)
  refine ⟨_, u, after, adapter, order, split, builds, read, ?_⟩
  obtain ⟨attempts, places⟩ := renews rfl (List.nodup_singleton _) ran
  rcases places _ _ _ _ _ split builds with ⟨x, first, last, rest, made, before, -, planned, -⟩ |
    ⟨earlier, first, last, later, before, after, k, i, v, r, trial⟩
  · -- No height is read in planning.
    have unread : heights first = [] := by
      refine heights_of_unasked fun t ht calls => ?_
      rcases (quiet_of_goes_planning planned t (by simp [ht])).2 _ calls with
        ⟨_, _, h⟩ | ⟨_, _, h⟩ <;> cases h
    rw [before, ← List.singleton_append, heights_append, unread] at read
    cases read
  · rw [before, after] at split
    have among : (adapter, order) ∈ orders (first ++ u :: last) :=
      mem_orders.2 ⟨u, by simp, builds⟩
    refine ⟨earlier, first, last, later, before, after, k, i, v, r, trial, ?_⟩
    rw [← Desk.board_afterAll_eq] at trial
    obtain ⟨x, ps, rest, plan, begins, -, -, -, repeats⟩ :=
      attempts earlier _ later k i v r (by simpa using split) trial adapter order among
    exact ⟨x, ps, rest, begins, repeats⟩

end Desk.Ran

end PoolExit
