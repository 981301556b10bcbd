import PoolExit.Proofs.Basic
import PoolExit.Proofs.Conversation
import PoolExit.Proofs.Gathering

/-!
# What planning asks

Planning talks to the venues only, and asks for drafts at the fees of the ladder (`priced_plan`).
Within a run it is given up as soon as the run is cancelled, and for no other reason.  In the plan
that it makes, no claim comes after a withdrawal from the same pool (`claimsLead_of_goes_plan`).
-/

namespace PoolExit

namespace Planning

open Talk

/-- A call to a venue. -/
def ToVenue (c : Call) : Prop :=
  (∃ adapter owner, c = .discover adapter owner) ∨ ∃ adapter order, c = .build adapter order

/-- An order for a draft at one of the fees. -/
def Ordered (fees : List UInt64) (c : Call) : Prop :=
  ∃ adapter order, c = .build adapter order ∧ order.feeLevel ∈ fees

/-- An order for a draft of a candidate at one of the fees. -/
def OrderedFor (s : PlanSettings) (c : Candidate) (fees : List UInt64) (call : Call) : Prop :=
  ∃ fee ∈ fees, call = .build c.adapter (s.order c.position c.action fee)

lemma OrderedFor.ordered {s : PlanSettings} {c : Candidate} {fees : List UInt64} {call : Call}
    (ordered : OrderedFor s c fees call) : Ordered fees call := by
  obtain ⟨fee, mem, rfl⟩ := ordered
  exact ⟨_, _, rfl, mem⟩

/-- A call that planning makes: a venue is asked for positions, or for a draft at one of the
fees. -/
def Priced (fees : List UInt64) (c : Call) : Prop :=
  (∃ adapter owner, c = .discover adapter owner) ∨ Ordered fees c

lemma Priced.toVenue {fees : List UInt64} {c : Call} (priced : Priced fees c) : ToVenue c := by
  rcases priced with discover | ⟨adapter, order, rfl, -⟩
  · exact .inl discover
  · exact .inr ⟨adapter, order, rfl⟩

lemma aside_remarks (s : PlanSettings) (position : Position) (fee : UInt64) (d : Draft) :
    ∀ n ∈ remarks s position fee d, n.Aside := by
  intro n mem
  rcases List.mem_append.1 mem with mem | mem <;> split at mem
  · split at mem
    · obtain rfl := List.mem_singleton.1 mem
      exact ⟨rfl, rfl⟩
    · cases mem
  · cases mem
  · split at mem
    · obtain rfl := List.mem_singleton.1 mem
      exact ⟨rfl, rfl⟩
    · cases mem
  · cases mem

lemma only_discover (s : PlanSettings) (fees : List UInt64) :
    ∀ adapters : List (Adapter × Nat), Only (Priced fees) Notice.Aside (discover s adapters)
  | [] => only_pure _
  | (a, index) :: rest => by
      rw [discover]
      refine (only_call (.inl ⟨index, s.owner, rfl⟩)).bind fun answer => ?_
      cases answer with
      | ok listings =>
          exact Only.bind (only_note ⟨rfl, rfl⟩) fun _ => (only_discover s fees rest).bind fun _ =>
            only_pure _
      | error e => exact (only_discover s fees rest).bind fun _ => only_pure _

lemma only_buildHigher (s : PlanSettings) (c : Candidate) {fees : List UInt64} :
    ∀ (built : List Variant) (higher : List UInt64), higher ⊆ fees →
      Only (OrderedFor s c fees) Notice.Aside (buildHigher s c built higher)
  | _, [], _ => only_pure _
  | built, fee :: rest, sub => by
      obtain ⟨first, others⟩ := List.cons_subset.1 sub
      rw [buildHigher]
      refine (only_call ⟨fee, first, rfl⟩).bind fun answer => ?_
      cases answer with
      | ok draft =>
          exact (only_noteAll (aside_remarks s c.position fee draft)).bind fun _ =>
            only_buildHigher s c _ rest others
      | error e => exact Only.bind (only_note ⟨rfl, rfl⟩) fun _ => only_pure _

lemma only_buildTask (s : PlanSettings) (c : Candidate) :
    Only (OrderedFor s c s.feeLevels) Notice.Aside (buildTask s c) := by
  unfold buildTask
  cases s.feeLevels with
  | nil => exact only_pure _
  | cons fee higher =>
      refine (only_call ⟨fee, List.mem_cons_self, rfl⟩).bind fun answer => ?_
      cases answer with
      | ok primary =>
          exact (only_noteAll (aside_remarks s c.position fee primary)).bind fun _ =>
            (only_buildHigher s c _ higher (List.subset_cons_self _ _)).bind fun _ => only_pure _
      | error e => exact only_pure _

lemma only_buildTasks (s : PlanSettings) :
    ∀ cs : List Candidate, Only (Ordered s.feeLevels) Notice.Aside (buildTasks s cs)
  | [] => only_pure _
  | c :: rest => ((only_buildTask s c).mono fun _ => OrderedFor.ordered).bind fun _ =>
      (only_buildTasks s rest).bind fun _ => only_pure _

lemma only_round {α : Type} {K : Call → Prop} {N : Notice → Prop} (stoppable : Bool)
    {p : Talk α} (h : Only K N p) : Only K N (round stoppable p) := by
  cases stoppable with
  | true => exact h.untilStopped
  | false => exact h.map some

lemma aside_notice {f : Finding} {n : Notice} (shown : f.notice? = some n) : n.Aside := by
  cases f with
  | failed | excluded =>
      obtain rfl := Option.some.inj shown
      exact ⟨rfl, rfl⟩
  | candidate => cases shown

/-- Planning asks for drafts at the fees of the ladder, and shows events about no item. -/
lemma only_plan (adapters : List Adapter) (s : PlanSettings) (stoppable : Bool) :
    Only (Priced s.feeLevels) Notice.Aside (plan adapters s stoppable) := by
  refine (only_round stoppable (only_discover s _ _)).bind fun findings => ?_
  cases findings with
  | none => exact only_pure _
  | some findings =>
      have finds : ∀ n ∈ findings.filterMap Finding.notice?, n.Aside := by
        intro n mem
        obtain ⟨f, -, shown⟩ := List.mem_filterMap.1 mem
        exact aside_notice shown
      refine (only_noteAll finds).bind fun _ => ?_
      have building : ∀ cs, Only (Priced s.feeLevels) Notice.Aside (buildTasks s cs) :=
        fun cs => (only_buildTasks s cs).mono fun _ => .inr
      refine (only_round stoppable (building _)).bind fun results => ?_
      cases results with
      | none => exact only_pure _
      | some results =>
          have excludes : ∀ n ∈ (results.filterMap unbuilt).map Notice.excluded, n.Aside := by
            intro n mem
            obtain ⟨e, -, rfl⟩ := List.mem_map.1 mem
            exact ⟨rfl, rfl⟩
          exact (only_noteAll excludes).bind fun _ => Only.bind (only_note ⟨rfl, rfl⟩) fun _ =>
            only_pure _

/-- Every draft that planning asks for has one of the fees of the ladder. -/
theorem priced_plan (adapters : List Adapter) (s : PlanSettings) (stoppable : Bool) :
    CallsOnly (Priced s.feeLevels) (plan adapters s stoppable) :=
  (only_plan adapters s stoppable).callsOnly

/-- Planning asks nobody but the venues. -/
lemma callsOnly_plan (adapters : List Adapter) (s : PlanSettings) (stoppable : Bool) :
    CallsOnly ToVenue (plan adapters s stoppable) :=
  (priced_plan adapters s stoppable).mono fun _ => Priced.toVenue

/-! ## Both rounds -/

lemma heedless_buildHigher (s : PlanSettings) (c : Candidate) :
    ∀ (built : List Variant) (higher : List UInt64), Heedless (buildHigher s c built higher)
  | _, [] => heedless_pure _
  | built, fee :: rest => by
      rw [buildHigher]
      refine (heedless_call _).bind fun answer => ?_
      cases answer with
      | ok draft => exact (heedless_noteAll _).bind fun _ => heedless_buildHigher s c _ rest
      | error e => exact Heedless.bind (heedless_note _) fun _ => heedless_pure _

lemma heedless_buildTask (s : PlanSettings) (c : Candidate) : Heedless (buildTask s c) := by
  unfold buildTask
  cases s.feeLevels with
  | nil => exact heedless_pure _
  | cons fee higher =>
      refine (heedless_call _).bind fun answer => ?_
      cases answer with
      | ok primary =>
          exact (heedless_noteAll _).bind fun _ =>
            (heedless_buildHigher s c _ higher).bind fun _ => heedless_pure _
      | error e => exact heedless_pure _

/-- The tasks that are built for candidates depend on the answers of the venues only. -/
lemma heedless_buildTasks (s : PlanSettings) : ∀ cs : List Candidate, Heedless (buildTasks s cs)
  | [] => heedless_pure _
  | c :: rest => (heedless_buildTask s c).bind fun _ => (heedless_buildTasks s rest).bind fun _ =>
      heedless_pure _

/-- What a round of planning comes to, it comes to with or without a run around it; within a run its
calls are raced. -/
lemma goes_of_goes_round {α : Type} {p : Talk α} {stoppable : Bool} {ts : List Turn}
    {a : α}
    (go : Goes (round stoppable p) ts (some a)) :
    ∃ us, Goes p us a ∧ (ts = us ∨ ∃ x, ts = ⟨.stopped, false, x⟩ :: us.map Turn.raced) := by
  cases stoppable with
  | true =>
      rcases Goes.of_untilStopped go with ⟨b, x, us, h, rfl, plain⟩ | ⟨h, -⟩
      · obtain rfl := Option.some.inj h
        exact ⟨us, plain, .inr ⟨x, rfl⟩⟩
      · cases h
  | false =>
      obtain ⟨b, plain, h⟩ := goes_map.1 go
      obtain rfl := Option.some.inj h
      exact ⟨ts, plain, .inl rfl⟩

/-- A round has the same conversation as without a run around it. -/
lemma conversation_of_goes_round {α : Type} {p : Talk α} {stoppable : Bool} {ts : List Turn}
    {a : α} (go : Goes (round stoppable p) ts (some a)) :
    ∃ us, Goes p us a ∧ conversation ts = conversation us := by
  obtain ⟨us, plain, rfl | ⟨x, rfl⟩⟩ := goes_of_goes_round go
  · exact ⟨ts, plain, rfl⟩
  · exact ⟨us, plain, by simp⟩

/-- Who shows events makes no call. -/
lemma callless_of_goes_noteAll {ns : List Notice} {ts : List Turn} {u : Unit}
    (go : Goes (noteAll ns) ts u) : ∀ t ∈ ts, t.step.call? = none := by
  intro t mem
  have held := (only_noteAll (K := fun _ => False) (N := fun _ => True) fun _ _ => trivial).of_goes
    go t mem
  exact Option.eq_none_iff_forall_ne_some.2 fun c calls => held.quiet.2 c calls

lemma conversation_of_goes_noteAll {ns : List Notice} {ts : List Turn} {u : Unit}
    (go : Goes (noteAll ns) ts u) : conversation ts = [] :=
  conversation_of_callless (callless_of_goes_noteAll go)

/-! ## How planning goes -/

section

variable {adapters : List Adapter} {s : PlanSettings} {stoppable : Bool} {ts : List Turn}

/-- The plan that both rounds come to. -/
def planOf (s : PlanSettings) (findings : List Finding)
    (results : List (Candidate × Except VenueError Task)) : Plan where
  feeLevels := s.feeLevels
  tasks := claimsFirst (results.filterMap built)
  excluded := findings.filterMap Finding.excluded? ++ results.filterMap unbuilt
  failedVenues := findings.filterMap Finding.failed?

/-- How planning can go, turn by turn: either round may be given up. -/
inductive Planned (adapters : List Adapter) (s : PlanSettings) (stoppable : Bool) :
    List Turn → Option Plan → Prop
  | undiscovered {fs} (finding : Goes (round stoppable (discover s (enabled adapters s))) fs none) :
      Planned adapters s stoppable fs none
  | undrafted {fs ns bs findings}
      (finding : Goes (round stoppable (discover s (enabled adapters s))) fs (some findings))
      (noted : Goes (noteAll (findings.filterMap Finding.notice?)) ns ())
      (laying : Goes (round stoppable (buildTasks s (findings.filterMap Finding.candidate?)))
        bs none) :
      Planned adapters s stoppable (fs ++ (ns ++ bs)) none
  | made {fs ns bs ms findings results}
      (finding : Goes (round stoppable (discover s (enabled adapters s))) fs (some findings))
      (noted : Goes (noteAll (findings.filterMap Finding.notice?)) ns ())
      (laying : Goes (round stoppable (buildTasks s (findings.filterMap Finding.candidate?)))
        bs (some results))
      (noted' : Goes (noteAll ((results.filterMap unbuilt).map Notice.excluded)) ms ()) (x) :
      Planned adapters s stoppable
        (fs ++ (ns ++ (bs ++ (ms ++ [⟨.note (.planReady (planOf s findings results).tasks.length
          (planOf s findings results).excluded.length), (), x⟩]))))
        (some (planOf s findings results))

lemma planned_of_goes {made : Option Plan} (go : Goes (plan adapters s stoppable) ts made) :
    Planned adapters s stoppable ts made := by
  obtain ⟨findings, fs, _, rfl, finding, sifted⟩ := goes_bind.1 go
  cases findings with
  | none =>
      obtain ⟨rfl, rfl⟩ := goes_pure.1 sifted
      rw [List.append_nil]
      exact .undiscovered finding
  | some findings =>
      obtain ⟨_, ns, _, rfl, noted, building⟩ := goes_bind.1 sifted
      obtain ⟨results, bs, _, rfl, laying, sorted⟩ := goes_bind.1 building
      cases results with
      | none =>
          obtain ⟨rfl, rfl⟩ := goes_pure.1 sorted
          rw [List.append_nil]
          exact .undrafted finding noted laying
      | some results =>
          obtain ⟨_, ms, _, rfl, noted', counted⟩ := goes_bind.1 sorted
          obtain ⟨_, cs, _, rfl, note, done⟩ := goes_bind.1 counted
          obtain ⟨rfl, rfl⟩ := goes_pure.1 done
          obtain ⟨x, rfl⟩ := goes_note.1 note
          exact .made finding noted laying noted' x

/-- A plan is made of what both of its rounds come to, and nobody is asked for anything besides. -/
lemma rounds_of_goes_plan {made : Plan} (go : Goes (plan adapters s stoppable) ts (some made)) :
    ∃ findings results us vs, Goes (discover s (enabled adapters s)) us findings ∧
      Goes (buildTasks s (findings.filterMap Finding.candidate?)) vs results ∧
      conversation ts = conversation us ++ conversation vs ∧
      made = {
        feeLevels := s.feeLevels
        tasks := claimsFirst (results.filterMap built)
        excluded := findings.filterMap Finding.excluded? ++ results.filterMap unbuilt
        failedVenues := findings.filterMap Finding.failed? } := by
  cases planned_of_goes go with
  | made finding noted laying noted' x =>
      obtain ⟨us, found, asked⟩ := conversation_of_goes_round finding
      obtain ⟨vs, laid, asked'⟩ := conversation_of_goes_round laying
      refine ⟨_, _, us, vs, found, laid, ?_, rfl⟩
      simp [asked, asked', conversation_of_goes_noteAll noted,
        conversation_of_goes_noteAll noted']

/-- Outside a run a round is not given up. -/
lemma not_goes_round_none {α : Type} {p : Talk α} : ¬ Goes (round false p) ts none := by
  intro go
  obtain ⟨a, -, h⟩ := goes_map.1 go
  cases h

/-- A plan that is made outside a run is not given up. -/
lemma exists_plan_of_goes {made : Option Plan} (go : Goes (plan adapters s false) ts made) :
    ∃ plan, made = some plan := by
  cases planned_of_goes go with
  | undiscovered finding => exact absurd finding not_goes_round_none
  | undrafted finding noted laying => exact absurd laying not_goes_round_none
  | made finding noted laying noted' x => exact ⟨_, rfl⟩

/-- Only a cancellation gives a round up. -/
lemma tellsStop_of_goes_round {α : Type} {p : Talk α} (go : Goes (round stoppable p) ts none) :
    ∃ us t, ts = us ++ [t] ∧ t.tellsStop = true := by
  cases stoppable with
  | false => exact absurd go not_goes_round_none
  | true =>
      rcases Goes.of_untilStopped go with ⟨a, _, _, h, -, -⟩ | ⟨-, stopped⟩
      · cases h
      · exact stopped

/-- Only a cancellation keeps planning from making a plan. -/
lemma tellsStop_of_goes_plan (go : Goes (plan adapters s stoppable) ts none) :
    ∃ us t, ts = us ++ [t] ∧ t.tellsStop = true := by
  cases planned_of_goes go with
  | undiscovered finding => exact tellsStop_of_goes_round finding
  | @undrafted fs ns bs findings finding noted laying =>
      obtain ⟨us, t, rfl, tells⟩ := tellsStop_of_goes_round laying
      exact ⟨fs ++ (ns ++ us), t, by simp, tells⟩

/-- Within a run, planning races all its calls. -/
lemma raced_of_goes_plan {made : Option Plan} (go : Goes (plan adapters s true) ts made) :
    ∀ t ∈ ts, ∀ c, t.step ≠ .call c := by
  have notes : ∀ {ns : List Notice} {us : List Turn} {u : Unit}, Goes (noteAll ns) us u →
      ∀ t ∈ us, ∀ c, t.step ≠ .call c := by
    intro ns us u go t mem c calls
    have silent := callless_of_goes_noteAll go t mem
    rw [calls] at silent
    cases silent
  cases planned_of_goes go with
  | undiscovered finding => exact Goes.raced_of_untilStopped finding
  | undrafted finding noted laying =>
      exact List.forall_mem_append.2 ⟨Goes.raced_of_untilStopped finding,
        List.forall_mem_append.2 ⟨notes noted, Goes.raced_of_untilStopped laying⟩⟩
  | made finding noted laying noted' x =>
      refine List.forall_mem_append.2 ⟨Goes.raced_of_untilStopped finding,
        List.forall_mem_append.2 ⟨notes noted, ?_⟩⟩
      exact List.forall_mem_append.2 ⟨Goes.raced_of_untilStopped laying,
        List.forall_mem_append.2 ⟨notes noted', by simp⟩⟩

end

/-! ## The order of a plan -/

/-- A plan that was made is in order. -/
theorem claimsLead_of_goes_plan {adapters : List Adapter} {s : PlanSettings} {stoppable : Bool}
    {ts : List Turn} {made : Plan} (go : Goes (plan adapters s stoppable) ts (some made)) :
    ClaimsLead made.tasks := by
  obtain ⟨findings, results, _, _, -, -, -, rfl⟩ := rounds_of_goes_plan go
  exact claimsLead_claimsFirst _

/-! ## A draft built anew -/

lemma only_rebuild (adapters : List Adapter) (s : PlanSettings) (task : Task) (fee : UInt64) :
    Only ToVenue Notice.Aside (rebuild adapters s task fee) := by
  unfold rebuild
  split
  · exact only_pure _
  · exact only_call (.inr ⟨_, _, rfl⟩)

/-- A new draft is what the venue built on the task's own order. -/
lemma turns_of_goes_rebuild {adapters : List Adapter} {s : PlanSettings} {task : Task}
    {fee : UInt64} {ts : List Turn} {draft : Draft}
    (go : Goes (rebuild adapters s task fee) ts (.ok draft)) :
    ∃ adapter x, adapters.findIdx? (fun a => a.venue = task.venue) = some adapter ∧
      ts = [⟨.call (.build adapter (s.order task.position task.action fee)), .ok draft, x⟩] := by
  unfold rebuild at go
  split at go
  · obtain ⟨-, h⟩ := goes_pure.1 go
    cases h
  next adapter found =>
    obtain ⟨x, rfl⟩ := goes_call.1 go
    exact ⟨adapter, x, found, rfl⟩

end Planning

end PoolExit
