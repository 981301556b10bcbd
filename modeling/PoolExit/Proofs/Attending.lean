import PoolExit.Proofs.Probing
import PoolExit.Proofs.Provenance

/-!
# What builders are asked by an errand

An errand answers calls one after the other and hands on what it knows about the builders from one
call to the next (`Command.Errand.Attends`).  Whatever calls these are, the orders among them that
go to one builder are a history of orders side by side, in which each comes after the one before.  A
plan and a run are such sequences of calls, and what they exchange with the endpoints is just what
the answers take.

So the builder of every adapter is asked once at most, whatever is planned, run or built anew
(`Endpoints.asked_once`).
-/

namespace PoolExit

open PoolExit.Flow (AsksOnly asksOnly_pure asksOnly_question takes_bind takes_pure)

/-! ## Calls that are answered one after the other -/

/-- An answered call, and the exchanges with endpoints that the answer has taken. -/
structure Service where
  told : Exchange
  exchanges : HttpPath

namespace Service

section

variable (adapter : Nat) (s : Service)

/-- What is sent to the endpoints of an adapter and heard from them, where a draft is ordered. -/
def events : List CallEvent :=
  match s.told with
  | ⟨.build k o, _⟩ => if k = adapter then eventsOf o s.exchanges else []
  | _ => []

/-- The order at an adapter, with its result. -/
def order? : Option BuildCall :=
  match s.told with
  | ⟨.build k o, r⟩ => if k = adapter then some ⟨o, .ended r⟩ else none
  | _ => none

end

variable {adapter k : Nat} {o : BuildOrder} {r : Except VenueError Draft} {path : HttpPath}

lemma events_build : events adapter ⟨⟨.build k o, r⟩, path⟩ =
    if k = adapter then eventsOf o path else [] := rfl

lemma order?_build : order? adapter ⟨⟨.build k o, r⟩, path⟩ =
    if k = adapter then some ⟨o, .ended r⟩ else none := rfl

end Service

namespace Command.Errand

/-- An errand answers calls one after the other, with what is known about the builders before each
of them. -/
inductive Attends (e : Errand) : List Probe → List Service → List Probe → Prop
  | nil (probes : List Probe) : Attends e probes [] probes
  | cons {probes probes' probes'' : List Probe} {c : Call} {reply : Reply c.Answer} {a : c.Answer}
      {path : ShellPath} {services : List Service}
      (replied : ((e.reply c).run probes).Takes path (reply, probes'))
      (answer : reply.answer? = some a) (others : Attends e probes' services probes'') :
      Attends e probes (⟨⟨c, a⟩, httpPath path⟩ :: services) probes''

variable {e : Errand} {adapter : Nat} {points : Endpoints} {probes probes' probes'' : List Probe}
  {path : ShellPath}

lemma Attends.trans {first rest : List Service} (h : e.Attends probes first probes')
    (further : e.Attends probes' rest probes'') : e.Attends probes (first ++ rest) probes'' := by
  induction h with
  | nil => exact further
  | cons replied answer _ ih => exact .cons replied answer (ih further)

lemma reply_of_build {o : BuildOrder} {answer : Except VenueError Draft}
    (takes : ((e.build adapter o).run probes).Takes path (answer, probes')) :
    ((e.reply (.build adapter o)).run probes).Takes path (.later answer, probes') := by
  rw [Errand.reply, StateT.run_bind]
  exact takes_bind.2 ⟨_, path, [], (List.append_nil path).symm, takes, .done _⟩

/-- Only orders change what is known about the builders. -/
lemma ensures_reply_keeps (e : Errand) {c : Call} (other : ∀ k o, c ≠ .build k o)
    (probes : List Probe) :
    Ensures (fun r : Reply c.Answer × List Probe => r.2 = probes) ((e.reply c).run probes) := by
  cases c with
  | build k o => exact absurd rfl (other k o)
  | discover k owner =>
      simp only [reply]
      cases e.endpoints[k]? with
      | none => exact ensures_pure rfl
      | some points =>
          rw [StateT.run_bind]
          exact (ensures_lift _ probes).bind fun r h => ensures_pure h
  | signAll _ | signOne _ => exact ensures_pure rfl
  | blockHeight | simulate _ | submit _ | confirm =>
      rw [reply, StateT.run_bind]
      exact (ensures_lift _ probes).bind fun r h => ensures_pure h

/-- What one call adds to the orders of an adapter. -/
lemma leads_of_reply (found : e.endpoints[adapter]? = some points) {c : Call}
    {reply : Reply c.Answer} {a : c.Answer}
    (replied : ((e.reply c).run probes).Takes path (reply, probes'))
    (answered : reply.answer? = some a) (all : probes.length = e.endpoints.length)
    (calls : List BuildCall) :
    points.Leads ⟨⟨probes.getD adapter .unasked, false⟩, calls⟩
      (Service.events adapter ⟨⟨c, a⟩, httpPath path⟩)
      ⟨⟨probes'.getD adapter .unasked, false⟩,
        calls ++ (Service.order? adapter ⟨⟨c, a⟩, httpPath path⟩).toList⟩ ∧
    probes'.length = probes.length := by
  by_cases other : ∀ k o, c ≠ .build k o
  · obtain rfl : probes' = probes := (ensures_reply_keeps e other probes).of_takes replied
    cases c with
    | build k o => exact absurd rfl (other k o)
    | discover | signAll | signOne | blockHeight | simulate | submit | confirm =>
        refine ⟨?_, rfl⟩
        rw [Service.order?, Option.toList_none, List.append_nil]
        exact .refl _
  · push Not at other
    obtain ⟨k, o, rfl⟩ := other
    have building := build_of_reply replied answered
    cases there : e.endpoints[k]? with
    | none =>
        have apart : k ≠ adapter := by
          rintro rfl
          rw [found] at there
          cases there
        obtain ⟨-, rfl⟩ := build_of_missing there building
        rw [Service.events_build, Service.order?_build, if_neg apart, if_neg apart,
          Option.toList_none, List.append_nil]
        exact ⟨.refl _, rfl⟩
    | some points' =>
        obtain ⟨known, ordered, rfl⟩ := build_of_takes there building
        refine ⟨?_, List.length_set⟩
        by_cases same : k = adapter
        · obtain rfl := same
          obtain rfl : points = points' := Option.some.inj (found.symm.trans there)
          have bound : k < probes.length := all ▸ (List.getElem?_eq_some_iff.1 found).1
          rw [Service.events_build, Service.order?_build, if_pos rfl, if_pos rfl,
            Option.toList_some, List.getD_eq_getElem?_getD (l := probes.set k known),
            List.getElem?_set_self bound]
          exact Endpoints.leads_build ordered
        · rw [Service.events_build, Service.order?_build, if_neg same, if_neg same,
            Option.toList_none, List.append_nil,
            List.getD_eq_getElem?_getD (l := probes.set k known), List.getElem?_set_ne same,
            ← List.getD_eq_getElem?_getD]
          exact .refl _

/-- **Orders of an errand are orders side by side.**  Whatever calls are answered, those that order
a draft from one adapter are a history of its endpoints; what is known about the builder before and
after is what the errand has kept for this adapter. -/
theorem leads_of_attends (found : e.endpoints[adapter]? = some points) {services : List Service}
    (attends : e.Attends probes services probes') (all : probes.length = e.endpoints.length)
    (calls : List BuildCall) :
    points.Leads ⟨⟨probes.getD adapter .unasked, false⟩, calls⟩
      (services.flatMap (·.events adapter))
      ⟨⟨probes'.getD adapter .unasked, false⟩, calls ++ services.filterMap (·.order? adapter)⟩ := by
  induction attends generalizing calls with
  | nil =>
      rw [List.filterMap_nil, List.append_nil]
      exact .refl _
  | @cons probes probes₁ probes₂ c reply a path services replied answer others ih =>
      obtain ⟨leads, length⟩ := leads_of_reply found replied answer all calls
      have further := leads.trans (ih (length.trans all) _)
      rw [List.append_assoc] at further
      rw [List.flatMap_cons, List.filterMap_cons]
      cases order : Service.order? adapter ⟨⟨c, a⟩, httpPath path⟩ with
      | none => simpa [order] using further
      | some call => simpa [order] using further

/-! ## Plans and runs -/

lemma httpPath_append (first rest : ShellPath) :
    httpPath (first ++ rest) = httpPath first ++ httpPath rest := List.filterMap_append

section

variable {α β : Type}

/-- What the machine does without any exchange with endpoints, and without learning anything about
builders. -/
def Quiet (x : Machine α) : Prop :=
  ∀ probes path r probes', (x.run probes).Takes path (r, probes') →
    httpPath path = [] ∧ probes' = probes

lemma quiet_pure (a : α) : Quiet (pure a) := by
  intro probes path r probes' takes
  obtain ⟨rfl, same⟩ := takes_pure.1 takes
  exact ⟨rfl, (Prod.mk.inj same).2.symm⟩

lemma Quiet.bind {x : Machine α} {f : α → Machine β} (first : Quiet x)
    (second : ∀ a, Quiet (f a)) : Quiet (x >>= f) := by
  intro probes path r probes' takes
  rw [StateT.run_bind] at takes
  obtain ⟨⟨a, probes₁⟩, here, rest, rfl, takes, further⟩ := takes_bind.1 takes
  obtain ⟨none, rfl⟩ := first probes here a probes₁ takes
  obtain ⟨none', rfl⟩ := second a probes₁ rest r probes' further
  exact ⟨by rw [httpPath_append, none, none', List.append_nil], rfl⟩

lemma quiet_step {s : ShellStep} (apart : ∀ step, s ≠ .http step) :
    Quiet (Shell.step s : Machine s.Answer) := by
  intro probes path r probes' takes
  obtain ⟨answer, here, rest, rfl, asked, done⟩ := takes_bind.1 takes
  obtain rfl := Flow.takes_question.1 asked
  obtain ⟨rfl, same⟩ := takes_pure.1 done
  refine ⟨?_, (Prod.mk.inj same).2.symm⟩
  cases s with
  | http step => exact absurd rfl (apart step)
  | _ => rfl

lemma quiet_noteRun (n : Notice) : Quiet (noteRun n) := quiet_step nofun

lemma quiet_requestAbort (d : Desk) : Quiet ((Desk.requestAbort noteRun).run d) := by
  unfold Desk.requestAbort
  simp only [StateT.run_bind, StateT.run_get, pure_bind, StateT.run_set]
  split
  · simp only [StateT.run_bind, StateT.run_monadLift, monadLift_self, bind_assoc, pure_bind]
    exact (quiet_noteRun _).bind fun _ => quiet_pure _
  · exact quiet_pure _

lemma quiet_heed (d : Desk) : Quiet (heed.run d) := by
  unfold heed
  simp only [StateT.run_bind, StateT.run_get, pure_bind]
  cases stopped : d.stopped with
  | true => exact quiet_pure _
  | false =>
      simp only [Bool.false_eq_true, if_false, StateT.run_bind, StateT.run_monadLift, bind_assoc,
        pure_bind]
      refine (quiet_step (by simp)).bind fun interrupted => ?_
      cases interrupted with
      | false => exact quiet_pure _
      | true =>
          simp only [if_true, StateT.run_bind, StateT.run_monadLift, bind_assoc, pure_bind]
          refine (quiet_step (by simp)).bind fun _ => ?_
          rw [discard, map_const, Function.comp_apply, StateT.run_map, map_eq_pure_bind]
          exact (quiet_requestAbort d).bind fun _ => quiet_pure _

/-- A call is answered by the errand, and then the user is heeded. -/
lemma attends_of_answer {c : Call} {d d' : Desk} {reply : Reply c.Answer}
    (takes : (((e.conductor.answer c).run d).run probes).Takes path ((reply, d'), probes')) :
    reply ≠ .never ∧ ∃ a s, reply.answer? = some a ∧ s.exchanges = httpPath path ∧
      e.Attends probes [s] probes' := by
  obtain ⟨answered, -⟩ := ((e.serves c d).run probes).of_takes takes
  obtain ⟨a, answer⟩ := Reply.exists_answer answered
  simp only [conductor, StateT.run_bind, StateT.run_monadLift, monadLift_self, bind_assoc,
    pure_bind, StateT.run_pure] at takes
  obtain ⟨⟨reply', probes₁⟩, first, rest, rfl, replied, further⟩ := takes_bind.1 takes
  obtain ⟨⟨⟨⟩, _⟩, last, _, rfl, heeded, done⟩ := takes_bind.1 further
  obtain ⟨rfl, same⟩ := takes_pure.1 done
  cases same
  obtain ⟨none, rfl⟩ := quiet_heed d _ _ _ _ heeded
  refine ⟨answered, a, ⟨⟨c, a⟩, httpPath first⟩, answer, ?_, .cons replied answer (.nil _)⟩
  rw [List.append_nil, httpPath_append, none, List.append_nil]

/-- A talk that is conducted is a sequence of calls that are answered, and takes no other exchange
with endpoints. -/
lemma attends_of_conduct (p : Talk α) :
    ∀ {d : Desk} {probes probes' : List Probe} {path : ShellPath} {r : Option α × Desk},
      (((e.conductor.conduct p).run d).run probes).Takes path (r, probes') →
        ∃ services, e.Attends probes services probes' ∧
          httpPath path = services.flatMap (·.exchanges) := by
  induction p with
  | done a =>
      intro d probes probes' path r takes
      obtain ⟨rfl, same⟩ := takes_pure.1 takes
      obtain ⟨-, rfl⟩ := Prod.mk.inj same
      exact ⟨[], .nil _, rfl⟩
  | ask step next ih =>
      intro d probes probes' path r takes
      cases step with
      | call c =>
          rw [Conductor.conduct, StateT.run_bind, StateT.run_bind] at takes
          obtain ⟨⟨⟨reply, d'⟩, _⟩, first, rest, rfl, asking, further⟩ := takes_bind.1 takes
          obtain ⟨-, a, s, answer, exchanges, attends⟩ := attends_of_answer asking
          simp only [answer] at further
          obtain ⟨services, others, all⟩ := ih a further
          refine ⟨s :: services, attends.trans others, ?_⟩
          rw [httpPath_append, List.flatMap_cons, exchanges, all]
      | race c =>
          rw [Conductor.conduct, StateT.run_bind, StateT.run_bind] at takes
          obtain ⟨⟨⟨reply, d'⟩, _⟩, first, rest, rfl, asking, further⟩ := takes_bind.1 takes
          obtain ⟨answered, _, s, -, exchanges, attends⟩ := attends_of_answer asking
          obtain ⟨heard, raced, -⟩ := Reply.exists_raced answered d'.stopped
          simp only [StateT.run_bind, Conductor.stopped, StateT.run_get, StateT.run_pure, pure_bind,
            raced] at further
          obtain ⟨services, others, all⟩ := ih heard further
          refine ⟨s :: services, attends.trans others, ?_⟩
          rw [httpPath_append, List.flatMap_cons, exchanges, all]
      | stopped =>
          rw [Conductor.conduct, StateT.run_bind, StateT.run_bind] at takes
          simp only [StateT.run_bind, Conductor.stopped, StateT.run_get, StateT.run_pure,
            pure_bind] at takes
          exact ih d.stopped takes
      | publish b =>
          rw [Conductor.conduct, StateT.run_bind, StateT.run_modify, pure_bind] at takes
          exact ih () takes
      | note n =>
          rw [Conductor.conduct, StateT.run_bind, StateT.run_monadLift, monadLift_self, bind_assoc,
            StateT.run_bind] at takes
          obtain ⟨⟨u, _⟩, first, rest, rfl, noted, further⟩ := takes_bind.1 takes
          rw [pure_bind] at further
          obtain ⟨none, rfl⟩ := quiet_noteRun n _ _ _ _ noted
          obtain ⟨services, others, all⟩ := ih () further
          exact ⟨services, others, by rw [httpPath_append, none, List.nil_append, all]⟩

end

/-! ## Who asks about builders -/

end Command.Errand

/-- A step of the program that does not ask whether a builder is well. -/
def ShellStep.Unasking (s : ShellStep) : Prop := ∀ step, s = .http step → step.Unasking

lemma Endpoints.unasking_discover (e : Endpoints) (owner : Pubkey) :
    (e.discover owner).AsksOnly HttpStep.Unasking := by
  have sent : (e.exchange .discover "discover_url" e.discoverUrl
      (discoveryRequest owner)).AsksOnly HttpStep.Unasking := e.unasking_exchange ..
  refine sent.bind fun answer => ?_
  split
  · exact asksOnly_pure _
  · dsimp only
    split
    · exact (asksOnly_question (by simp [HttpStep.Unasking])).bind fun _ => asksOnly_pure _
    · exact asksOnly_pure _

namespace Command

lemma unasking_step {s : ShellStep} (apart : ∀ step, s ≠ .http step) :
    (Shell.step s).AsksOnly ShellStep.Unasking :=
  asksOnly_question fun step same => absurd same (apart step)

namespace NodeClient

variable (c : NodeClient)

lemma unasking_ask {α : Type} (talk : NodeTalk α) : (c.ask talk).AsksOnly ShellStep.Unasking :=
  (Flow.asksOnly_true talk).perform fun _ _ => unasking_step (by simp)

lemma unasking_submit (t : Transaction) : (c.submit t).AsksOnly ShellStep.Unasking := by
  refine (c.unasking_ask _).bind fun answer => ?_
  split
  · exact (unasking_step (by simp)).bind fun _ => asksOnly_pure _
  · exact asksOnly_pure _

lemma unasking_answerWatch (start : Nat) (w : Watched) (q : WatchQuestion) :
    (c.answerWatch start w q).AsksOnly ShellStep.Unasking := by
  cases q with
  | status | height => exact c.unasking_ask _
  | clock => exact (unasking_step (by simp)).bind fun _ => asksOnly_pure _
  | pause => exact (unasking_step (by simp)).bind fun _ => unasking_step (by simp)
  | announce => exact unasking_step (by simp)

lemma unasking_follow {w : Watched} {ask : (q : WatchQuestion) → Shell q.Answer}
    (each : ∀ q, (ask q).AsksOnly ShellStep.Unasking) (patienceMs steps : Nat) (s : Watch) :
    (Watch.follow w ask patienceMs steps s).AsksOnly ShellStep.Unasking := by
  induction steps generalizing s with
  | zero => cases s <;> exact asksOnly_pure _
  | succ n ih =>
      cases s with
      | settled verdict => exact asksOnly_pure _
      | looking | measuring | lastLook height | checkingClock | resting | landing =>
          exact (each _).bind fun _ => ih _

lemma unasking_confirm (w : Watched) : (c.confirm w).AsksOnly ShellStep.Unasking :=
  (unasking_step (by simp)).bind fun start =>
    unasking_follow (c.unasking_answerWatch start w) _ _ _

end NodeClient

namespace Errand

lemma asksOnly_later {α : Type} {K : ShellStep → Prop} {x : Shell α} (h : x.AsksOnly K)
    (probes : List Probe) :
    ((do return .later (← (x : Shell α)) : Machine (Reply α)).run probes).AsksOnly K := by
  simp only [StateT.run_bind, StateT.run_monadLift, monadLift_self, bind_assoc, pure_bind]
  exact h.bind fun _ => asksOnly_pure _

/-- Only orders ask whether a builder is well. -/
lemma unasking_reply (e : Errand) {c : Call} (other : ∀ k o, c ≠ .build k o)
    (probes : List Probe) : ((e.reply c).run probes).AsksOnly ShellStep.Unasking := by
  cases c with
  | build k o => exact absurd rfl (other k o)
  | discover k owner =>
      simp only [reply]
      cases e.endpoints[k]? with
      | none => exact asksOnly_pure _
      | some points =>
          have sent : (Shell.http (points.discover owner)).AsksOnly ShellStep.Unasking :=
            (points.unasking_discover owner).perform fun step unasking =>
              asksOnly_question fun _ same => ShellStep.http.inj same ▸ unasking
          exact asksOnly_later sent probes
  | signAll _ | signOne _ => exact asksOnly_pure _
  | blockHeight | simulate t => exact asksOnly_later (e.node.unasking_ask _) probes
  | submit t => exact asksOnly_later (e.node.unasking_submit t) probes
  | confirm signature expiry => exact asksOnly_later (e.node.unasking_confirm _) probes

lemma orders_of_attends {e : Errand} {probes probes' : List Probe} {services : List Service}
    (attends : e.Attends probes services probes') :
    ∀ s ∈ services, ∀ t ∈ s.exchanges, ∀ url timeoutMs, t.question = .get url timeoutMs →
      ∃ k o, s.told.call = .build k o := by
  induction attends with
  | nil => exact List.forall_mem_nil _
  | @cons probes _ _ c reply a path services replied answer others ih =>
      refine List.forall_mem_cons.2 ⟨fun t mem url timeoutMs asks => ?_, ih⟩
      by_contra other
      push Not at other
      obtain ⟨⟨step, given⟩, there, same⟩ := List.mem_filterMap.1 mem
      have unasking := (unasking_reply e other probes).of_takes replied _ there
      cases step with
      | http step =>
          obtain rfl := Option.some.inj same
          exact unasking step rfl url timeoutMs asks
      | _ => cases same

lemma attends_of_run {e : Errand} {o : Options} {path : ShellPath} {outcome : RunOutcome}
    (takes : (e.run o).Takes path outcome) :
    ∃ services probes, e.Attends e.unasked services probes ∧
      httpPath path = services.flatMap (·.exchanges) := by
  obtain ⟨⟨⟨_, d⟩, probes⟩, first, rest, rfl, conducted, done⟩ := takes_bind.1 takes
  obtain ⟨rfl, -⟩ := takes_pure.1 done
  rw [List.append_nil]
  change (((e.conductor.run e.setup o).run {}).run e.unasked).Takes first _ at conducted
  rw [Conductor.run, StateT.run_bind, StateT.run_get, pure_bind] at conducted
  cases accepted : ({} : Desk).accept o with
  | error failure =>
      simp only [accepted] at conducted
      obtain ⟨rfl, -⟩ := takes_pure.1 conducted
      exact ⟨[], _, .nil _, rfl⟩
  | ok =>
      simp only [accepted, StateT.run_bind] at conducted
      obtain ⟨⟨⟨result, d'⟩, probes'⟩, first, rest, rfl, talked, done⟩ := takes_bind.1 conducted
      obtain ⟨services, attends, all⟩ := attends_of_conduct _ talked
      refine ⟨services, probes', attends, ?_⟩
      cases result with
      | some result =>
          obtain ⟨rfl, -⟩ := takes_pure.1 done
          rw [List.append_nil, all]
      | none =>
          obtain ⟨rfl, -⟩ := takes_pure.1 done
          rw [List.append_nil, all]

lemma attends_of_plan {e : Errand} {o : Options} {path : ShellPath}
    {made : Option (Except ExitError Plan)} (takes : (e.plan o).Takes path made) :
    ∃ services probes, e.Attends e.unasked services probes ∧
      httpPath path = services.flatMap (·.exchanges) := by
  obtain ⟨⟨⟨_, d⟩, probes⟩, first, rest, rfl, conducted, done⟩ := takes_bind.1 takes
  obtain ⟨rfl, -⟩ := takes_pure.1 done
  obtain ⟨services, attends, all⟩ := attends_of_conduct _ conducted
  exact ⟨services, probes, attends, by rw [List.append_nil, all]⟩

end Errand

end Command

open Command (Errand)

/-- **A builder is asked once.**  However many orders are carried out side by side, what they send
and hear is in order (`AskedOnce`), and no order waits in vain: each one that is still wanted can be
brought to its end.  The same holds of an adapter of an errand, for whatever calls the errand
answers one after the other, however many plans and rebuilds they belong to; there nobody but an
order asks whether a builder is well.  What a run or a plan exchanges with the endpoints is what
such calls exchange with them. -/
theorem Endpoints.asked_once (e : Endpoints) :
    (∀ events c, e.Served events c → e.AskedOnce events c.calls ∧
      ∀ (n : Nat) (call : BuildCall), c.calls[n]? = some call → call.standing ≠ .dropped →
        ∃ more c' result, e.Served (events ++ more) c' ∧
          c'.calls[n]? = some ⟨call.order, .ended result⟩) ∧
    ∀ (errand : Errand) (adapter : Nat), errand.endpoints[adapter]? = some e →
      (∀ services probes, errand.Attends errand.unasked services probes →
        e.AskedOnce (services.flatMap (·.events adapter)) (services.filterMap (·.order? adapter)) ∧
        ∀ s ∈ services, ∀ t ∈ s.exchanges, ∀ url timeoutMs, t.question = .get url timeoutMs →
          ∃ k o, s.told.call = .build k o) ∧
      ∀ o path,
        (∀ outcome, (errand.run o).Takes path outcome → ∃ services probes,
          errand.Attends errand.unasked services probes ∧
            httpPath path = services.flatMap (·.exchanges)) ∧
        ∀ made, (errand.plan o).Takes path made → ∃ services probes,
          errand.Attends errand.unasked services probes ∧
            httpPath path = services.flatMap (·.exchanges) := by
  refine ⟨fun events c served => ⟨served.inOrder.askedOnce, fun n call found wanted => ?_⟩,
    fun errand adapter found => ⟨fun services probes attends => ⟨?_, ?_⟩, fun o path => ⟨?_, ?_⟩⟩⟩
  · obtain ⟨more, c', result, leads, ends⟩ := served.inOrder.exists_ended found wanted
    exact ⟨more, c', result, Leads.trans served leads, ends⟩
  · have leads := Errand.leads_of_attends found attends (List.length_map _) []
    have unasked : errand.unasked.getD adapter .unasked = .unasked := by
      rw [Errand.unasked, List.getD_eq_getElem?_getD, List.getElem?_map, found]
      rfl
    rw [unasked] at leads
    exact (Served.inOrder leads).askedOnce
  · exact Errand.orders_of_attends attends
  · exact fun outcome => Errand.attends_of_run
  · exact fun made => Errand.attends_of_plan

namespace Sample

/-- Endpoints that nobody answers at. -/
def endpoints : Endpoints where
  venue := .feeVault
  discoverUrl := "http://discover"
  buildUrl := "http://build"
  healthUrl := some " http://health "
  timeoutMs := 1000

/-- The small exit, with these endpoints. -/
def deserted : Command.Errand := { errand with endpoints := [endpoints] }

/-- An order for what is owed to the small exit. -/
def order (feesOwed : Nat) : BuildOrder where
  owner := owner
  position := { position with feesOwed }
  action := .claim
  feeLevel := 1000
  slippageBps := 50
  computeUnitCeiling := 200000

/-- An order at these endpoints, with what is known about their builder, on the machine where nobody
answers there: the path, the answer, and what is known then. -/
@[irreducible] def deserts (feesOwed : Nat) (probes : List Probe) :
    ShellPath × Except VenueError Draft × List Probe :=
  ((deserted.build 0 (order feesOwed)).run probes).play fun s => match s with
    | .http step => step.unreached
    | other => machine other

lemma takes_deserts (feesOwed : Nat) (probes : List Probe) :
    ((deserted.build 0 (order feesOwed)).run probes).Takes (deserts feesOwed probes).1
      (deserts feesOwed probes).2 := by
  unfold deserts
  exact Flow.takes_play _ _

lemma attends_deserts (feesOwed : Nat) (probes : List Probe) {services : List Service}
    {probes' : List Probe}
    (others : deserted.Attends (deserts feesOwed probes).2.2 services probes') :
    deserted.Attends probes (⟨⟨.build 0 (order feesOwed), (deserts feesOwed probes).2.1⟩,
      httpPath (deserts feesOwed probes).1⟩ :: services) probes' :=
  .cons (Command.Errand.reply_of_build (takes_deserts feesOwed probes)) rfl others

end Sample

/-- Two orders to a builder that cannot be reached, and one between them that there is nothing to
take for: the builder is asked once, and nothing else is sent.  An order that waits for what another
one finds out can be brought to its end.  What a run or a plan exchanges with the endpoints is what
calls exchange with them. -/
theorem Endpoints.asked_once_deserted :
    let unavailable : Except VenueError Draft := .error (.builderUnavailable .feeVault
      (EndpointError.transport (TransportFault.cannotConnect "http://health").causes).describe)
    let waiting : Standing := .under false (.going (Sample.endpoints.order (Sample.order 1)))
    let run := (Sample.deserted.run Sample.options).play Sample.machine
    let plan := (Sample.deserted.plan Sample.options).play Sample.machine
    (∃ services probes, Sample.deserted.Attends Sample.deserted.unasked services probes ∧
      services.filterMap (·.order? 0) = [⟨Sample.order 1, .ended unavailable⟩,
        ⟨Sample.order 0, .ended (.error (.zeroBalance .claim))⟩,
        ⟨Sample.order 1, .ended unavailable⟩] ∧
      probesSent (services.flatMap (·.events 0)) = [("http://health", 1000)] ∧
      ordersSent (services.flatMap (·.events 0)) = []) ∧
    (∃ finder, Sample.endpoints.Served [] ⟨⟨.unasked, true⟩, [finder, ⟨Sample.order 1, waiting⟩]⟩ ∧
      ∃ more c result, Sample.endpoints.Served more c ∧
        c.calls[1]? = some ⟨Sample.order 1, .ended result⟩) ∧
    ∀ path ∈ [run.1, plan.1], ∃ services probes,
      Sample.deserted.Attends Sample.deserted.unasked services probes ∧
        httpPath path = services.flatMap (·.exchanges) := by
  intro unavailable waiting run plan
  obtain ⟨side, all⟩ := asked_once Sample.endpoints
  obtain ⟨attended, told⟩ := all Sample.deserted 0 rfl
  refine ⟨?_, ?_, ?_⟩
  · let first := Sample.deserts 1 Sample.deserted.unasked
    let second := Sample.deserts 0 first.2.2
    let third := Sample.deserts 1 second.2.2
    let services : List Service :=
      [⟨⟨.build 0 (Sample.order 1), first.2.1⟩, httpPath first.1⟩,
        ⟨⟨.build 0 (Sample.order 0), second.2.1⟩, httpPath second.1⟩,
        ⟨⟨.build 0 (Sample.order 1), third.2.1⟩, httpPath third.1⟩]
    have attends : Sample.deserted.Attends Sample.deserted.unasked services third.2.2 :=
      Sample.attends_deserts 1 _ (Sample.attends_deserts 0 first.2.2
        (Sample.attends_deserts 1 second.2.2 (.nil third.2.2)))
    have listed : services.filterMap (·.order? 0) = [⟨Sample.order 1, .ended first.2.1⟩,
        ⟨Sample.order 0, .ended second.2.1⟩, ⟨Sample.order 1, .ended third.2.1⟩] := rfl
    obtain ⟨once, -⟩ := attended services _ attends
    have heard : answersHeard (services.flatMap (·.events 0)) =
        [.error (.cannotConnect "http://health")] := by decide +kernel
    obtain ⟨unordered, unserved⟩ := once.unwell " http://health " rfl (by decide +kernel) _
      (heard ▸ List.mem_singleton_self _)
      (.transport (TransportFault.cannotConnect "http://health").causes) (by decide +kernel)
    have empty := once.empty
    rw [listed] at unserved empty
    have answered : first.2.1 = unavailable := unserved ⟨Sample.order 1, _⟩ (by simp) rfl _ rfl
    have answered' : third.2.1 = unavailable := unserved ⟨Sample.order 1, _⟩ (by simp) rfl _ rfl
    have refused : second.2.1 = .error (.zeroBalance .claim) :=
      empty ⟨Sample.order 0, _⟩ (by simp) Bool.false_ne_true _ rfl
    rw [answered, answered', refused] at listed
    exact ⟨services, _, attends, listed, by decide +kernel, unordered⟩
  · let finder : BuildCall := ⟨Sample.order 1,
      .under true (.going (Sample.endpoints.informed (Sample.order 1) .unasked))⟩
    have placed : Sample.endpoints.Served []
        ⟨{}, [⟨Sample.order 1, waiting⟩, ⟨Sample.order 1, waiting⟩]⟩ :=
      Leads.trans (Moves.place (Sample.order 1)).leads (Moves.place (Sample.order 1)).leads
    have asks : Sample.endpoints.order (Sample.order 1) = .ask .known _ := order_of_available rfl
    have served : Sample.endpoints.Served []
        ⟨⟨.unasked, true⟩, [finder, ⟨Sample.order 1, waiting⟩]⟩ := by
      simp only [waiting, asks] at placed ⊢
      exact placed.trans (leads_taken [] [_] Sample.endpoints (Sample.order 1))
    obtain ⟨more, c, result, further, ends⟩ := (side _ _ served).2 1 _ rfl nofun
    exact ⟨finder, served, more, c, result, further, ends⟩
  · intro path mem
    rcases List.mem_pair.1 mem with rfl | rfl
    · exact (told Sample.options _).1 _ (Flow.takes_play Sample.machine _)
    · exact (told Sample.options _).2 _ (Flow.takes_play Sample.machine _)

end PoolExit
