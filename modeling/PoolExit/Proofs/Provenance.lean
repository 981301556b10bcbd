import PoolExit.Proofs.Conducted
import PoolExit.Proofs.Escalation
import PoolExit.Proofs.Granting
import PoolExit.Proofs.Strangers
import PoolExit.Proofs.Variants

/-!
# Where drafts come from

In the program the calls of a talk are answered by steps on a machine, and a path through these
steps holds every reply of a builder.  A talk that is conducted along a path follows a transcript
whose answers this path accounts for (`Conductor.Serves.traces`).  So every draft that gets into a
plan, or takes the place of one that has expired, stands in a reply that grants it.
-/

namespace PoolExit

/-! ## Conducting along a path -/

section

open PoolExit.Flow (Asked takes_bind takes_pure)

variable {Q : Type} {A : Q → Type} {α σ : Type} {path : List (Asked Q A)}

/-- What a flow is ensured to come to, it comes to on every path. -/
lemma Ensures.of_takes {P : α → Prop} {p : Flow Q A α} (h : Ensures P p) {a : α}
    (takes : p.Takes path a) : P a := by
  obtain ⟨q, rfl⟩ := h
  rw [map_eq_pure_bind] at takes
  obtain ⟨b, _, _, -, -, done⟩ := takes_bind.1 takes
  obtain ⟨-, rfl⟩ := takes_pure.1 done
  exact b.2

/-- A raced call that was not given up has its answer. -/
lemma Reply.answer_of_raced {reply : Reply α} {stopped : Bool} {a : α}
    (raced : reply.raced? stopped = some (some a)) : reply.answer? = some a := by
  cases reply with
  | atOnce b => exact Option.some.inj raced
  | later b =>
      cases stopped with
      | true => cases raced
      | false => exact Option.some.inj raced
  | never => cases stopped <;> cases raced

namespace Talk

variable {told told' : Exchange → Prop} {p : Talk α} {d : Desk} {r : Option α × Desk}

/-- A talk follows a transcript from a desk on, and this holds of everything answered in it. -/
def Traced (p : Talk α) (d : Desk) (r : Option α × Desk) (told : Exchange → Prop) : Prop :=
  ∃ a ts, r.1 = some a ∧ p.Goes ts a ∧ d.Admits ts ∧ d.afterAll ts = r.2 ∧
    ∀ x ∈ conversation ts, told x

lemma Traced.mono (traced : p.Traced d r told) (weaker : ∀ {x}, told x → told' x) :
    p.Traced d r told' := by
  obtain ⟨a, ts, result, go, admits, desk, all⟩ := traced
  exact ⟨a, ts, result, go, admits, desk, fun x mem => weaker (all x mem)⟩

lemma Traced.ask {s : Step} {next : s.Answer → Talk α} {answer : s.Answer} {x : Bool}
    (fits : (⟨s, answer, x⟩ : Turn).Fits d)
    (traced : (next answer).Traced (d.after ⟨s, answer, x⟩) r told)
    (heard : ∀ y ∈ conversation [⟨s, answer, x⟩], told y) : Traced (.ask s next) d r told := by
  obtain ⟨a, ts, result, go, admits, desk, all⟩ := traced
  refine ⟨a, _, result, ⟨answer, x, ts, rfl, go⟩, ⟨fits, admits⟩, desk, ?_⟩
  rw [← List.singleton_append, conversation_append]
  exact List.forall_mem_append.2 ⟨heard, all⟩

end Talk

namespace Conductor

variable {k : Conductor (StateT σ (Flow Q A))} {P : List (Asked Q A) → Exchange → Prop}

/-- What is answered to a call is accounted for by the path along which it is answered. -/
def Accounts (k : Conductor (StateT σ (Flow Q A))) (P : List (Asked Q A) → Exchange → Prop) :
    Prop :=
  ∀ (c : Call) (d d' : Desk) (s s' : σ) (path : List (Asked Q A)) (reply : Reply c.Answer)
    (a : c.Answer), (((k.answer c).run d).run s).Takes path ((reply, d'), s') →
    reply.answer? = some a → P path ⟨c, a⟩

/-- A talk that is conducted along a path follows one of its transcripts, and the path accounts for
every answer in it. -/
theorem Serves.traces (serves : k.Serves) (accounts : k.Accounts P)
    (mono : ∀ {path path' x}, path ⊆ path' → P path x → P path' x) (p : Talk α) :
    ∀ {d : Desk} {s s' : σ} {path : List (Asked Q A)} {r : Option α × Desk},
      (((k.conduct p).run d).run s).Takes path (r, s') → p.Traced d r (P path) := by
  induction p with
  | done a =>
      intro d s s' path r takes
      rw [conduct, StateT.run_pure, StateT.run_pure] at takes
      obtain ⟨rfl, same⟩ := takes_pure.1 takes
      obtain ⟨rfl, rfl⟩ := Prod.mk.inj same
      exact ⟨a, [], rfl, ⟨rfl, rfl⟩, trivial, rfl, by simp⟩
  | ask step next ih =>
      intro d s s' path r takes
      have behind : ∀ {first rest x}, P rest x → P (first ++ rest) x :=
        mono (List.subset_append_right ..)
      cases step with
      | call c =>
          rw [conduct, StateT.run_bind, StateT.run_bind] at takes
          obtain ⟨⟨⟨reply, d'⟩, s''⟩, first, rest, rfl, asking, further⟩ := takes_bind.1 takes
          obtain ⟨answered, heeds⟩ := ((serves c d).run s).of_takes asking
          obtain ⟨a, answer⟩ := Reply.exists_answer answered
          obtain ⟨x, running, rfl⟩ := heeds.exists_after (s := .call c) rfl a
          simp only [answer] at further
          have heard := accounts c d _ s s'' first reply a asking answer
          exact .ask (Turn.fits_call running) ((ih a further).mono behind)
            (List.forall_mem_singleton.2 (mono (List.subset_append_left ..) heard))
      | race c =>
          rw [conduct, StateT.run_bind, StateT.run_bind] at takes
          obtain ⟨⟨⟨reply, d'⟩, s''⟩, first, rest, rfl, asking, further⟩ := takes_bind.1 takes
          obtain ⟨answered, heeds⟩ := ((serves c d).run s).of_takes asking
          obtain ⟨a, answer, lost⟩ := Reply.exists_raced answered d'.stopped
          obtain ⟨x, running, rfl⟩ := heeds.exists_after (s := .race c) rfl a
          simp only [StateT.run_bind, stopped, StateT.run_get, StateT.run_pure, pure_bind,
            answer] at further
          refine .ask (Turn.fits_race running lost) ((ih a further).mono behind) ?_
          cases a with
          | none => exact List.forall_mem_nil _
          | some a =>
              have heard := accounts c d _ s s'' first reply a asking
                (Reply.answer_of_raced answer)
              exact List.forall_mem_singleton.2 (mono (List.subset_append_left ..) heard)
      | stopped =>
          rw [conduct, StateT.run_bind, StateT.run_bind] at takes
          simp only [StateT.run_bind, stopped, StateT.run_get, StateT.run_pure, pure_bind] at takes
          exact .ask (Turn.fits_stopped d) (ih d.stopped takes) (List.forall_mem_nil _)
      | publish b =>
          rw [conduct, StateT.run_bind, StateT.run_modify, pure_bind] at takes
          exact .ask (Turn.fits_publish b d) (ih () takes) (List.forall_mem_nil _)
      | note n =>
          rw [conduct, StateT.run_bind, StateT.run_monadLift, monadLift_self, bind_assoc,
            StateT.run_bind] at takes
          obtain ⟨⟨u, s''⟩, first, rest, rfl, noted, further⟩ := takes_bind.1 takes
          rw [pure_bind] at further
          exact .ask (Turn.fits_note n d) ((ih () further).mono behind)
            (List.forall_mem_nil _)

end Conductor

end

/-! ## The errand -/

open PoolExit.Flow (Asked Carries takes_bind takes_perform takes_pure takes_question)

/-- The exchanges with endpoints on a path. -/
def httpPath (path : ShellPath) : HttpPath :=
  path.filterMap fun
    | ⟨.http step, answer⟩ => some ⟨step, answer⟩
    | _ => none

lemma httpPath_subset {path path' : ShellPath} (sub : path ⊆ path') :
    httpPath path ⊆ httpPath path' := List.filterMap_subset _ sub

/-- The exchanges of a talk with an endpoint are those on its path. -/
lemma takes_http {α : Type} {talk : HttpTalk α} {path : ShellPath} {a : α}
    (takes : (Shell.http talk).Takes path a) : talk.Takes (httpPath path) a := by
  obtain ⟨asked, talked, carries⟩ := takes_perform.1 takes
  have same : httpPath path = asked := by
    clear takes talked
    induction carries with
    | nil => rfl
    | @cons t first rest asked one others ih =>
        obtain rfl := takes_question.1 one
        exact congrArg (t :: ·) ih
  rwa [same]

namespace Command.Errand

/-- A draft of an adapter's builder stands in a reply on the path that grants it. -/
def Granted (e : Errand) (path : ShellPath) (adapter : Nat) (o : BuildOrder) (draft : Draft) :
    Prop :=
  ∃ points, e.endpoints[adapter]? = some points ∧ points.Granted o (httpPath path) draft

/-- If the exchange brings a draft, then this draft has been granted. -/
def Vouched (e : Errand) (path : ShellPath) (x : Exchange) : Prop :=
  ∀ adapter o draft, x = ⟨.build adapter o, .ok draft⟩ → e.Granted path adapter o draft

variable {e : Errand}

lemma Granted.mono {path path' : ShellPath} (sub : path ⊆ path') {adapter : Nat}
    {o : BuildOrder} {draft : Draft} (granted : e.Granted path adapter o draft) :
    e.Granted path' adapter o draft := by
  obtain ⟨points, found, reply, g, mem, grants, read⟩ := granted
  exact ⟨points, found, reply, g, httpPath_subset sub mem, grants, read⟩

section

variable {adapter : Nat} {points : Endpoints} {probes probes' : List Probe} {path : ShellPath}

/-- An order is carried out by its endpoints, by what is known about their builder. -/
lemma build_of_takes {o : BuildOrder} {answer : Except VenueError Draft}
    (found : e.endpoints[adapter]? = some points)
    (takes : ((e.build adapter o).run probes).Takes path (answer, probes')) :
    ∃ known, (points.build o (probes.getD adapter .unasked)).Takes (httpPath path) (answer, known) ∧
      probes' = probes.set adapter known := by
  unfold build at takes
  simp only [found, StateT.run_bind, StateT.run_get, pure_bind, StateT.run_monadLift,
    monadLift_self, StateT.run_set, StateT.run_pure, bind_assoc] at takes
  obtain ⟨⟨answer, known⟩, first, rest, rfl, ordered, done⟩ := takes_bind.1 takes
  obtain ⟨rfl, same⟩ := takes_pure.1 done
  obtain ⟨rfl, rfl⟩ := Prod.mk.inj same
  rw [List.append_nil]
  exact ⟨known, takes_http ordered, rfl⟩

lemma build_of_missing {o : BuildOrder} {answer : Except VenueError Draft}
    (missing : e.endpoints[adapter]? = none)
    (takes : ((e.build adapter o).run probes).Takes path (answer, probes')) :
    answer = .error (.builderUnavailable o.position.venue "协议未启用") ∧ probes' = probes := by
  unfold build at takes
  rw [missing] at takes
  obtain ⟨-, same⟩ := takes_pure.1 takes
  exact ⟨(Prod.mk.inj same).1.symm, (Prod.mk.inj same).2.symm⟩

lemma build_of_reply {o : BuildOrder} {reply : Reply (Except VenueError Draft)}
    {answer : Except VenueError Draft}
    (replied : ((e.reply (.build adapter o)).run probes).Takes path (reply, probes'))
    (answered : reply.answer? = some answer) :
    ((e.build adapter o).run probes).Takes path (answer, probes') := by
  rw [Errand.reply, StateT.run_bind] at replied
  obtain ⟨⟨drafted, s⟩, built, _, rfl, building, done⟩ := takes_bind.1 replied
  obtain ⟨rfl, same⟩ := takes_pure.1 done
  obtain ⟨rfl, rfl⟩ := Prod.mk.inj same
  obtain rfl := Option.some.inj answered
  rwa [List.append_nil]

lemma granted_of_takes_build {o : BuildOrder} {draft : Draft}
    (takes : ((e.build adapter o).run probes).Takes path (.ok draft, probes')) :
    e.Granted path adapter o draft := by
  cases found : e.endpoints[adapter]? with
  | none =>
      obtain ⟨refused, -⟩ := build_of_missing found takes
      cases refused
  | some points =>
      obtain ⟨known, ordered, -⟩ := build_of_takes found takes
      exact ⟨points, found, Endpoints.granted_of_takes_build ordered⟩

end

/-- What the errand answers to a call is vouched for by the path along which it answers. -/
lemma accounts (e : Errand) : e.conductor.Accounts e.Vouched := by
  rintro c d d' s s' path reply a takes answer adapter o draft same
  simp only [conductor, StateT.run_bind, StateT.run_monadLift, monadLift_self, bind_assoc,
    pure_bind, StateT.run_pure] at takes
  obtain ⟨⟨reply', s₁⟩, first, rest, rfl, replied, further⟩ := takes_bind.1 takes
  obtain ⟨_, _, last, rfl, -, done⟩ := takes_bind.1 further
  obtain ⟨rfl, same'⟩ := takes_pure.1 done
  obtain ⟨rfl, -⟩ := Prod.mk.inj (Prod.mk.inj same').1
  cases same
  exact (granted_of_takes_build (build_of_reply replied answer)).mono (List.subset_append_left ..)

end Command.Errand

/-! ## Plans and runs -/

namespace Planning

open Talk (Goes)

/-- Every draft of a planned task was built for it. -/
lemma built_of_goes_plan {adapters : List Adapter} {s : PlanSettings} {stoppable : Bool}
    {ts : List Turn} {made : Plan} (go : Goes (plan adapters s stoppable) ts (some made)) {t : Task}
    (mem : t ∈ made.tasks) {draft : Draft} (held : draft ∈ t.drafts) :
    ∃ adapter fee, ⟨.build adapter (s.order t.position t.action fee), .ok draft⟩ ∈
      conversation ts := by
  obtain ⟨told, climbs, -, -, talked, -, tasks, laws⟩ := climbs_of_goes_plan go
  obtain ⟨k, listed, task⟩ := exists_climb tasks mem
  have law := (laws k listed).drafted task
  -- The primary draft is that of the first variant.
  have variant : ∃ v ∈ t.variants, v.draft = draft := by
    rcases List.mem_cons.1 held with rfl | held
    · exact ⟨_, List.mem_of_mem_head? law.primary, rfl⟩
    · exact List.mem_map.1 held
  obtain ⟨v, mem, rfl⟩ := variant
  obtain ⟨n, found⟩ := List.mem_iff_getElem?.1 mem
  have asked := List.mem_of_getElem? (law.drafts n v found).2
  refine ⟨k.candidate.adapter, v.feeLevel, ?_⟩
  rw [talked, law.position, law.action]
  exact List.mem_append_right _ (List.mem_flatMap.2 ⟨k, listed, asked⟩)

end Planning

open Run in
/-- Every draft for an item on the board was built for it during the run: in planning, or since its
attempt began. -/
lemma Desk.Ran.built_of_listed {setup : Setup} {o : Options} {before after : List Turn}
    {result : Except ExitError Board} (ran : ({} : Desk).Ran setup o (before ++ after) result)
    {item : Item} (listed : item ∈ (({} : Desk).afterAll before).board.items) {draft : Draft}
    (known : draft ∈ item.task.drafts ∨ Rebuilt setup o item.task (sinceShown before) draft) :
    ∃ adapter fee, ⟨.build adapter
      ((setup.planSettings o).order item.task.position item.task.action fee), .ok draft⟩ ∈
        conversation (before ++ after) := by
  rcases known with planned | ⟨adapter, fee, x, mem⟩
  · obtain ⟨tasks, ofPlan, shows⟩ := ran.tasks_shown
    have onBoard : (({} : Desk).afterAll before).board.tasks ⊆ tasks := by
      rw [board_afterAll_eq]
      exact Board.afterAll_of_shows (shows_append.1 shows).1 (List.nil_subset _)
    obtain ⟨plan, ⟨x, ps, rest, begins, made⟩, mem⟩ :=
      ofPlan _ (onBoard (List.mem_map_of_mem listed))
    obtain ⟨adapter, fee, built⟩ := Planning.built_of_goes_plan made mem planned
    refine ⟨adapter, fee, ?_⟩
    rw [begins, ← List.singleton_append, conversation_append, conversation_append]
    exact List.mem_append_right _ (List.mem_append_left _ built)
  · have turn := (List.rtakeWhile_suffix _ _).subset mem
    exact ⟨adapter, fee, List.mem_filterMap.2 ⟨_, List.mem_append_left _ turn, rfl⟩⟩

namespace Command.Errand

variable {e : Errand} {o : Options} {path : ShellPath}

lemma Vouched.mono {path' : ShellPath} {x : Exchange} (sub : path ⊆ path')
    (vouched : e.Vouched path x) : e.Vouched path' x :=
  fun adapter o draft same => (vouched adapter o draft same).mono sub

lemma goes_of_goes_plan {setup : Setup} {ts : List Turn} {plan : Plan}
    (go : Talk.Goes (setup.plan o) ts (.ok plan)) :
    Talk.Goes (Planning.plan setup.adapters (setup.planSettings o) false) ts (some plan) := by
  unfold Setup.plan at go
  split at go
  · obtain ⟨-, same⟩ := Talk.goes_pure.1 go
    cases same
  · obtain ⟨made, us, vs, rfl, going, done⟩ := Talk.goes_bind.1 go
    cases made with
    | none =>
        obtain ⟨-, same⟩ := Talk.goes_pure.1 done
        cases same
    | some made =>
        obtain ⟨rfl, same⟩ := Talk.goes_pure.1 done
        obtain rfl := Except.ok.inj same
        rwa [List.append_nil]

/-- A run that the machine carries out goes along a transcript, in which the path vouches for what
is answered. -/
lemma ran_of_takes {result : Except ExitError Board} {r : (RunOutcome × Desk) × List Probe}
    (takes : ((e.conductor.run e.setup o {}).run e.unasked).Takes path r)
    (ended : r.1.1 = .ended result) :
    ∃ turns, ({} : Desk).Ran e.setup o turns result ∧
      ∀ x ∈ conversation turns, e.Vouched path x := by
  obtain ⟨⟨outcome, d⟩, probes⟩ := r
  obtain rfl : outcome = .ended result := ended
  change (((e.conductor.run e.setup o).run {}).run e.unasked).Takes path _ at takes
  rw [Conductor.run, StateT.run_bind, StateT.run_get, pure_bind] at takes
  cases accepted : ({} : Desk).accept o with
  | error failure =>
      simp only [accepted] at takes
      obtain ⟨-, same⟩ := takes_pure.1 takes
      cases same
  | ok =>
      simp only [accepted, StateT.run_bind] at takes
      obtain ⟨⟨⟨outcome, d'⟩, probes'⟩, first, rest, rfl, conducted, done⟩ := takes_bind.1 takes
      obtain ⟨ended', ts, rfl, go, admits, -, vouched⟩ :=
        e.serves.traces e.accounts Vouched.mono (Run.whole e.setup o) conducted
      obtain ⟨rfl, same⟩ := takes_pure.1 done
      rw [List.append_nil]
      cases same
      exact ⟨ts, ⟨accepted, go, admits⟩, vouched⟩

/-- Every draft of a plan has been granted. -/
lemma granted_of_takes_plan {plan : Plan} (takes : (e.plan o).Takes path (some (.ok plan)))
    {t : Task} (mem : t ∈ plan.tasks) {draft : Draft} (held : draft ∈ t.drafts) :
    ∃ adapter fee, e.Granted path adapter
      ((e.setup.planSettings o).order t.position t.action fee) draft := by
  obtain ⟨⟨⟨outcome, d⟩, probes⟩, first, rest, rfl, conducted, done⟩ := takes_bind.1 takes
  obtain ⟨rfl, rfl⟩ := takes_pure.1 done
  rw [List.append_nil]
  obtain ⟨made, ts, same, go, -, -, vouched⟩ :=
    e.serves.traces e.accounts Vouched.mono (e.setup.plan o) conducted
  obtain rfl := Option.some.inj same
  obtain ⟨adapter, fee, built⟩ := Planning.built_of_goes_plan (goes_of_goes_plan go) mem held
  exact ⟨adapter, fee, vouched _ built _ _ _ rfl⟩

/-- A run goes along a transcript, and every draft for an item has been granted. -/
lemma granted_of_takes_run {result : Except ExitError Board}
    (takes : (e.run o).Takes path (.ended result)) :
    ∃ turns, ({} : Desk).Ran e.setup o turns result ∧ ∀ before after, turns = before ++ after →
      ∀ item ∈ (({} : Desk).afterAll before).board.items, ∀ draft,
        draft ∈ item.task.drafts ∨ Rebuilt e.setup o item.task (sinceShown before) draft →
        ∃ adapter fee, e.Granted path adapter
          ((e.setup.planSettings o).order item.task.position item.task.action fee) draft := by
  obtain ⟨⟨⟨outcome, d⟩, probes⟩, first, rest, rfl, conducted, done⟩ := takes_bind.1 takes
  obtain ⟨rfl, rfl⟩ := takes_pure.1 done
  rw [List.append_nil]
  obtain ⟨turns, ran, vouched⟩ := ran_of_takes conducted rfl
  refine ⟨turns, ran, ?_⟩
  rintro before after rfl item listed draft known
  obtain ⟨adapter, fee, built⟩ := ran.built_of_listed listed known
  exact ⟨adapter, fee, vouched _ built _ _ _ rfl⟩

/-- **Drafts are granted.**  Whatever comes back to an order, it is settled by this one reply: there
is a transaction exactly where the reply grants one, a rejection exactly where it gives a reason to
refuse, and a complaint about haste exactly where its status says so.  Everything else is a failure
too.  So on every path of the program, whatever a plan holds and whatever is built anew for an item
stands in a reply on this path that grants it, and this reply answers an order for the very position
and action. -/
theorem only_granted (e : Errand) (o : Options) :
    (∀ (points : Endpoints) (order : BuildOrder),
      (∀ path r, (points.grant order).Takes path r →
        (Text.trim points.buildUrl = "" ∧ path = [] ∧ r = .error (.notConfigured "build_url")) ∨
        ∃ reply noted,
          path = ⟨.post (Text.trim points.buildUrl) order.request points.patience, reply⟩ :: noted ∧
          posted noted = [] ∧ reply.Settles r) ∧
      (Text.trim points.buildUrl ≠ "" → ∀ reply, ∃ noted r, (points.grant order).Takes
        (⟨.post (Text.trim points.buildUrl) order.request points.patience, reply⟩ :: noted) r)) ∧
    (∀ path plan, (e.plan o).Takes path (some (.ok plan)) →
      ∀ t ∈ plan.tasks, ∀ draft ∈ t.drafts, ∃ adapter fee, e.Granted path adapter
        ((e.setup.planSettings o).order t.position t.action fee) draft) ∧
    ∀ path result, (e.run o).Takes path (.ended result) →
      ∃ turns, ({} : Desk).Ran e.setup o turns result ∧ ∀ before after, turns = before ++ after →
        ∀ item ∈ (({} : Desk).afterAll before).board.items, ∀ draft,
          draft ∈ item.task.drafts ∨ Rebuilt e.setup o item.task (sinceShown before) draft →
          ∃ adapter fee, e.Granted path adapter
            ((e.setup.planSettings o).order item.task.position item.task.action fee) draft := by
  refine ⟨fun points order => ⟨fun path r => Endpoints.settles_of_takes_grant,
    fun addressed => Endpoints.exists_takes_grant addressed order⟩, ?_, ?_⟩
  · intro path plan takes t mem draft held
    exact granted_of_takes_plan takes mem held
  · intro path result takes
    exact granted_of_takes_run takes

end Command.Errand

namespace Sample

/-- The small exit on a machine. -/
def errand : Command.Errand where
  setup := setup false
  endpoints := [⟨.feeVault, "http://discover", "http://build", none, 1000⟩]
  keypair := ⟨.zero 32, Ed25519.publicKey (.zero 32), rfl⟩
  node :=
    { url := "http://node", commitment := .confirmed, confirmTimeoutMs := 1000
      pollIntervalMs := 50 }

/-- A transaction that nobody has to sign, as a builder grants it. -/
def granting : String :=
  "\x7b\"transaction\": \"" ++ Text.Base64.encode (transaction [] 0).encode ++
    "\", \"expiryHeight\": 100\x7d"

/-- A machine on which the endpoints alone answer: one position is listed, and a transaction is
granted under a status that blames the request. -/
def machine : (s : ShellStep) → s.Answer
  | .contents _ => .absent
  | .environment _ => none
  | .currentDirectory => ""
  | .makeDirectory _ | .write .. => .ok ()
  | .print _ | .showLog .. | .log _ | .pause _ => ()
  | .http (.post url ..) =>
    if url = "http://build" then .ok (⟨400⟩, .ok granting) else .ok (⟨200⟩, .ok "[\x7b\x7d]")
  | .http step => step.unreached
  | .node .. => .unreachable ""
  | .clock => 0
  | .interrupted => false

end Sample

/-- The transaction for the small exit is granted under a status that blames the request, and it
gets into the plan. -/
theorem Command.Errand.only_granted_blamed :
    let path := ((Sample.errand.plan Sample.options).play Sample.machine).1
    ∃ plan, (Sample.errand.plan Sample.options).Takes path (some (.ok plan)) ∧
      ∃ t ∈ plan.tasks, ∃ adapter fee, Sample.errand.Granted path adapter
        ((Sample.errand.setup.planSettings Sample.options).order t.position t.action fee)
        t.primary := by
  intro path
  have takes := Flow.takes_play Sample.machine (Sample.errand.plan Sample.options)
  have made : (((Sample.errand.plan Sample.options).play Sample.machine).2.bind fun r =>
      r.toOption.map fun plan => plan.tasks.length) = some 1 := by
    decide +kernel
  obtain ⟨r, planned, made⟩ := Option.bind_eq_some_iff.1 made
  obtain ⟨plan, ok, one⟩ := Option.map_eq_some_iff.1 made
  obtain rfl : r = .ok plan := by
    cases r with
    | error e => cases ok
    | ok made => exact congrArg Except.ok (Option.some.inj ok)
  rw [planned] at takes
  obtain ⟨t, single⟩ := List.length_eq_one_iff.1 one
  have mem : t ∈ plan.tasks := by simp [single]
  exact ⟨plan, takes, t, mem,
    (only_granted Sample.errand Sample.options).2.1 path plan takes t mem t.primary
      List.mem_cons_self⟩

end PoolExit
