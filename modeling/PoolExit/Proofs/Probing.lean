import PoolExit.Proofs.Granting
import PoolExit.Proofs.SideBySide

/-!
# A builder is asked once

Orders for drafts are carried out side by side, and all of them share what is known about the
builder (`Endpoints.Served`).  In every history the builder is asked once at most, no draft is
ordered before it has said that it is well, and if it is not well, then all orders that there is
something to take for are refused for one reason (`Endpoints.AskedOnce`).  No order waits in vain.

The question goes on in phases (`Endpoints.Phase`), and what has become of a call depends on what is
known (`Endpoints.Keeps`).  Both together are kept by whatever a call does next.
-/

namespace PoolExit

/-! ## Flows that come to something -/

namespace Flow

variable {Q : Type} {A : Q → Type} {α β : Type} {K : Q → Prop} {p : Flow Q A α}

/-- Whatever is answered, only questions of one kind are asked until the flow is one of these. -/
inductive Comes (K : Q → Prop) (G : Flow Q A α → Prop) : Flow Q A α → Prop
  | here {p : Flow Q A α} (there : G p) : Comes K G p
  | ask {q : Q} {next : A q → Flow Q A α} (kind : K q)
      (further : ∀ answer, Comes K G (next answer)) : Comes K G (.ask q next)

/-- The flow has come to its end. -/
def Finished (p : Flow Q A α) : Prop := ∃ a, p = .done a

/-- Whatever is answered, only questions of one kind are asked, and this is the result. -/
def Yields (K : Q → Prop) (a : α) (p : Flow Q A α) : Prop := p.Comes K (· = .done a)

lemma Comes.mono {K' : Q → Prop} {G G' : Flow Q A α → Prop} (comes : p.Comes K G)
    (kinds : ∀ q, K q → K' q) (there : ∀ p, G p → G' p) : p.Comes K' G' := by
  induction comes with
  | here h => exact .here (there _ h)
  | ask kind further ih => exact .ask (kinds _ kind) ih

lemma Yields.bind {f : α → Flow Q A β} {a : α} {G : Flow Q A β → Prop} (first : p.Yields K a)
    (second : (f a).Comes K G) : (p >>= f).Comes K G := by
  induction first with
  | here there =>
      obtain rfl := there
      exact second
  | ask kind further ih => exact .ask kind ih

end Flow

/-- A question to the endpoints, by a step of one kind. -/
inductive OrderQuestion.Via (K : HttpStep → Prop) : OrderQuestion → Prop
  | http {step : HttpStep} (kind : K step) : Via K (.http step)

namespace OrderTalk

variable {α β : Type} {K : HttpStep → Prop} {talk : HttpTalk α}

lemma comes_http {a : α} (yields : talk.Yields K a) (f : α → OrderTalk β) :
    (OrderTalk.http talk >>= f).Comes (OrderQuestion.Via K) (· = f a) := by
  induction yields with
  | here there =>
      obtain rfl := there
      exact .here rfl
  | ask kind further ih => exact .ask (.http kind) ih

lemma finishes_http (only : talk.AsksOnly K) :
    (OrderTalk.http talk).Comes (OrderQuestion.Via K) Flow.Finished := by
  induction only with
  | done a => exact .here ⟨a, rfl⟩
  | ask kind further ih => exact .ask (.http kind) ih

end OrderTalk

namespace Talking

variable {α : Type} {K : HttpStep → Prop} {G : OrderTalk α → Prop} {t t' : Talking α}
  {x : HttpEvent}

/-- Only steps of one kind are still sent or answered, until the flow is one of these. -/
def Comes (K : HttpStep → Prop) (G : OrderTalk α → Prop) : Talking α → Prop
  | .going p => p.Comes (OrderQuestion.Via K) G
  | .awaiting step next => K step ∧ ∀ answer, (next answer).Comes (OrderQuestion.Via K) G

lemma Goes.comes (goes : t.Goes x t') (comes : t.Comes K G)
    (still : ∀ step next, ¬ G (.ask (.http step) next)) : K x.step ∧ t'.Comes K G := by
  cases goes with
  | send step next =>
      cases comes with
      | here there => exact absurd there (still step next)
      | ask kind further =>
          cases kind with
          | http kind => exact ⟨kind, kind, further⟩
  | hear step next answer => exact ⟨comes.1, comes.2 answer⟩

lemma Comes.mono {K' : HttpStep → Prop} {G' : OrderTalk α → Prop} (comes : t.Comes K G)
    (kinds : ∀ step, K step → K' step) (there : ∀ p, G p → G' p) : t.Comes K' G' := by
  have via (q : OrderQuestion) (h : q.Via K) : q.Via K' := by
    cases h with
    | http kind => exact .http (kinds _ kind)
  cases t with
  | going p => exact Flow.Comes.mono comes via there
  | awaiting step next =>
      exact ⟨kinds step comes.1, fun answer => (comes.2 answer).mono via there⟩

end Talking

/-! ## The question and its answer -/

/-- A step that only shows an event. -/
def HttpStep.Aside (s : HttpStep) : Prop := ∃ n, s = .note n

/-- A step that does not ask whether a builder is well. -/
def HttpStep.Unasking (s : HttpStep) : Prop := ∀ url timeoutMs, s ≠ .get url timeoutMs

open PoolExit.Flow (Finished Yields asksOnly_pure asksOnly_question)

namespace HttpTalk

/-- The failure that a fault on the way is turned into. -/
def failure (url : String) (timeoutMs : Nat) (fault : TransportFault) : EndpointError :=
  if fault.timedOut then .timeout url timeoutMs fault.causes else .transport fault.causes

lemma yields_note (n : ExchangeNotice) : (note n).Yields HttpStep.Aside () :=
  .ask ⟨n, rfl⟩ fun _ => .here rfl

lemma yields_transportError (venue : Venue) (url : String) (timeoutMs : Nat)
    (fault : TransportFault) :
    (transportError venue url timeoutMs fault).Yields HttpStep.Aside
      (failure url timeoutMs fault) := by
  unfold transportError failure
  split
  · exact (yields_note _).bind (.here rfl)
  · exact (yields_note _).bind (.here rfl)

lemma unasking_transportError (venue : Venue) (url : String) (timeoutMs : Nat)
    (fault : TransportFault) :
    (transportError venue url timeoutMs fault).AsksOnly HttpStep.Unasking := by
  unfold transportError
  split
  · exact (asksOnly_question nofun).bind fun _ => asksOnly_pure _
  · exact (asksOnly_question nofun).bind fun _ => asksOnly_pure _

lemma unasking_exchange (venue : Venue) (stage : Stage) (url : String) (timeoutMs : Nat)
    (request : Json) : (exchange venue stage url timeoutMs request).AsksOnly HttpStep.Unasking := by
  have asks : (Flow.question (HttpStep.post url request timeoutMs) : HttpTalk HttpReply).AsksOnly
      HttpStep.Unasking := asksOnly_question nofun
  refine asks.bind fun reply => ?_
  split
  · exact (unasking_transportError ..).bind fun _ => asksOnly_pure _
  · exact (unasking_transportError ..).bind fun _ => asksOnly_pure _
  · split
    · exact (asksOnly_question nofun).bind fun _ => asksOnly_pure _
    · split
      · exact (asksOnly_question nofun).bind fun _ => asksOnly_pure _
      · exact asksOnly_pure _

/-- What an answer says to the question whether the builder is well. -/
def verdict (url : String) (timeoutMs : Nat) : HttpReply → Except EndpointError Unit
  | .error fault => .error (failure url timeoutMs fault)
  | .ok (status, body) =>
    if status.isSuccess then .ok ()
    else .error (.badStatus url status (bodySummary (body.toOption.getD "")))

lemma probe_eq (venue : Venue) (url : String) (timeoutMs : Nat) :
    ∃ next : HttpReply → HttpTalk (Except EndpointError Unit),
      probe venue url timeoutMs = .ask (.get url timeoutMs) next ∧
        ∀ reply, (next reply).Yields HttpStep.Aside (verdict url timeoutMs reply) := by
  refine ⟨_, rfl, fun reply => ?_⟩
  rcases reply with fault | ⟨status, body⟩
  · simp only [verdict, Flow.done_bind]
    exact (yields_transportError venue url timeoutMs fault).bind (.here rfl)
  · simp only [verdict, Flow.done_bind]
    split
    · exact .here rfl
    · exact .here rfl

end HttpTalk

namespace Endpoints

/-- What is known about the builder after the answer. -/
def finding (e : Endpoints) (url : String) (reply : HttpReply) : Probe :=
  match HttpTalk.verdict url e.patience reply with
  | .ok () => .well
  | .error error => .unwell error.describe

variable {e : Endpoints} {o : BuildOrder} {url : String}

lemma findOut_unset (unset : e.health? = none) : e.findOut = .done .well := by
  unfold findOut
  rw [unset]
  rfl

lemma findOut_set (set : e.health? = some url) :
    ∃ next : HttpReply → HttpTalk Probe, e.findOut = .ask (.get url e.patience) next ∧
      ∀ reply, (next reply).Yields HttpStep.Aside (e.finding url reply) := by
  obtain ⟨next, probe, yields⟩ := HttpTalk.probe_eq e.venue url e.patience
  unfold findOut
  rw [set]
  simp only [probe]
  refine ⟨_, rfl, fun reply => (yields reply).bind ?_⟩
  unfold finding
  cases HttpTalk.verdict url e.patience reply with
  | ok => exact (HttpTalk.yields_note _).bind (.here rfl)
  | error error => exact (HttpTalk.yields_note _).bind (.here rfl)

lemma finding_ne_unasked (reply : HttpReply) : e.finding url reply ≠ .unasked := by
  unfold finding
  split <;> exact nofun

lemma finding_eq_well {reply : HttpReply} (well : e.finding url reply = .well) :
    HttpTalk.verdict url e.patience reply = .ok () := by
  unfold finding at well
  split at well
  next ok => exact ok
  next => cases well

/-- The endpoint that tells whether the builder is well is set by an address that is not blank. -/
lemma health?_eq_some :
    e.health? = some url ↔ ∃ set ∈ e.healthUrl, Text.blank set = false ∧ Text.trim set = url := by
  unfold health?
  cases e.healthUrl with
  | none => simp
  | some set => simp [Option.filter_some, Text.isEmpty_trim]

/-! ## Orders -/

/-- Why an order is refused without being sent, by what is known about the builder. -/
def refusal? (e : Endpoints) (p : Probe) (o : BuildOrder) : Option VenueError :=
  if o.position.available o.action.kind then
    match p with
    | .unwell reason => some (.builderUnavailable e.venue reason)
    | .well | .unasked => none
  else some (.zeroBalance o.action.kind)

lemma refusal?_of_not_available (p : Probe) (empty : ¬ o.Available) :
    e.refusal? p o = some (.zeroBalance o.action.kind) := if_neg empty

lemma refusal?_unasked (available : o.Available) : e.refusal? .unasked o = none :=
  if_pos available

lemma refusal?_unwell (available : o.Available) (reason : String) :
    e.refusal? (.unwell reason) o = some (.builderUnavailable e.venue reason) := if_pos available

/-- What is refused before anything is known stays refused. -/
lemma refusal?_of_unasked {error : VenueError} (refused : e.refusal? .unasked o = some error)
    (p : Probe) : e.refusal? p o = some error := by
  unfold refusal? at refused
  split at refused
  next => cases refused
  next empty => rw [refusal?_of_not_available p empty, refused]

lemma unasking_exchange (e : Endpoints) (stage : Stage) (setting url : String) (request : Json) :
    (e.exchange stage setting url request).AsksOnly HttpStep.Unasking := by
  simp only [exchange]
  split
  · exact asksOnly_pure _
  · exact HttpTalk.unasking_exchange ..

/-- An order that is sent asks nothing about the builder. -/
lemma unasking_buildDraft (e : Endpoints) (o : BuildOrder) :
    (e.buildDraft o).AsksOnly HttpStep.Unasking := by
  have granted : (e.grant o).AsksOnly HttpStep.Unasking := by
    refine (e.unasking_exchange .build "build_url" e.buildUrl o.request).bind fun answer => ?_
    split
    · exact asksOnly_pure _
    · exact asksOnly_pure _
  refine granted.bind fun answer => ?_
  split
  · exact asksOnly_pure _
  · exact asksOnly_pure _

end Endpoints

/-! ## What is sent and heard -/

/-- A question about the builder that is sent: the address and how long the answer is waited for. -/
def HttpEvent.probe? : HttpEvent → Option (String × Nat)
  | .sent (.get url timeoutMs) => some (url, timeoutMs)
  | _ => none

/-- The answer to a question about the builder. -/
def HttpEvent.answer? : HttpEvent → Option HttpReply
  | .heard (.get _ _) reply => some reply
  | _ => none

/-- The request for a draft that is sent. -/
def HttpEvent.posted? : HttpEvent → Option Posted
  | .sent q => q.posted?
  | .heard _ _ => none

/-- The questions about the builder that are sent. -/
def probesSent (events : List CallEvent) : List (String × Nat) :=
  events.filterMap (·.event.probe?)

/-- The answers to them that are heard. -/
def answersHeard (events : List CallEvent) : List HttpReply := events.filterMap (·.event.answer?)

/-- The requests for drafts that are sent. -/
def ordersSent (events : List CallEvent) : List Posted := events.filterMap (·.event.posted?)

lemma HttpEvent.untold_of_unasking {x : HttpEvent} (unasking : x.step.Unasking) :
    x.probe? = none ∧ x.answer? = none := by
  rcases x with (⟨url, t⟩ | _ | _) | ⟨(⟨url, t⟩ | _ | _), answer⟩
  · exact absurd rfl (unasking url t)
  · exact ⟨rfl, rfl⟩
  · exact ⟨rfl, rfl⟩
  · exact absurd rfl (unasking url t)
  · exact ⟨rfl, rfl⟩
  · exact ⟨rfl, rfl⟩

lemma HttpEvent.mute_of_aside {x : HttpEvent} (aside : x.step.Aside) :
    x.probe? = none ∧ x.answer? = none ∧ x.posted? = none := by
  obtain ⟨n, note⟩ := aside
  cases x with
  | sent q =>
      obtain rfl : q = .note n := note
      exact ⟨rfl, rfl, rfl⟩
  | heard q answer =>
      obtain rfl : q = .note n := note
      exact ⟨rfl, rfl, rfl⟩

/-! ## The question goes on -/

/-- A call that finds out what is to be known, if it is one. -/
def BuildCall.finder? : BuildCall → Option (BuildOrder × Talking (Except VenueError Draft))
  | ⟨o, .under true t⟩ => some (o, t)
  | _ => none

/-- The calls that find out what is to be known. -/
def finders (calls : List BuildCall) : List (BuildOrder × Talking (Except VenueError Draft)) :=
  calls.filterMap (·.finder?)

namespace Endpoints

variable {e : Endpoints}

/-- How far the question about the builder has got: which call is at it, what the cell holds, what
has been sent for it and what has been heard. -/
inductive Phase (e : Endpoints) : Option (BuildOrder × Talking (Except VenueError Draft)) → Cell →
    List (String × Nat) → List HttpReply → Prop
  | fresh : Phase e none ⟨.unasked, false⟩ [] []
  | skipping (o : BuildOrder) (unset : e.health? = none) :
      Phase e (some (o, .going (e.keeping o .well))) ⟨.unasked, true⟩ [] []
  | opening {o : BuildOrder} {url : String}
      {next : HttpReply → OrderTalk (Except VenueError Draft)} (set : e.health? = some url)
      (comes : ∀ reply, (next reply).Comes (OrderQuestion.Via HttpStep.Aside)
        (· = e.keeping o (e.finding url reply))) :
      Phase e (some (o, .going (.ask (.http (.get url e.patience)) next))) ⟨.unasked, true⟩ [] []
  | awaiting {o : BuildOrder} {url : String}
      {next : HttpReply → OrderTalk (Except VenueError Draft)} (set : e.health? = some url)
      (comes : ∀ reply, (next reply).Comes (OrderQuestion.Via HttpStep.Aside)
        (· = e.keeping o (e.finding url reply))) :
      Phase e (some (o, .awaiting (.get url e.patience) next)) ⟨.unasked, true⟩
        [(url, e.patience)] []
  | noting {o : BuildOrder} {url : String} {reply : HttpReply}
      {t : Talking (Except VenueError Draft)} (set : e.health? = some url)
      (comes : t.Comes HttpStep.Aside (· = e.keeping o (e.finding url reply))) :
      Phase e (some (o, t)) ⟨.unasked, true⟩ [(url, e.patience)] [reply]
  | presumed (unset : e.health? = none) : Phase e none ⟨.well, false⟩ [] []
  | told {url : String} (set : e.health? = some url) (reply : HttpReply) :
      Phase e none ⟨e.finding url reply, false⟩ [(url, e.patience)] [reply]

/-- What is kept is not sent. -/
lemma keeping_still {o : BuildOrder} {found : Probe} (step : HttpStep)
    (next : step.Answer → OrderTalk (Except VenueError Draft)) :
    ¬ (.ask (.http step) next : OrderTalk (Except VenueError Draft)) = e.keeping o found := nofun

namespace Phase

variable {finder : Option (BuildOrder × Talking (Except VenueError Draft))} {o : BuildOrder}
  {t t' : Talking (Except VenueError Draft)} {cell : Cell} {k : Probe}
  {next : Unit → OrderTalk (Except VenueError Draft)} {sent : List (String × Nat)}
  {heard : List HttpReply} {x : HttpEvent}

lemma begin (e : Endpoints) (o : BuildOrder) :
    Phase e (some (o, .going (e.informed o .unasked))) ⟨.unasked, true⟩ [] [] := by
  unfold informed
  cases asks : e.health? with
  | none =>
      rw [findOut_unset asks]
      exact .skipping o asks
  | some url =>
      obtain ⟨next, flow, yields⟩ := findOut_set asks
      rw [flow]
      exact .opening asks fun reply => OrderTalk.comes_http (yields reply) (e.keeping o)

/-- The question is sent once, its answer is taken in once, and nothing is ordered meanwhile. -/
lemma goes (phase : Phase e (some (o, t)) cell sent heard) (goes : t.Goes x t') :
    Phase e (some (o, t')) cell (sent ++ x.probe?.toList) (heard ++ x.answer?.toList) ∧
      x.posted? = none := by
  cases phase with
  | skipping _ unset =>
      unfold keeping at goes
      cases goes
  | opening set comes =>
      cases goes with
      | send => exact ⟨.awaiting set comes, rfl⟩
  | awaiting set comes =>
      cases goes with
      | hear _ _ reply => exact ⟨.noting set (comes reply), rfl⟩
  | noting set comes =>
      obtain ⟨aside, comes⟩ := goes.comes comes keeping_still
      obtain ⟨unprobing, unanswered, unordered⟩ := HttpEvent.mute_of_aside aside
      rw [unprobing, unanswered]
      exact ⟨.noting set comes, unordered⟩

/-- What has been found out is left in the cell, and the order goes on with it. -/
lemma fill (phase : Phase e (some (o, t)) cell sent heard)
    (keeps : t = .going (.ask (.keep k) next)) :
    k ≠ .unasked ∧ next () = OrderTalk.http (e.proceed o k) ∧
      Phase e none ⟨k, false⟩ sent heard := by
  have kept {found : Probe} (same : Flow.ask (.keep k) next = e.keeping o found) :
      k = found ∧ next () = OrderTalk.http (e.proceed o found) := by
    unfold keeping at same
    cases same
    exact ⟨rfl, rfl⟩
  cases phase with
  | skipping _ unset =>
      obtain ⟨rfl, further⟩ := kept (Talking.going.inj keeps).symm
      exact ⟨nofun, further, .presumed unset⟩
  | opening => cases keeps
  | awaiting => cases keeps
  | @noting _ url reply _ set comes =>
      obtain rfl := keeps
      cases comes with
      | here there =>
          obtain ⟨rfl, further⟩ := kept there
          exact ⟨finding_ne_unasked reply, further, .told set reply⟩
      | ask kind => cases kind

/-- The cell is taken exactly while a call finds out what is to be known. -/
lemma of_finder (phase : Phase e (some (o, t)) cell sent heard) : cell = ⟨.unasked, true⟩ := by
  cases phase <;> rfl

lemma free (phase : Phase e none cell sent heard) : cell.taken = false := by
  cases phase <;> rfl

/-- Where the cell is free and empty, nothing has been sent. -/
lemma unsent (phase : Phase e finder ⟨.unasked, false⟩ sent heard) :
    finder = none ∧ sent = [] ∧ heard = [] := by
  generalize empty : (⟨.unasked, false⟩ : Cell) = cell at phase
  cases phase with
  | fresh => exact ⟨rfl, rfl, rfl⟩
  | told set reply => exact absurd (Cell.mk.inj empty).1.symm (finding_ne_unasked reply)
  | presumed | skipping | opening | awaiting | noting => cases empty

/-- A call that finds out what is to be known comes to know it. -/
lemma comes (phase : Phase e (some (o, t)) cell sent heard) :
    t.Comes (fun _ => True) fun p => ∃ k, k ≠ .unasked ∧ p = e.keeping o k := by
  have all (step : HttpStep) (_ : step.Aside) : True := trivial
  have known {url : String} {reply : HttpReply} (p : OrderTalk (Except VenueError Draft))
      (there : p = e.keeping o (e.finding url reply)) : ∃ k, k ≠ .unasked ∧ p = e.keeping o k :=
    ⟨_, finding_ne_unasked reply, there⟩
  have via (q : OrderQuestion) (aside : q.Via HttpStep.Aside) : q.Via fun _ => True := by
    cases aside
    exact .http trivial
  cases phase with
  | skipping _ unset => exact .here ⟨.well, nofun, rfl⟩
  | opening set comes => exact .ask (.http trivial) fun reply => (comes reply).mono via known
  | awaiting set comes => exact ⟨trivial, fun reply => (comes reply).mono via known⟩
  | noting set comes => exact comes.mono all known

/-- Where the builder is known to be well, it has said so, if it can be asked at all. -/
lemma well {url : String} (phase : Phase e finder cell sent heard) (well : cell.probe = .well)
    (set : e.health? = some url) :
    ∃ reply ∈ heard, HttpTalk.verdict url e.patience reply = .ok () := by
  cases phase with
  | presumed unset =>
      rw [set] at unset
      cases unset
  | told set' reply =>
      rw [set] at set'
      obtain rfl := Option.some.inj set'
      exact ⟨reply, List.mem_singleton_self reply, finding_eq_well well⟩
  | fresh | skipping | opening | awaiting | noting => cases well

/-- Where something is known about a builder that can be asked, it has been asked. -/
lemma heard_ne_nil {url : String} (phase : Phase e finder cell sent heard)
    (known : cell.probe ≠ .unasked) (set : e.health? = some url) : heard ≠ [] := by
  cases phase with
  | presumed unset =>
      rw [set] at unset
      cases unset
  | told set' reply => exact List.cons_ne_nil _ _
  | fresh | skipping | opening | awaiting | noting => exact absurd rfl known

/-- The question goes to the endpoint that is set for it, and is answered once at most. -/
lemma sent_eq (phase : Phase e finder cell sent heard) :
    sent = [] ∧ heard = [] ∨ ∃ url, e.health? = some url ∧ sent = [(url, e.patience)] ∧
      heard.length ≤ 1 := by
  cases phase with
  | fresh | skipping | opening | presumed => exact .inl ⟨rfl, rfl⟩
  | awaiting set | noting set | told set => exact .inr ⟨_, set, rfl, by simp⟩

/-- Once the builder has said that it is not well, this is all that is ever known of it. -/
lemma unwell {url : String} {reply : HttpReply} {error : EndpointError}
    (phase : Phase e finder cell sent heard) (set : e.health? = some url) (mem : reply ∈ heard)
    (fails : HttpTalk.verdict url e.patience reply = .error error) :
    cell.probe = .unasked ∨ cell.probe = .unwell error.describe := by
  cases phase with
  | fresh | skipping | opening | awaiting | presumed => cases mem
  | noting => exact .inl rfl
  | told set' reply' =>
      rw [set] at set'
      obtain rfl := Option.some.inj set'
      obtain rfl := List.mem_singleton.1 mem
      right
      rw [finding, fails]

end Phase

/-! ## What every history keeps -/

/-- How far a call may have got, by what is known.  It has been refused for a reason, or the builder
is well and the call asks nothing about it. -/
inductive Keeps (e : Endpoints) (p : Probe) : BuildCall → Prop
  | waiting {o : BuildOrder} (available : o.Available) :
      Keeps e p ⟨o, .under false (.going (.ask .known (e.informed o)))⟩
  | finding {o : BuildOrder} (t : Talking (Except VenueError Draft)) (available : o.Available) :
      Keeps e p ⟨o, .under true t⟩
  | refusing {o : BuildOrder} {error : VenueError} (refused : e.refusal? p o = some error) :
      Keeps e p ⟨o, .under false (.going (.done (.error error)))⟩
  | refused {o : BuildOrder} {error : VenueError} (refused : e.refusal? p o = some error) :
      Keeps e p ⟨o, .ended (.error error)⟩
  | building {o : BuildOrder} {t : Talking (Except VenueError Draft)} (available : o.Available)
      (well : p = .well) (unasking : t.Comes HttpStep.Unasking Finished) :
      Keeps e p ⟨o, .under false t⟩
  | built {o : BuildOrder} (r : Except VenueError Draft) (available : o.Available)
      (well : p = .well) : Keeps e p ⟨o, .ended r⟩
  | dropped (o : BuildOrder) : Keeps e p ⟨o, .dropped⟩

section

variable {p k : Probe} {call : BuildCall} {o : BuildOrder}

/-- What is learnt about the builder takes nothing back. -/
lemma Keeps.learn (keeps : e.Keeps .unasked call) (k : Probe) : e.Keeps k call := by
  cases keeps with
  | waiting available => exact .waiting available
  | finding t available => exact .finding t available
  | refusing refused => exact .refusing (refusal?_of_unasked refused k)
  | refused refused => exact .refused (refusal?_of_unasked refused k)
  | building available well unasking => cases well
  | built r available well => cases well
  | dropped o => exact .dropped o

lemma finished_still (step : HttpStep) (next : step.Answer → OrderTalk (Except VenueError Draft)) :
    ¬ Finished (.ask (.http step) next : OrderTalk (Except VenueError Draft)) := nofun

/-- Only an order that there is something to take for asks what is known. -/
lemma Keeps.asking {next : Probe → OrderTalk (Except VenueError Draft)}
    (keeps : e.Keeps p ⟨o, .under false (.going (.ask .known next))⟩) :
    o.Available ∧ next = e.informed o := by
  cases keeps with
  | waiting available => exact ⟨available, rfl⟩
  | building available well unasking =>
      cases unasking with
      | here there => cases there with | intro _ done => cases done
      | ask kind => cases kind

/-- A call that is placed is refused, or asks what is known. -/
lemma keeps_placed (p : Probe) (o : BuildOrder) :
    e.Keeps p ⟨o, .under false (.going (e.order o))⟩ := by
  by_cases available : o.Available
  · rw [order_of_available available]
    exact .waiting available
  · rw [order_of_not_available available]
    exact .refusing (refusal?_of_not_available p available)

/-- A call that knows what is to be known is refused, or sends its order to a builder that is
well. -/
lemma keeps_informed (available : o.Available) (known : k ≠ .unasked) :
    e.Keeps k ⟨o, .under false (.going (OrderTalk.http (e.proceed o k)))⟩ := by
  cases k with
  | unasked => exact absurd rfl known
  | unwell reason =>
      exact .refusing (refusal?_unwell available reason)
  | well =>
      exact .building available rfl (OrderTalk.finishes_http (e.unasking_buildDraft o))

end

/-- What holds in every history. -/
structure InOrder (e : Endpoints) (events : List CallEvent) (c : Counter) : Prop where
  /-- One call at most asks, and the question has been sent and answered once at most. -/
  phase : ∃ finder, finders c.calls = finder.toList ∧
    Phase e finder c.cell (probesSent events) (answersHeard events)
  calls : ∀ call ∈ c.calls, e.Keeps c.cell.probe call
  ordered : ordersSent events ≠ [] → c.cell.probe = .well
  available : ∀ x ∈ events, x.order.Available
  /-- Before an order is sent, the builder has said that it is well. -/
  led : ∀ (before : List CallEvent) (x : CallEvent) (after : List CallEvent),
    events = before ++ x :: after → x.event.posted? ≠ none → ∀ url, e.health? = some url →
      ∃ reply ∈ answersHeard before, HttpTalk.verdict url e.patience reply = .ok ()

lemma inOrder_opened (e : Endpoints) : e.InOrder [] {} where
  phase := ⟨none, rfl, .fresh⟩
  calls := List.forall_mem_nil _
  ordered := absurd rfl
  available := List.forall_mem_nil _
  led := by simp

lemma finders_append (l r : List BuildCall) : finders (l ++ r) = finders l ++ finders r :=
  List.filterMap_append

lemma finders_cons (call : BuildCall) (r : List BuildCall) :
    finders (call :: r) = call.finder?.toList ++ finders r := by
  rw [finders, List.filterMap_cons]
  cases call.finder? <;> rfl

/-- Where nobody before a call and nobody behind it finds anything out, it is this call or
nobody. -/
lemma finders_between {l r : List BuildCall} (before : finders l = []) (behind : finders r = [])
    (call : BuildCall) : finders (l ++ call :: r) = call.finder?.toList := by
  rw [finders_append, finders_cons, before, behind, List.nil_append, List.append_nil]

/-- Where one call at most finds something out, and this call does, it is this one. -/
lemma sole_finder {l r : List BuildCall} {o : BuildOrder} {t : Talking (Except VenueError Draft)}
    {finder : Option (BuildOrder × Talking (Except VenueError Draft))}
    (found : finders (l ++ ⟨o, .under true t⟩ :: r) = finder.toList) :
    finder = some (o, t) ∧ finders l = [] ∧ finders r = [] := by
  rw [finders_append, finders_cons] at found
  cases finder with
  | none => simp [BuildCall.finder?] at found
  | some b =>
      rw [Option.toList_some, List.append_eq_singleton_iff] at found
      rcases found with ⟨before, same⟩ | ⟨-, same⟩
      · obtain ⟨rfl, behind⟩ := List.cons.inj same
        exact ⟨rfl, before, behind⟩
      · cases same

/-- A call that does not find anything out leaves open who does. -/
lemma finders_replaced {l r : List BuildCall} {call call' : BuildCall}
    (same : call'.finder? = call.finder?) :
    finders (l ++ call' :: r) = finders (l ++ call :: r) := by
  simp only [finders_append, finders_cons, same]

lemma filterMap_concat {α β : Type} (f : α → Option β) (l : List α) (a : α) :
    (l ++ [a]).filterMap f = l.filterMap f ++ (f a).toList := by
  rw [List.filterMap_append, List.filterMap_cons]
  cases f a <;> rfl

namespace InOrder

variable {events : List CallEvent} {c : Counter} {cell cell' : Cell} {l r : List BuildCall}
  {o : BuildOrder} {s s' : Standing} {x : HttpEvent}

lemma keeps (inOrder : e.InOrder events ⟨cell, l ++ ⟨o, s⟩ :: r⟩) : e.Keeps cell.probe ⟨o, s⟩ :=
  inOrder.calls _ (List.mem_append_right l List.mem_cons_self)

lemma replaced (inOrder : e.InOrder events ⟨cell, l ++ ⟨o, s⟩ :: r⟩)
    (keeps : e.Keeps cell.probe ⟨o, s'⟩) : ∀ call ∈ l ++ ⟨o, s'⟩ :: r, e.Keeps cell.probe call := by
  have all := inOrder.calls
  rw [List.forall_mem_append, List.forall_mem_cons] at all ⊢
  exact ⟨all.1, keeps, all.2.2⟩

/-- A step that says nothing and leaves alone who finds out and what is known. -/
lemma silent (inOrder : e.InOrder events ⟨cell, l ++ ⟨o, s⟩ :: r⟩)
    (same : BuildCall.finder? ⟨o, s'⟩ = BuildCall.finder? ⟨o, s⟩)
    (keeps : e.Keeps cell.probe ⟨o, s'⟩) : e.InOrder events ⟨cell, l ++ ⟨o, s'⟩ :: r⟩ := by
  obtain ⟨finder, found, phase⟩ := inOrder.phase
  exact ⟨⟨finder, (finders_replaced same).trans found, phase⟩, inOrder.replaced keeps,
    inOrder.ordered, inOrder.available, inOrder.led⟩

/-- Something is sent or heard, and the question about the builder is in a phase again. -/
lemma said {finder : Option (BuildOrder × Talking (Except VenueError Draft))}
    (inOrder : e.InOrder events ⟨cell, l ++ ⟨o, s⟩ :: r⟩) (available : o.Available)
    (found : finders (l ++ ⟨o, s'⟩ :: r) = finder.toList)
    (phase : Phase e finder cell (probesSent events ++ x.probe?.toList)
      (answersHeard events ++ x.answer?.toList))
    (keeps : e.Keeps cell.probe ⟨o, s'⟩) (ordering : x.posted? ≠ none → cell.probe = .well) :
    e.InOrder (events ++ [⟨o, x⟩]) ⟨cell, l ++ ⟨o, s'⟩ :: r⟩ := by
  refine ⟨⟨finder, found, ?_⟩, inOrder.replaced keeps, fun sent => ?_, ?_, ?_⟩
  · rwa [probesSent, answersHeard, filterMap_concat, filterMap_concat]
  · rw [ordersSent, filterMap_concat] at sent
    by_cases unordered : x.posted? = none
    · rw [unordered, Option.toList_none, List.append_nil] at sent
      exact inOrder.ordered sent
    · exact ordering unordered
  · exact List.forall_mem_append.2 ⟨inOrder.available, List.forall_mem_singleton.2 available⟩
  · intro before y after split posted url set
    rcases List.eq_nil_or_concat after with rfl | ⟨after, z, rfl⟩
    · obtain ⟨rfl, same⟩ := List.append_inj' split rfl
      obtain rfl := List.singleton_inj.1 same
      obtain ⟨_, -, phase⟩ := inOrder.phase
      exact phase.well (ordering posted) set
    · rw [List.concat_eq_append, ← List.cons_append, ← List.append_assoc] at split
      obtain ⟨rfl, -⟩ := List.append_inj' split rfl
      exact inOrder.led before y after rfl posted url set

/-- Whatever a call does next, it does in order. -/
lemma advance (inOrder : e.InOrder events ⟨cell, l ++ ⟨o, s⟩ :: r⟩) {said : List HttpEvent}
    (advances : Advances cell s said cell' s') :
    e.InOrder (events ++ said.map (CallEvent.mk o)) ⟨cell', l ++ ⟨o, s'⟩ :: r⟩ := by
  obtain ⟨finder, found, phase⟩ := inOrder.phase
  have keeps := inOrder.keeps
  cases advances with
  | take =>
      obtain ⟨available, rfl⟩ := keeps.asking
      obtain ⟨rfl, unsent, unheard⟩ := phase.unsent
      rw [finders_append, finders_cons, Option.toList_none, List.append_eq_nil_iff,
        List.append_eq_nil_iff] at found
      obtain ⟨before, -, behind⟩ := found
      rw [List.map_nil, List.append_nil]
      refine ⟨⟨some (o, .going (e.informed o .unasked)), finders_between before behind _, ?_⟩,
        inOrder.replaced (.finding _ available), inOrder.ordered, inOrder.available, inOrder.led⟩
      rw [unsent, unheard]
      exact Phase.begin e o
  | read known =>
      obtain ⟨available, rfl⟩ := keeps.asking
      rw [List.map_nil, List.append_nil, informed_of_known known]
      exact inOrder.silent rfl (keeps_informed available known)
  | @fill k next =>
      obtain ⟨rfl, before, behind⟩ := sole_finder found
      obtain ⟨known, further, filled⟩ := phase.fill rfl
      cases keeps with
      | finding _ available =>
          rw [List.map_nil, List.append_nil, further]
          refine ⟨⟨none, finders_between before behind _, filled⟩, ?_, fun ordered => ?_,
            inOrder.available, inOrder.led⟩
          · have all := inOrder.calls
            rw [List.forall_mem_append, List.forall_mem_cons] at all ⊢
            exact ⟨fun call mem => (all.1 call mem).learn k, keeps_informed available known,
              fun call mem => (all.2.2 call mem).learn k⟩
          · cases inOrder.ordered ordered
  | @goes _ finding t t' x goes =>
      cases finding with
      | true =>
          obtain ⟨rfl, before, behind⟩ := sole_finder found
          obtain ⟨phase, unordered⟩ := phase.goes goes
          cases keeps with
          | finding _ available =>
              exact inOrder.said available (finders_between before behind _) phase
                (.finding t' available) fun ordered => absurd unordered ordered
      | false =>
          cases keeps with
          | waiting => cases goes
          | refusing => cases goes
          | building available well unasking =>
              obtain ⟨about, unasking⟩ := goes.comes unasking finished_still
              obtain ⟨unprobing, unanswered⟩ := HttpEvent.untold_of_unasking about
              have others : finders (l ++ ⟨o, .under false t'⟩ :: r) = finder.toList := by
                rw [← found]
                exact finders_replaced rfl
              refine inOrder.said available others ?_ (.building available well unasking)
                fun _ => well
              rwa [unprobing, unanswered, Option.toList_none, Option.toList_none, List.append_nil,
                List.append_nil]
  | @finish _ answer =>
      rw [List.map_nil, List.append_nil]
      refine inOrder.silent rfl ?_
      cases keeps with
      | refusing refused => exact .refused refused
      | building available well unasking => exact .built answer available well
  | drop =>
      rw [List.map_nil, List.append_nil]
      exact inOrder.silent rfl (.dropped o)

lemma moves {said : List CallEvent} {c' : Counter} (inOrder : e.InOrder events c)
    (moves : e.Moves c said c') : e.InOrder (events ++ said) c' := by
  cases moves with
  | @place cell calls o =>
      rw [List.append_nil]
      obtain ⟨finder, found, phase⟩ := inOrder.phase
      refine ⟨⟨finder, ?_, phase⟩, ?_, inOrder.ordered, inOrder.available, inOrder.led⟩
      · rw [finders_append, found]
        exact List.append_nil _
      · exact List.forall_mem_append.2
          ⟨inOrder.calls, List.forall_mem_singleton.2 (keeps_placed cell.probe o)⟩
  | call advances => exact inOrder.advance advances

end InOrder

lemma Leads.inOrder {events more : List CallEvent} {c c' : Counter}
    (inOrder : e.InOrder events c) (leads : e.Leads c more c') : e.InOrder (events ++ more) c' := by
  induction leads with
  | refl => rwa [List.append_nil]
  | step leads moves ih =>
      rw [← List.append_assoc]
      exact ih.moves moves

/-! ## Nobody waits in vain -/

section

variable {cell : Cell} {l r : List BuildCall} {o : BuildOrder} {events : List CallEvent}
  {c : Counter}

/-- Answers bring a flow to what it comes to. -/
lemma exists_leads_of_flow {K : HttpStep → Prop} {G : OrderTalk (Except VenueError Draft) → Prop}
    {p : OrderTalk (Except VenueError Draft)} (comes : p.Comes (OrderQuestion.Via K) G)
    (cell : Cell) (finding : Bool) (l r : List BuildCall) (o : BuildOrder) :
    ∃ said p', G p' ∧ e.Leads ⟨cell, l ++ ⟨o, .under finding (.going p)⟩ :: r⟩ said
      ⟨cell, l ++ ⟨o, .under finding (.going p')⟩ :: r⟩ := by
  induction comes with
  | here there => exact ⟨[], _, there, .refl _⟩
  | @ask q next kind further ih =>
      cases kind with
      | @http step kind =>
          obtain ⟨said, p', there, leads⟩ := ih step.unreached
          have sent := leads_of_goes (e := e) (.send step next) cell finding l r o
          have heard := leads_of_goes (e := e) (.hear step next step.unreached) cell finding l r o
          exact ⟨_, p', there, (sent.trans heard).trans leads⟩

lemma exists_leads {K : HttpStep → Prop} {G : OrderTalk (Except VenueError Draft) → Prop}
    {t : Talking (Except VenueError Draft)} (comes : t.Comes K G) (cell : Cell) (finding : Bool)
    (l r : List BuildCall) (o : BuildOrder) :
    ∃ said p, G p ∧ e.Leads ⟨cell, l ++ ⟨o, .under finding t⟩ :: r⟩ said
      ⟨cell, l ++ ⟨o, .under finding (.going p)⟩ :: r⟩ := by
  cases t with
  | going p => exact exists_leads_of_flow comes cell finding l r o
  | awaiting step next =>
      obtain ⟨said, p, there, leads⟩ :=
        exists_leads_of_flow (e := e) (comes.2 step.unreached) cell finding l r o
      have heard := leads_of_goes (e := e) (.hear step next step.unreached) cell finding l r o
      exact ⟨_, p, there, heard.trans leads⟩

/-- A call that knows what is to be known can be brought to its end. -/
lemma exists_ended_of_informed (cell : Cell) (l r : List BuildCall) (o : BuildOrder) (k : Probe) :
    ∃ said result,
      e.Leads ⟨cell, l ++ ⟨o, .under false (.going (OrderTalk.http (e.proceed o k)))⟩ :: r⟩ said
        ⟨cell, l ++ ⟨o, .ended result⟩ :: r⟩ :=
  ⟨_, _, leads_ended cell l r (Flow.takes_play HttpStep.unreached (e.proceed o k))⟩

/-- A call that waits for what the cell tells can be brought to its end once it tells something. -/
lemma exists_ended_of_told {k : Probe} (known : k ≠ .unasked) (l r : List BuildCall)
    (o : BuildOrder) :
    ∃ said result,
      e.Leads ⟨⟨k, false⟩, l ++ ⟨o, .under false (.going (.ask .known (e.informed o)))⟩ :: r⟩ said
        ⟨⟨k, false⟩, l ++ ⟨o, .ended result⟩ :: r⟩ := by
  obtain ⟨said, result, ends⟩ := exists_ended_of_informed (e := e) ⟨k, false⟩ l r o k
  exact ⟨_, result, (leads_told l r e o known).trans ends⟩

/-- A call that finds out what is to be known comes to know it, and leaves it in the cell. -/
lemma exists_known {t : Talking (Except VenueError Draft)}
    (inOrder : e.InOrder events ⟨cell, l ++ ⟨o, .under true t⟩ :: r⟩) :
    ∃ said k, k ≠ .unasked ∧ e.Leads ⟨cell, l ++ ⟨o, .under true t⟩ :: r⟩ said
      ⟨⟨k, false⟩, l ++ ⟨o, .under false (.going (OrderTalk.http (e.proceed o k)))⟩ :: r⟩ := by
  obtain ⟨finder, found, phase⟩ := inOrder.phase
  obtain ⟨rfl, -, -⟩ := sole_finder found
  obtain rfl : cell = ⟨.unasked, true⟩ := phase.of_finder
  obtain ⟨said, p, ⟨k, known, rfl⟩, leads⟩ :=
    exists_leads (e := e) phase.comes ⟨.unasked, true⟩ true l r o
  exact ⟨_, k, known, leads.trans (leads_of_advances .fill l r o)⟩

lemma exists_finder {calls : List BuildCall} {t : Talking (Except VenueError Draft)}
    (found : finders calls = (some (o, t)).toList) :
    ∃ l r, calls = l ++ ⟨o, .under true t⟩ :: r := by
  have mem : (o, t) ∈ finders calls := found ▸ List.mem_singleton_self (o, t)
  obtain ⟨⟨o', s⟩, listed, finds⟩ := List.mem_filterMap.1 mem
  obtain ⟨rfl, rfl⟩ : o' = o ∧ s = .under true t := by
    cases s with
    | under finding t' =>
        cases finding with
        | true =>
            obtain ⟨rfl, rfl⟩ := Prod.mk.inj (Option.some.inj finds)
            exact ⟨rfl, rfl⟩
        | false => cases finds
    | ended | dropped => cases finds
  obtain ⟨l, r, split⟩ := List.append_of_mem listed
  exact ⟨l, r, split⟩

lemma getElem?_replaced {α : Type} {l r : List α} {a b : α} {n : Nat}
    (found : (l ++ a :: r)[n]? = some b) (other : b ≠ a) (c : α) : (l ++ c :: r)[n]? = some b := by
  rw [List.getElem?_append] at found ⊢
  split at found
  next before => rwa [if_pos before]
  next behind =>
    rw [if_neg behind]
    cases gap : n - l.length with
    | zero =>
        rw [gap] at found
        exact absurd (Option.some.inj found).symm other
    | succ m => rwa [gap, List.getElem?_cons_succ] at found

lemma exists_split {α : Type} {l : List α} {a : α} {n : Nat} (found : l[n]? = some a) :
    ∃ before after, l = before ++ a :: after ∧ before.length = n := by
  obtain ⟨bound, rfl⟩ := List.getElem?_eq_some_iff.1 found
  refine ⟨l.take n, l.drop (n + 1), ?_, List.length_take_of_le bound.le⟩
  rw [← List.drop_eq_getElem_cons bound, List.take_append_drop]

/-- Every call that is still wanted can be brought to its end. -/
lemma InOrder.exists_ended (inOrder : e.InOrder events c) {n : Nat} {call : BuildCall}
    (found : c.calls[n]? = some call) (wanted : call.standing ≠ .dropped) :
    ∃ said c' result, e.Leads c said c' ∧ c'.calls[n]? = some ⟨call.order, .ended result⟩ := by
  obtain ⟨cell, calls⟩ := c
  obtain ⟨o, s⟩ := call
  obtain ⟨l, r, rfl, rfl⟩ := exists_split found
  have here : ∀ call : BuildCall, (l ++ call :: r)[l.length]? = some call := by simp
  have keeps : e.Keeps cell.probe ⟨o, s⟩ := inOrder.keeps
  -- Who finds out what is to be known goes on with it.
  have finds {events : List CallEvent} {cell : Cell} {t : Talking (Except VenueError Draft)}
      (inOrder : e.InOrder events ⟨cell, l ++ ⟨o, .under true t⟩ :: r⟩) :
      ∃ said c' result, e.Leads ⟨cell, l ++ ⟨o, .under true t⟩ :: r⟩ said c' ∧
        c'.calls[l.length]? = some ⟨o, .ended result⟩ := by
    obtain ⟨said, k, known, leads⟩ := exists_known inOrder
    obtain ⟨more, result, ends⟩ := exists_ended_of_informed (e := e) ⟨k, false⟩ l r o k
    exact ⟨_, _, result, leads.trans ends, here _⟩
  cases keeps with
  | dropped => exact absurd rfl wanted
  | @refused _ error => exact ⟨[], _, .error error, .refl _, here _⟩
  | built result => exact ⟨[], _, result, .refl _, here _⟩
  | finding t => exact finds inOrder
  | @refusing _ error =>
      exact ⟨_, _, .error error, leads_of_advances .finish l r o, here _⟩
  | building available well unasking =>
      obtain ⟨said, _, ⟨result, rfl⟩, leads⟩ := exists_leads (e := e) unasking cell false l r o
      exact ⟨_, _, result, leads.trans (leads_of_advances .finish l r o), here _⟩
  | waiting available =>
      obtain ⟨finder, asking, phase⟩ := inOrder.phase
      cases finder with
      | none =>
          obtain ⟨k, taken⟩ := cell
          obtain rfl : taken = false := phase.free
          by_cases known : k = .unasked
          · obtain rfl := known
            have takes := leads_taken l r e o
            obtain ⟨said, c', result, leads, ends⟩ := finds (takes.inOrder inOrder)
            exact ⟨_, c', result, takes.trans leads, ends⟩
          · obtain ⟨said, result, ends⟩ := exists_ended_of_told (e := e) known l r o
            exact ⟨_, _, result, ends, here _⟩
      | some finder =>
          -- Another call finds it out, and this one goes by what that one leaves in the cell.
          obtain ⟨o', t⟩ := finder
          obtain ⟨l', r', split⟩ : ∃ l' r',
              l ++ ⟨o, .under false (.going (.ask .known (e.informed o)))⟩ :: r =
                l' ++ ⟨o', .under true t⟩ :: r' := exists_finder asking
          have found := here ⟨o, .under false (.going (.ask .known (e.informed o)))⟩
          rw [split] at inOrder found ⊢
          obtain ⟨said, k, known, leads⟩ := exists_known inOrder
          have still := getElem?_replaced found (by simp)
            ⟨o', .under false (.going (OrderTalk.http (e.proceed o' k)))⟩
          obtain ⟨l'', r'', split', place⟩ := exists_split still
          rw [split'] at leads
          obtain ⟨more, result, ends⟩ := exists_ended_of_told (e := e) known l'' r'' o
          refine ⟨_, _, result, leads.trans ends, ?_⟩
          rw [← place]
          simp

end

/-! ## A builder is asked once -/

/-- What is sent and heard for all orders of a venue, and what has become of them. -/
structure AskedOnce (e : Endpoints) (events : List CallEvent) (calls : List BuildCall) : Prop where
  /-- The builder is asked once at most, and answers once at most. -/
  once : (probesSent events).length ≤ 1 ∧ (answersHeard events).length ≤ 1
  /-- It is asked only at an address that is set and not blank. -/
  addressed : ∀ request ∈ probesSent events, ∃ set ∈ e.healthUrl, Text.blank set = false ∧
    request = (Text.trim set, e.patience)
  /-- Where there is such an address, no draft is ordered before the builder has said there that it
  is well. -/
  led : ∀ set ∈ e.healthUrl, Text.blank set = false →
    ∀ (before : List CallEvent) (x : CallEvent) (after : List CallEvent),
      events = before ++ x :: after → x.event.posted? ≠ none →
        ∃ reply ∈ answersHeard before, HttpTalk.verdict (Text.trim set) e.patience reply = .ok ()
  /-- An order that there is something to take for does not end before the builder has answered. -/
  answered : ∀ set ∈ e.healthUrl, Text.blank set = false → ∀ call ∈ calls, call.order.Available →
    ∀ result, call.standing = .ended result → answersHeard events ≠ []
  /-- If the builder does not say that it is well, no draft is ever ordered, and all orders that
  there is something to take for are refused for this one reason. -/
  unwell : ∀ set ∈ e.healthUrl, Text.blank set = false → ∀ reply ∈ answersHeard events, ∀ error,
    HttpTalk.verdict (Text.trim set) e.patience reply = .error error →
      ordersSent events = [] ∧ ∀ call ∈ calls, call.order.Available →
        ∀ result, call.standing = .ended result →
          result = .error (.builderUnavailable e.venue error.describe)
  /-- Nothing is sent for an order that there is nothing to take for. -/
  available : ∀ x ∈ events, x.order.Available
  /-- Such an order is refused. -/
  empty : ∀ call ∈ calls, ¬ call.order.Available → ∀ result, call.standing = .ended result →
    result = .error (.zeroBalance call.order.action.kind)

namespace InOrder

variable {events : List CallEvent} {c : Counter} {call : BuildCall}
  {result : Except VenueError Draft} {reason : String}

/-- Where the builder is not well, or nothing is known, no draft was ordered. -/
lemma unordered_of_unwell (inOrder : e.InOrder events c)
    (known : c.cell.probe = .unasked ∨ c.cell.probe = .unwell reason) : ordersSent events = [] := by
  by_contra ordered
  rw [inOrder.ordered ordered] at known
  rcases known with known | known <;> cases known

/-- Then what has come to its end was refused for this reason. -/
lemma refused_of_unwell (inOrder : e.InOrder events c)
    (known : c.cell.probe = .unasked ∨ c.cell.probe = .unwell reason) (mem : call ∈ c.calls)
    (available : call.order.Available) (ended : call.standing = .ended result) :
    result = .error (.builderUnavailable e.venue reason) := by
  obtain ⟨o, _⟩ := call
  obtain rfl : _ = Standing.ended result := ended
  cases inOrder.calls _ mem with
  | refused refused =>
      rcases known with known | known
      · rw [known, refusal?_unasked available] at refused
        cases refused
      · rw [known, refusal?_unwell available] at refused
        rw [Option.some.inj refused]
  | built _ _ well =>
      rw [well] at known
      rcases known with known | known <;> cases known

/-- Where there is nothing to take, this is why the order was refused. -/
lemma refused_of_empty (inOrder : e.InOrder events c) (mem : call ∈ c.calls)
    (empty : ¬ call.order.Available) (ended : call.standing = .ended result) :
    result = .error (.zeroBalance call.order.action.kind) := by
  obtain ⟨o, _⟩ := call
  obtain rfl : _ = Standing.ended result := ended
  cases inOrder.calls _ mem with
  | refused refused =>
      rw [refusal?_of_not_available _ empty] at refused
      rw [Option.some.inj refused]
  | built _ available _ => exact absurd available empty

/-- Where an order that there is something to take for has ended, something is known. -/
lemma known_of_ended (inOrder : e.InOrder events c) (mem : call ∈ c.calls)
    (available : call.order.Available) (ended : call.standing = .ended result) :
    c.cell.probe ≠ .unasked := by
  intro unasked
  obtain ⟨o, _⟩ := call
  obtain rfl : _ = Standing.ended result := ended
  have keeps := inOrder.calls _ mem
  rw [unasked] at keeps
  cases keeps with
  | refused refused =>
      rw [refusal?_unasked available] at refused
      cases refused
  | built _ _ well => cases well

lemma askedOnce (inOrder : e.InOrder events c) : e.AskedOnce events c.calls := by
  obtain ⟨finder, -, phase⟩ := inOrder.phase
  have asks {set : String} (given : set ∈ e.healthUrl) (addressed : Text.blank set = false) :
      e.health? = some (Text.trim set) := health?_eq_some.2 ⟨set, given, addressed, rfl⟩
  constructor
  · rcases phase.sent_eq with ⟨unsent, unheard⟩ | ⟨url, -, one, heard⟩
    · simp [unsent, unheard]
    · exact ⟨by simp [one], heard⟩
  · intro request mem
    rcases phase.sent_eq with ⟨unsent, -⟩ | ⟨url, set, one, -⟩
    · simp [unsent] at mem
    · obtain ⟨address, given, addressed, rfl⟩ := health?_eq_some.1 set
      rw [one, List.mem_singleton] at mem
      exact ⟨address, given, addressed, mem⟩
  · intro set given addressed before x after split posted
    exact inOrder.led before x after split posted _ (asks given addressed)
  · intro set given addressed call mem available result ended
    exact phase.heard_ne_nil (inOrder.known_of_ended mem available ended) (asks given addressed)
  · intro set given addressed reply heard error fails
    have known := phase.unwell (asks given addressed) heard fails
    exact ⟨inOrder.unordered_of_unwell known,
      fun call mem available result ended => inOrder.refused_of_unwell known mem available ended⟩
  · exact inOrder.available
  · exact fun call mem empty result ended => inOrder.refused_of_empty mem empty ended

end InOrder

lemma Served.inOrder {events : List CallEvent} {c : Counter} (served : e.Served events c) :
    e.InOrder events c := Leads.inOrder (inOrder_opened e) served

end Endpoints

end PoolExit
