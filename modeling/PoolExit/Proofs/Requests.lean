import PoolExit.Command.Shell
import PoolExit.Endpoint.Backend
import Mathlib.Tactic.Common

/-!
# What is sent for an order

A path through a flow is the list of its questions with their answers.  What an order sends to a
build endpoint is read off the paths through `Endpoints.build`: whatever is known about the builder,
and whatever comes back, it is one request at most, and its address and its body are given by the
order alone (`posted_of_takes_build`).  A draft comes back only where the request was sent.
-/

namespace PoolExit

/-! ## Paths through a flow -/

namespace Flow

variable {Q : Type} {A : Q → Type} {α β : Type}

/-- A question of a flow, with its answer. -/
structure Asked (Q : Type) (A : Q → Type) where
  question : Q
  answer : A question

/-- The flow asks these questions, gets these answers and comes to the result. -/
inductive Takes : Flow Q A α → List (Asked Q A) → α → Prop
  | done (a : α) : Takes (.done a) [] a
  | ask (q : Q) {next : A q → Flow Q A α} (answer : A q) {rest : List (Asked Q A)} {a : α}
      (further : Takes (next answer) rest a) : Takes (.ask q next) (⟨q, answer⟩ :: rest) a

variable {path : List (Asked Q A)}

lemma takes_pure {a b : α} : (pure b : Flow Q A α).Takes path a ↔ path = [] ∧ b = a := by
  constructor
  · intro takes
    cases takes
    exact ⟨rfl, rfl⟩
  · rintro ⟨rfl, rfl⟩
    exact .done b

lemma takes_ask {q : Q} {next : A q → Flow Q A α} {a : α} :
    (ask q next).Takes path a ↔
      ∃ answer rest, path = ⟨q, answer⟩ :: rest ∧ (next answer).Takes rest a := by
  constructor
  · rintro (_ | ⟨_, answer, takes⟩)
    exact ⟨answer, _, rfl, takes⟩
  · rintro ⟨answer, rest, rfl, takes⟩
    exact .ask q answer takes

lemma takes_bind {p : Flow Q A α} {f : α → Flow Q A β} {b : β} :
    (p >>= f).Takes path b ↔
      ∃ a first rest, path = first ++ rest ∧ p.Takes first a ∧ (f a).Takes rest b := by
  induction p generalizing path with
  | done c =>
      constructor
      · intro takes
        exact ⟨c, [], path, rfl, .done c, takes⟩
      · rintro ⟨a, first, rest, rfl, ⟨⟩, takes⟩
        exact takes
  | ask q next ih =>
      constructor
      · rintro (_ | ⟨_, answer, takes⟩)
        obtain ⟨a, first, rest, rfl, takes, takes'⟩ := (ih answer).1 takes
        exact ⟨a, _, rest, rfl, .ask q answer takes, takes'⟩
      · rintro ⟨a, _, rest, rfl, (_ | ⟨_, answer, takes⟩), takes'⟩
        exact .ask q answer ((ih answer).2 ⟨a, _, rest, rfl, takes, takes'⟩)

lemma takes_question {q : Q} {a : A q} :
    (question q : Flow Q A (A q)).Takes path a ↔ path = [⟨q, a⟩] := by
  constructor
  · rintro (_ | ⟨_, answer, ⟨⟩⟩)
    rfl
  · rintro rfl
    exact .ask q a (.done a)

/-- The path of a flow whose questions are always answered in one way, and its result. -/
def play (answer : (q : Q) → A q) : Flow Q A α → List (Asked Q A) × α
  | .done a => ([], a)
  | .ask q next =>
    let (path, a) := (next (answer q)).play answer
    (⟨q, answer q⟩ :: path, a)

lemma takes_play (answer : (q : Q) → A q) (p : Flow Q A α) :
    p.Takes (p.play answer).1 (p.play answer).2 := by
  induction p with
  | done a => exact .done a
  | ask q next ih => exact .ask q (answer q) (ih (answer q))

section

variable {R : Type} {B : R → Type} {answer : (q : Q) → Flow R B (A q)}

/-- These questions are answered by asking others. -/
inductive Carries (answer : (q : Q) → Flow R B (A q)) :
    List (Asked Q A) → List (Asked R B) → Prop
  | nil : Carries answer [] []
  | cons {t : Asked Q A} {first rest : List (Asked R B)} {asked : List (Asked Q A)}
      (one : (answer t.question).Takes first t.answer) (others : Carries answer asked rest) :
      Carries answer (t :: asked) (first ++ rest)

/-- A flow that is carried out by another one takes its own way, and each of its questions is
answered in turn. -/
lemma takes_perform {p : Flow Q A α} {path : List (Asked R B)} {a : α} :
    (p.perform answer).Takes path a ↔ ∃ asked, p.Takes asked a ∧ Carries answer asked path := by
  induction p generalizing path with
  | done b =>
      constructor
      · intro takes
        obtain ⟨rfl, rfl⟩ := takes_pure.1 takes
        exact ⟨[], .done _, .nil⟩
      · rintro ⟨_, ⟨⟩, ⟨⟩⟩
        exact .done a
  | ask q next ih =>
      constructor
      · intro takes
        obtain ⟨given, first, rest, rfl, one, takes⟩ := takes_bind.1 takes
        obtain ⟨asked, further, others⟩ := (ih given).1 takes
        exact ⟨_, .ask q given further, .cons one others⟩
      · rintro ⟨_, (_ | ⟨_, given, further⟩), (_ | ⟨one, others⟩)⟩
        exact takes_bind.2 ⟨given, _, _, rfl, one, (ih given).2 ⟨_, further, others⟩⟩

end

/-- These questions are answered one after the other by someone who keeps a state. -/
inductive Answers {σ : Type} (answer : (q : Q) → StateM σ (A q)) :
    σ → List (Asked Q A) → σ → Prop
  | nil (s : σ) : Answers answer s [] s
  | cons {s s' s'' : σ} {t : Asked Q A} {rest : List (Asked Q A)}
      (one : (answer t.question).run s = (t.answer, s')) (others : Answers answer s' rest s'') :
      Answers answer s (t :: rest) s''

/-- A flow that is carried out in a state takes its own way, and each of its questions is answered
in the state that the one before left. -/
lemma exists_answers {σ : Type} (answer : (q : Q) → StateM σ (A q)) (p : Flow Q A α) (s : σ) :
    ∃ path, p.Takes path ((p.perform answer).run s).1 ∧
      Answers answer s path ((p.perform answer).run s).2 := by
  induction p generalizing s with
  | done a => exact ⟨[], .done a, .nil s⟩
  | ask q next ih =>
      obtain ⟨rest, takes, others⟩ := ih ((answer q).run s).1 ((answer q).run s).2
      exact ⟨⟨q, _⟩ :: rest, .ask q _ takes, .cons rfl others⟩

/-- Whatever is answered, only questions of one kind are asked. -/
inductive AsksOnly (K : Q → Prop) : Flow Q A α → Prop
  | done (a : α) : AsksOnly K (.done a)
  | ask {q : Q} {next : A q → Flow Q A α} (kind : K q)
      (further : ∀ answer, AsksOnly K (next answer)) : AsksOnly K (.ask q next)

variable {K : Q → Prop}

lemma asksOnly_pure (a : α) : (pure a : Flow Q A α).AsksOnly K := .done a

lemma asksOnly_question {q : Q} (h : K q) : (question q : Flow Q A (A q)).AsksOnly K :=
  .ask h .done

lemma AsksOnly.bind {p : Flow Q A α} {f : α → Flow Q A β} (hp : p.AsksOnly K)
    (hf : ∀ a, (f a).AsksOnly K) : (p >>= f).AsksOnly K := by
  induction hp with
  | done a => exact hf a
  | ask kind further ih => exact .ask kind ih

lemma AsksOnly.perform {R : Type} {B : R → Type} {K' : R → Prop} {p : Flow Q A α}
    (h : p.AsksOnly K) {answer : (q : Q) → Flow R B (A q)}
    (each : ∀ q, K q → (answer q).AsksOnly K') : (p.perform answer).AsksOnly K' := by
  induction h with
  | done a => exact .done a
  | ask kind further ih => exact (each _ kind).bind ih

lemma asksOnly_true (p : Flow Q A α) : p.AsksOnly fun _ => True := by
  induction p with
  | done a => exact .done a
  | ask q next ih => exact .ask trivial ih

lemma AsksOnly.of_takes {p : Flow Q A α} (h : p.AsksOnly K) {a : α} (takes : p.Takes path a) :
    ∀ t ∈ path, K t.question := by
  induction takes with
  | done a => exact List.forall_mem_nil _
  | ask q answer taken ih =>
      cases h with
      | ask kind further => exact List.forall_mem_cons.2 ⟨kind, ih (further answer)⟩

end Flow

/-! ## What is sent -/

open PoolExit.Flow (AsksOnly asksOnly_pure asksOnly_question takes_bind takes_pure takes_question)

/-- A path through a flow of exchanges. -/
abbrev HttpPath := List (Flow.Asked HttpStep HttpStep.Answer)

/-- A path through the program's steps. -/
abbrev ShellPath := List (Flow.Asked ShellStep ShellStep.Answer)

/-- A request with a body, to an address, and how long its answer is waited for. -/
structure Posted where
  url : String
  body : Json
  timeoutMs : Nat

/-- The request with a body that a step sends, if it sends one. -/
def HttpStep.posted? : HttpStep → Option Posted
  | .post url body timeoutMs => some ⟨url, body, timeoutMs⟩
  | .get .. | .note _ => none

/-- A step that sends no request with a body. -/
def HttpStep.Unposted (s : HttpStep) : Prop := s.posted? = none

/-- The requests with a body that are sent. -/
def posted (path : HttpPath) : List Posted := path.filterMap (·.question.posted?)

variable {path : HttpPath}

lemma posted_of_asksOnly {α : Type} {p : HttpTalk α} (silent : p.AsksOnly HttpStep.Unposted)
    {a : α} (takes : p.Takes path a) : posted path = [] :=
  List.filterMap_eq_nil_iff.2 (silent.of_takes takes)

namespace HttpTalk

lemma unposted_note (n : ExchangeNotice) : (note n).AsksOnly HttpStep.Unposted :=
  asksOnly_question rfl

lemma unposted_transportError (venue : Venue) (url : String) (timeoutMs : Nat)
    (fault : TransportFault) :
    (transportError venue url timeoutMs fault).AsksOnly HttpStep.Unposted := by
  unfold transportError
  split
  · exact (unposted_note _).bind fun _ => asksOnly_pure _
  · exact (unposted_note _).bind fun _ => asksOnly_pure _

lemma unposted_probe (venue : Venue) (url : String) (timeoutMs : Nat) :
    (probe venue url timeoutMs).AsksOnly HttpStep.Unposted := by
  have asks : (Flow.question (HttpStep.get url timeoutMs) : HttpTalk HttpReply).AsksOnly
      HttpStep.Unposted := asksOnly_question rfl
  refine asks.bind fun reply => ?_
  split
  · exact (unposted_transportError ..).bind fun _ => asksOnly_pure _
  · split
    · exact asksOnly_pure _
    · exact asksOnly_pure _

/-- An exchange sends its request once. -/
lemma posted_of_takes_exchange {venue : Venue} {stage : Stage} {url : String} {timeoutMs : Nat}
    {request : Json} {r : Except EndpointError String}
    (takes : (exchange venue stage url timeoutMs request).Takes path r) :
    posted path = [⟨url, request, timeoutMs⟩] := by
  obtain ⟨reply, _, rest, rfl, asked, next⟩ := takes_bind.1 takes
  obtain rfl := takes_question.1 asked
  refine congrArg (Posted.mk url request timeoutMs :: ·) (posted_of_asksOnly ?_ next)
  split
  · exact (unposted_transportError ..).bind fun _ => asksOnly_pure _
  · exact (unposted_transportError ..).bind fun _ => asksOnly_pure _
  · split
    · exact (unposted_note _).bind fun _ => asksOnly_pure _
    · split
      · exact (unposted_note _).bind fun _ => asksOnly_pure _
      · exact asksOnly_pure _

end HttpTalk

namespace Endpoints

/-- What is sent for an order. -/
def orderRequest (e : Endpoints) (o : BuildOrder) : Posted :=
  ⟨Text.trim e.buildUrl, o.request, e.patience⟩

lemma unposted_findOut (e : Endpoints) : e.findOut.AsksOnly HttpStep.Unposted := by
  unfold findOut
  split
  · exact asksOnly_pure _
  · refine (HttpTalk.unposted_probe ..).bind fun answer => ?_
    split
    · exact (HttpTalk.unposted_note _).bind fun _ => asksOnly_pure _
    · exact (HttpTalk.unposted_note _).bind fun _ => asksOnly_pure _

/-- A transaction is asked for by one request, unless the builder has no address. -/
lemma posted_of_takes_grant {e : Endpoints} {o : BuildOrder} {r : Except EndpointError Grant}
    (takes : (e.grant o).Takes path r) :
    posted path = [e.orderRequest o] ∨ posted path = [] ∧ ∀ granted, r ≠ .ok granted := by
  obtain ⟨answer, first, rest, rfl, asked, next⟩ := takes_bind.1 takes
  have silent : posted rest = [] := by
    refine posted_of_asksOnly ?_ next
    split
    · exact asksOnly_pure _
    · exact asksOnly_pure _
  simp only [exchange] at asked
  split at asked
  next missing =>
    obtain ⟨rfl, rfl⟩ := takes_pure.1 asked
    obtain ⟨rfl, rfl⟩ := takes_pure.1 next
    exact .inr ⟨rfl, nofun⟩
  next =>
    left
    rw [posted, List.filterMap_append]
    exact congrArg₂ (· ++ ·) (HttpTalk.posted_of_takes_exchange asked) silent

/-- A draft is ordered by asking for a transaction, and comes only of a granted one. -/
lemma grant_of_takes_buildDraft {e : Endpoints} {o : BuildOrder} {r : Except VenueError Draft}
    (takes : (e.buildDraft o).Takes path r) :
    ∃ granted, (e.grant o).Takes path granted ∧
      ∀ draft, r = .ok draft ↔ ∃ grant, granted = .ok grant ∧ grant.draft = .ok draft := by
  obtain ⟨granted, first, rest, rfl, asked, next⟩ := takes_bind.1 takes
  cases granted with
  | error error =>
      obtain ⟨rfl, rfl⟩ := takes_pure.1 next
      rw [List.append_nil]
      exact ⟨_, asked, by simp⟩
  | ok grant =>
      obtain ⟨rfl, rfl⟩ := takes_pure.1 next
      rw [List.append_nil]
      exact ⟨_, asked, by simp⟩

/-- A draft is ordered by one request, unless the builder has no address. -/
lemma posted_of_takes_buildDraft {e : Endpoints} {o : BuildOrder} {r : Except VenueError Draft}
    (takes : (e.buildDraft o).Takes path r) :
    posted path = [e.orderRequest o] ∨ posted path = [] ∧ ∀ draft, r ≠ .ok draft := by
  obtain ⟨granted, asked, draft_iff⟩ := grant_of_takes_buildDraft takes
  refine (posted_of_takes_grant asked).imp_right ?_
  rintro ⟨unsent, refused⟩
  refine ⟨unsent, fun draft ordered => ?_⟩
  obtain ⟨grant, given, -⟩ := (draft_iff draft).1 ordered
  exact refused grant given

lemma posted_of_takes_proceed {e : Endpoints} {o : BuildOrder} {known : Probe}
    {r : Except VenueError Draft} (takes : (e.proceed o known).Takes path r) :
    posted path = [e.orderRequest o] ∨ posted path = [] ∧ ∀ draft, r ≠ .ok draft := by
  cases known with
  | unwell reason =>
      obtain ⟨rfl, rfl⟩ := takes_pure.1 takes
      exact .inr ⟨rfl, nofun⟩
  | well | unasked => exact posted_of_takes_buildDraft takes

/-- What an order comes to know about the builder, by what is known before. -/
def learn (e : Endpoints) : Probe → HttpTalk Probe
  | .unasked => e.findOut
  | known => return known

lemma unposted_learn (e : Endpoints) (p : Probe) : (e.learn p).AsksOnly HttpStep.Unposted := by
  cases p with
  | unasked => exact e.unposted_findOut
  | well | unwell => exact asksOnly_pure _

lemma perform_http {α : Type} (talk : HttpTalk α) :
    (OrderTalk.http talk).perform OrderQuestion.alone = StateT.lift talk := by
  induction talk with
  | done a => rfl
  | ask step next ih =>
      have asks : OrderTalk.http (.ask step next) = .ask (.http step) fun answer =>
          OrderTalk.http (next answer) := rfl
      funext p
      rw [asks, Flow.perform, funext ih]
      rfl

/-- An order that is alone keeps what it comes to know. -/
lemma run_consult (e : Endpoints) (p : Probe) :
    (e.consult.perform OrderQuestion.alone).run p = e.learn p >>= fun k => pure (k, k) := by
  unfold consult
  rw [Flow.perform_bind, Flow.perform_question, OrderQuestion.alone, StateT.run_bind,
    StateT.run_get, pure_bind]
  cases p with
  | unasked =>
      simp only [Flow.perform_bind, Flow.perform_question, perform_http, StateT.run_bind,
        StateT.run_lift, bind_assoc, pure_bind, learn]
      rfl
  | well | unwell => rfl

/-- An order that is alone refuses where there is nothing to take, and goes else by what it comes to
know about the builder. -/
lemma build_eq (e : Endpoints) (o : BuildOrder) (p : Probe) :
    e.build o p = if o.position.available o.action.kind then
      e.learn p >>= fun known => e.proceed o known >>= fun answer => pure (answer, known)
    else pure (.error (.zeroBalance o.action.kind), p) := by
  unfold build order
  cases available : o.position.available o.action.kind with
  | false => rfl
  | true =>
      simp only [Bool.not_true, Bool.false_eq_true, if_false, if_true, Flow.perform_bind,
        StateT.run_bind, run_consult, perform_http, StateT.run_lift, bind_assoc, pure_bind]

/-- **What is sent for an order.**  Whatever is known about the builder and whatever comes back, the
builder is sent one request, which the order alone gives, or no request at all; then there is no
draft. -/
theorem posted_of_takes_build {e : Endpoints} {o : BuildOrder} {probe : Probe}
    {r : Except VenueError Draft × Probe} (takes : (e.build o probe).Takes path r) :
    posted path = [e.orderRequest o] ∨ posted path = [] ∧ ∀ draft, r.1 ≠ .ok draft := by
  rw [build_eq] at takes
  split at takes
  · obtain ⟨known, first, rest, rfl, learnt, next⟩ := takes_bind.1 takes
    have asked : posted first = [] := posted_of_asksOnly (e.unposted_learn probe) learnt
    obtain ⟨answer, last, _, rfl, ordered, done⟩ := takes_bind.1 next
    obtain ⟨rfl, rfl⟩ := takes_pure.1 done
    rw [List.append_nil, posted, List.filterMap_append, ← posted, ← posted, asked, List.nil_append]
    exact posted_of_takes_proceed ordered
  · obtain ⟨rfl, rfl⟩ := takes_pure.1 takes
    exact .inr ⟨rfl, nofun⟩

end Endpoints

end PoolExit
