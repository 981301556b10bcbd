import PoolExit.Proofs.Requests

/-!
# Orders side by side

Orders for drafts may be carried out side by side.  Each of them is the flow `Endpoints.order`, and
what is known about the builder is kept in one place, the `Cell`.  Like any place that is filled
once for all who wait for it, the cell is taken by the first one who finds it empty, makes the
others wait until that one has filled it, and stays as it is from then on.  `Endpoints.Served` are
the histories of such orders, in which what they send and hear comes in any order.

Nothing here says what an order does with the answer of the cell, or when it asks.  An order that
is carried out alone is such a history (`Endpoints.leads_build`).
-/

namespace PoolExit

/-! ## One order -/

/-- An order that is carried out: it goes on, or it has sent something and waits for the answer. -/
inductive Talking (α : Type) where
  | going (p : OrderTalk α)
  | awaiting (step : HttpStep) (next : step.Answer → OrderTalk α)

/-- What happens in an exchange. -/
inductive HttpEvent where
  | sent (step : HttpStep)
  | heard (step : HttpStep) (answer : step.Answer)

/-- The step that is sent or answered. -/
def HttpEvent.step : HttpEvent → HttpStep
  | .sent step => step
  | .heard step _ => step

/-- The next thing happens in an exchange. -/
inductive Talking.Goes {α : Type} : Talking α → HttpEvent → Talking α → Prop
  | send (step : HttpStep) (next : step.Answer → OrderTalk α) :
      Goes (.going (.ask (.http step) next)) (.sent step) (.awaiting step next)
  | hear (step : HttpStep) (next : step.Answer → OrderTalk α) (answer : step.Answer) :
      Goes (.awaiting step next) (.heard step answer) (.going (next answer))

/-- How far the call of an order has got. -/
inductive Standing where
  /-- It is carried out; `finding` says whether it has taken the cell, to fill it. -/
  | under (finding : Bool) (t : Talking (Except VenueError Draft))
  | ended (r : Except VenueError Draft)
  /-- Nobody wants its result any more. -/
  | dropped

/-- The place where orders keep what they know about a builder. -/
structure Cell where
  probe : Probe := .unasked
  /-- Somebody finds it out. -/
  taken : Bool := false

/-- What a call does next.  Where it asks for what is known, it takes the empty cell, or is told
what the cell holds; while the cell is taken, it can only wait.  A call that finds out what is to be
known is not dropped. -/
inductive Advances : Cell → Standing → List HttpEvent → Cell → Standing → Prop
  | take {next : Probe → OrderTalk (Except VenueError Draft)} :
      Advances ⟨.unasked, false⟩ (.under false (.going (.ask .known next))) []
        ⟨.unasked, true⟩ (.under true (.going (next .unasked)))
  | read {k : Probe} {next : Probe → OrderTalk (Except VenueError Draft)} (known : k ≠ .unasked) :
      Advances ⟨k, false⟩ (.under false (.going (.ask .known next))) []
        ⟨k, false⟩ (.under false (.going (next k)))
  | fill {k : Probe} {next : Unit → OrderTalk (Except VenueError Draft)} :
      Advances ⟨.unasked, true⟩ (.under true (.going (.ask (.keep k) next))) []
        ⟨k, false⟩ (.under false (.going (next ())))
  | goes {cell : Cell} {finding : Bool} {t t' : Talking (Except VenueError Draft)} {x : HttpEvent}
      (goes : t.Goes x t') : Advances cell (.under finding t) [x] cell (.under finding t')
  | finish {cell : Cell} {r : Except VenueError Draft} :
      Advances cell (.under false (.going (.done r))) [] cell (.ended r)
  | drop {cell : Cell} {t : Talking (Except VenueError Draft)} :
      Advances cell (.under false t) [] cell .dropped

/-! ## All orders of a venue -/

/-- A call for a draft. -/
structure BuildCall where
  order : BuildOrder
  standing : Standing

/-- What a call sends or hears. -/
structure CallEvent where
  order : BuildOrder
  event : HttpEvent

/-- The cell of a venue, and all calls for drafts. -/
structure Counter where
  cell : Cell := {}
  calls : List BuildCall := []

namespace Endpoints

/-- A call comes in, or one of those that are there does what it does next. -/
inductive Moves (e : Endpoints) : Counter → List CallEvent → Counter → Prop
  | place {cell : Cell} {calls : List BuildCall} (o : BuildOrder) :
      Moves e ⟨cell, calls⟩ [] ⟨cell, calls ++ [⟨o, .under false (.going (e.order o))⟩]⟩
  | call {cell cell' : Cell} {l r : List BuildCall} {o : BuildOrder} {s s' : Standing}
      {said : List HttpEvent} (advances : Advances cell s said cell' s') :
      Moves e ⟨cell, l ++ ⟨o, s⟩ :: r⟩ (said.map (CallEvent.mk o)) ⟨cell', l ++ ⟨o, s'⟩ :: r⟩

/-- From one state on there is this history to another. -/
inductive Leads (e : Endpoints) : Counter → List CallEvent → Counter → Prop
  | refl (c : Counter) : Leads e c [] c
  | step {c c' c'' : Counter} {events said : List CallEvent} (leads : Leads e c events c')
      (moves : e.Moves c' said c'') : Leads e c (events ++ said) c''

/-- The histories of the calls for drafts, from the first call on. -/
def Served (e : Endpoints) (events : List CallEvent) (c : Counter) : Prop := e.Leads {} events c

variable {e : Endpoints} {c c' c'' : Counter} {events more : List CallEvent}

lemma Moves.leads (moves : e.Moves c events c') : e.Leads c events c' :=
  .step (.refl c) moves

/-- What a call does next is a history, whatever other calls there are. -/
lemma leads_of_advances {cell cell' : Cell} {s s' : Standing} {said : List HttpEvent}
    (advances : Advances cell s said cell' s') (l r : List BuildCall) (o : BuildOrder) :
    e.Leads ⟨cell, l ++ ⟨o, s⟩ :: r⟩ (said.map (CallEvent.mk o)) ⟨cell', l ++ ⟨o, s'⟩ :: r⟩ :=
  (Moves.call advances).leads

lemma leads_of_goes {t t' : Talking (Except VenueError Draft)} {x : HttpEvent} (goes : t.Goes x t')
    (cell : Cell) (finding : Bool) (l r : List BuildCall) (o : BuildOrder) :
    e.Leads ⟨cell, l ++ ⟨o, .under finding t⟩ :: r⟩ [⟨o, x⟩]
      ⟨cell, l ++ ⟨o, .under finding t'⟩ :: r⟩ :=
  leads_of_advances (.goes goes) l r o

lemma Leads.trans (first : e.Leads c events c') (second : e.Leads c' more c'') :
    e.Leads c (events ++ more) c'' := by
  induction second with
  | refl => rwa [List.append_nil]
  | step leads moves ih =>
      rw [← List.append_assoc]
      exact ih.step moves

end Endpoints

/-! ## An order that is alone -/

/-- There is something to take for the order. -/
def BuildOrder.Available (o : BuildOrder) : Prop := o.position.available o.action.kind = true

/-- What a call sends and hears on a path. -/
def eventsOf (o : BuildOrder) (path : HttpPath) : List CallEvent :=
  path.flatMap fun t => [⟨o, .sent t.question⟩, ⟨o, .heard t.question t.answer⟩]

lemma eventsOf_append (o : BuildOrder) (first rest : HttpPath) :
    eventsOf o (first ++ rest) = eventsOf o first ++ eventsOf o rest := List.flatMap_append

namespace Endpoints

open PoolExit.Flow (takes_bind takes_pure)

variable {e : Endpoints} {o : BuildOrder}

/-- How the one who has taken the cell goes on with what it has found out. -/
def keeping (e : Endpoints) (o : BuildOrder) (found : Probe) :
    OrderTalk (Except VenueError Draft) :=
  .ask (.keep found) fun _ => OrderTalk.http (e.proceed o found)

/-- How an order goes on with what the cell tells. -/
def informed (e : Endpoints) (o : BuildOrder) : Probe → OrderTalk (Except VenueError Draft)
  | .unasked => OrderTalk.http e.findOut >>= e.keeping o
  | known => OrderTalk.http (e.proceed o known)

lemma informed_of_known {p : Probe} (known : p ≠ .unasked) :
    e.informed o p = OrderTalk.http (e.proceed o p) := by
  cases p with
  | unasked => exact absurd rfl known
  | well | unwell => rfl

lemma order_of_available (available : o.Available) :
    e.order o = .ask .known (e.informed o) := by
  have goesOn : ¬ (!o.position.available o.action.kind) = true := by
    rw [BuildOrder.Available] at available
    simp [available]
  unfold order consult
  rw [if_neg goesOn, bind_assoc]
  refine congrArg (Flow.ask OrderQuestion.known) (funext fun p => ?_)
  cases p with
  | unasked =>
      change (OrderTalk.http e.findOut >>= _) >>= _ = OrderTalk.http e.findOut >>= _
      rw [bind_assoc]
      rfl
  | well | unwell => simp only [Flow.done_bind, pure_bind, informed]

lemma order_of_not_available (empty : ¬ o.Available) :
    e.order o = .done (.error (.zeroBalance o.action.kind)) := by
  have refuses : (!o.position.available o.action.kind) = true := by
    rw [BuildOrder.Available] at empty
    simp [empty]
  unfold order
  rw [if_pos refuses]
  rfl

section

variable {path : HttpPath} (cell : Cell) (l r : List BuildCall)

/-- A call that finds the cell empty takes it. -/
lemma leads_taken (e : Endpoints) (o : BuildOrder) :
    e.Leads ⟨⟨.unasked, false⟩, l ++ ⟨o, .under false (.going (.ask .known (e.informed o)))⟩ :: r⟩
      [] ⟨⟨.unasked, true⟩, l ++ ⟨o, .under true (.going (e.informed o .unasked))⟩ :: r⟩ :=
  leads_of_advances .take l r o

/-- A call that finds something in the cell goes by it. -/
lemma leads_told (e : Endpoints) (o : BuildOrder) {k : Probe} (known : k ≠ .unasked) :
    e.Leads ⟨⟨k, false⟩, l ++ ⟨o, .under false (.going (.ask .known (e.informed o)))⟩ :: r⟩ []
      ⟨⟨k, false⟩, l ++ ⟨o, .under false (.going (OrderTalk.http (e.proceed o k)))⟩ :: r⟩ := by
  rw [← informed_of_known known]
  exact leads_of_advances (.read known) l r o

/-- A call can go all along a path of its exchanges. -/
lemma leads_of_takes {α : Type} {talk : HttpTalk α} {a : α} (takes : talk.Takes path a)
    (finding : Bool) (f : α → OrderTalk (Except VenueError Draft)) :
    e.Leads ⟨cell, l ++ ⟨o, .under finding (.going (OrderTalk.http talk >>= f))⟩ :: r⟩
      (eventsOf o path) ⟨cell, l ++ ⟨o, .under finding (.going (f a))⟩ :: r⟩ := by
  induction takes with
  | done a => exact .refl _
  | @ask step next answer rest a further ih =>
      let onward (answer : step.Answer) := OrderTalk.http (next answer) >>= f
      have sent := leads_of_goes (e := e) (.send step onward) cell finding l r o
      have heard := leads_of_goes (e := e) (.hear step onward answer) cell finding l r o
      exact (sent.trans heard).trans ih

/-- A call that knows what is to be known can go on to its end. -/
lemma leads_ended {k : Probe} {answer : Except VenueError Draft}
    (ordered : (e.proceed o k).Takes path answer) :
    e.Leads ⟨cell, l ++ ⟨o, .under false (.going (OrderTalk.http (e.proceed o k)))⟩ :: r⟩
      (eventsOf o path) ⟨cell, l ++ ⟨o, .ended answer⟩ :: r⟩ := by
  have goes := leads_of_takes (e := e) (o := o) cell l r ordered false .done
  have whole : OrderTalk.http (e.proceed o k) >>= .done = OrderTalk.http (e.proceed o k) :=
    bind_pure _
  rw [whole] at goes
  simpa using goes.trans (leads_of_advances .finish l r o)

end

/-- **An order that is alone is a history.**  Whatever is known about the builder, and whatever
calls there have been before, an order that is carried out while there is no other one is a history
of one more call, and leaves behind in the cell what it comes to know. -/
theorem leads_build {p k : Probe} {calls : List BuildCall} {path : HttpPath}
    {answer : Except VenueError Draft} (takes : (e.build o p).Takes path (answer, k)) :
    e.Leads ⟨⟨p, false⟩, calls⟩ (eventsOf o path)
      ⟨⟨k, false⟩, calls ++ [⟨o, .ended answer⟩]⟩ := by
  have placed : e.Leads ⟨⟨p, false⟩, calls⟩ [] _ := (Moves.place o).leads
  rw [build_eq] at takes
  split at takes
  next available =>
    rw [order_of_available available] at placed
    obtain ⟨known, first, rest, rfl, learnt, further⟩ := takes_bind.1 takes
    obtain ⟨_, last, _, rfl, ordered, done⟩ := takes_bind.1 further
    obtain ⟨rfl, same⟩ := takes_pure.1 done
    obtain ⟨rfl, rfl⟩ := Prod.mk.inj same
    rw [List.append_nil]
    have ends := leads_ended ⟨known, false⟩ calls [] ordered
    by_cases unasked : p = .unasked
    · obtain rfl := unasked
      have taken := placed.trans (leads_taken calls [] e o)
      have found := taken.trans (leads_of_takes _ calls [] learnt true (e.keeping o))
      have filled := found.trans (leads_of_advances .fill calls [] o)
      rw [eventsOf_append]
      simpa using filled.trans ends
    · obtain ⟨rfl, rfl⟩ : first = [] ∧ p = known := by
        cases p with
        | unasked => exact absurd rfl unasked
        | well | unwell => exact takes_pure.1 learnt
      rw [List.nil_append]
      simpa using (placed.trans (leads_told calls [] e o unasked)).trans ends
  next empty =>
    obtain ⟨rfl, same⟩ := takes_pure.1 takes
    obtain ⟨rfl, rfl⟩ := Prod.mk.inj same
    rw [order_of_not_available empty] at placed
    change e.Leads _ [] _
    simpa using placed.trans (leads_of_advances .finish calls [] o)

end Endpoints

end PoolExit
