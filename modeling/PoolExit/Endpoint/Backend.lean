import PoolExit.Endpoint.Exchange
import PoolExit.Endpoint.Request
import PoolExit.Exit.Draft
import PoolExit.Venue.Error

/-!
# A venue behind endpoints

A venue may have an endpoint that tells whether its builder is well.  It is asked once, before the
first draft is ordered, and its answer holds for all orders: where it fails, no draft is ordered at
all.  An order that there is nothing to take for is refused before anything is asked.

Orders may be carried out side by side, so what is known about a builder is kept in one place for
all of them.  An order asks this place by questions of its own (`OrderQuestion`): how it answers is
not for an order to say.  In the program one order comes after the other (`Endpoints.build`).
-/

namespace PoolExit

/-- The endpoints of a venue; a blank address stands for a missing endpoint. -/
structure Endpoints where
  venue : Venue
  discoverUrl : String
  buildUrl : String
  healthUrl : Option String
  timeoutMs : Nat
deriving DecidableEq, Repr

/-- What is known about the builder of a venue. -/
inductive Probe where
  | unasked
  | well
  | unwell (reason : String)
deriving DecidableEq, Repr

/-- What an order asks: of the endpoints, and of the place where all orders of a venue keep what
they know about its builder. -/
inductive OrderQuestion where
  | http (step : HttpStep)
  /-- What is known; where nothing is, this is for the one who asks to find out. -/
  | known
  /-- To keep what was found out. -/
  | keep (found : Probe)

/-- What a question of an order is answered with. -/
abbrev OrderQuestion.Answer : OrderQuestion → Type
  | .http step => step.Answer
  | .known => Probe
  | .keep _ => Unit

/-- A flow of such questions. -/
abbrev OrderTalk (α : Type) := Flow OrderQuestion OrderQuestion.Answer α

/-- Has exchanges on behalf of an order. -/
def OrderTalk.http {α : Type} (talk : HttpTalk α) : OrderTalk α :=
  talk.perform fun step => Flow.question (OrderQuestion.http step)

/-- Answers the questions of an order while there is no other one. -/
def OrderQuestion.alone : (q : OrderQuestion) → StateT Probe HttpTalk q.Answer
  | .http step => StateT.lift (Flow.question step)
  | .known => get
  | .keep found => set found

/-- The draft in a granted transaction. -/
def Grant.draft (g : Grant) : Except VenueError Draft :=
  match Draft.read g.transaction g.expiryHeight with
  | .error error => .error (.undecodable error.message)
  | .ok draft => .ok draft

namespace Endpoints

/-- The time to wait for an answer: at least a millisecond. -/
def patience (e : Endpoints) : Nat := max e.timeoutMs 1

/-- The address of the endpoint that tells whether the builder is well. -/
def health? (e : Endpoints) : Option String :=
  (e.healthUrl.map Text.trim).filter fun url => !url.isEmpty

/-- Sends a request to an endpoint that may be missing. -/
def exchange (e : Endpoints) (stage : Stage) (setting url : String) (request : Json) :
    HttpTalk (Except EndpointError String) :=
  let url := Text.trim url
  if url.isEmpty then return .error (.notConfigured setting)
  else HttpTalk.exchange e.venue stage url e.patience request

/-- Asks for the positions of an owner. -/
def discover (e : Endpoints) (owner : Pubkey) : HttpTalk (Except VenueError (List Listing)) := do
  match ← e.exchange .discover "discover_url" e.discoverUrl (discoveryRequest owner) with
  | .error error => return .error (.discovery e.venue error)
  | .ok body =>
    let (values, fault) := readListings body
    if let some fault := fault then HttpTalk.note (.listing e.venue fault)
    return .ok (values.map fun value => ⟨e.venue, value⟩)

/-- Finds out whether the builder is well; where it cannot be asked, it counts as well. -/
def findOut (e : Endpoints) : HttpTalk Probe :=
  match e.health? with
  | none => return .well
  | some url => do
    match ← HttpTalk.probe e.venue url e.patience with
    | .ok () =>
      HttpTalk.note (.probed e.venue url)
      return .well
    | .error error =>
      HttpTalk.note (.probeFailed e.venue url error.describe)
      return .unwell error.describe

/-- Asks the builder to grant a transaction. -/
def grant (e : Endpoints) (o : BuildOrder) : HttpTalk (Except EndpointError Grant) := do
  match ← e.exchange .build "build_url" e.buildUrl o.request with
  | .error error => return .error error
  | .ok body => return Grant.read body

/-- Orders a draft, whatever is known about the builder. -/
def buildDraft (e : Endpoints) (o : BuildOrder) : HttpTalk (Except VenueError Draft) := do
  match ← e.grant o with
  | .error error => return .error (.build e.venue error)
  | .ok grant => return grant.draft

/-- Orders a draft, unless the builder is known not to be well. -/
def proceed (e : Endpoints) (o : BuildOrder) : Probe → HttpTalk (Except VenueError Draft)
  | .unwell reason => return .error (.builderUnavailable e.venue reason)
  | .well | .unasked => e.buildDraft o

/-- What is known about the builder.  Whoever finds that nothing is known finds it out, and leaves
it for all others. -/
def consult (e : Endpoints) : OrderTalk Probe := do
  match ← Flow.question OrderQuestion.known with
  | .unasked =>
    let found ← OrderTalk.http e.findOut
    Flow.question (OrderQuestion.keep found)
    return found
  | known => return known

/-- Orders a draft from the builder, if it is well. -/
def order (e : Endpoints) (o : BuildOrder) : OrderTalk (Except VenueError Draft) := do
  if !o.position.available o.action.kind then return .error (.zeroBalance o.action.kind)
  let known ← e.consult
  OrderTalk.http (e.proceed o known)

/-- Orders a draft while nobody else does; what is known about the builder comes out as well. -/
def build (e : Endpoints) (o : BuildOrder) (probe : Probe) :
    HttpTalk (Except VenueError Draft × Probe) :=
  ((e.order o).perform OrderQuestion.alone).run probe

end Endpoints

end PoolExit
