import PoolExit.Exit.Order
import PoolExit.Exit.Question
import PoolExit.Fee.Ladder

/-!
# Planning

A plan is made in two rounds.  First every enabled adapter lists the owner's positions; what is listed
is sifted into candidates and exclusions.  Then each candidate gets a draft for each rung of the fee
ladder.  A candidate without a draft for the lowest rung is excluded; where a higher rung fails, the
drafts below it are kept and no further rung is tried.

No adapter's listing and no candidate's drafts depend on those of another one, so those of a round may
be asked for side by side.  Here one comes after the other: a plan is a function of the answers, and
only the order of calls and events is fixed by this.
-/

namespace PoolExit

/-- What a plan is made for. -/
structure PlanSettings where
  owner : Pubkey
  venues : List Venue
  feeLevelBase : UInt64
  ladder : FeeLadder
  computeUnitCeiling : UInt32
  slippageBps : UInt16
  withdrawBps : UInt16
  includeClaims : Bool
  includeWithdrawals : Bool
deriving DecidableEq

namespace PlanSettings

/-- The order for a draft. -/
def order (s : PlanSettings) (position : Position) (action : Action) (feeLevel : UInt64) :
    BuildOrder :=
  { owner := s.owner, position, action, feeLevel
    slippageBps := s.slippageBps, computeUnitCeiling := s.computeUnitCeiling }

/-- What is to be done with a position: what is wanted and possible. -/
def actions (s : PlanSettings) (p : Position) : List Action :=
  (if s.includeClaims && p.available .claim then [.claim] else []) ++
    (if s.includeWithdrawals && p.available .withdraw then [.withdraw s.withdrawBps] else [])

/-- The fees to build drafts for. -/
def feeLevels (s : PlanSettings) : List UInt64 := s.ladder.rungs s.feeLevelBase

end PlanSettings

/-- An action on a position, found through an adapter. -/
structure Candidate where
  adapter : Nat
  position : Position
  action : Action
deriving DecidableEq

/-- What came of asking an adapter for positions. -/
inductive Finding where
  | failed (venue : Venue) (error : VenueError)
  | excluded (exclusion : Exclusion)
  | candidate (candidate : Candidate)

namespace Finding

/-- The venue whose positions could not be found. -/
def failed? : Finding → Option Venue
  | .failed venue _ => some venue
  | _ => none

/-- The exclusion, if it is one. -/
def excluded? : Finding → Option Exclusion
  | .excluded e => some e
  | _ => none

/-- The candidate, if it is one. -/
def candidate? : Finding → Option Candidate
  | .candidate c => some c
  | _ => none

/-- The event of a finding. -/
def notice? : Finding → Option Notice
  | .failed venue error => some (.discoveryFailed venue error)
  | .excluded e => some (.excluded e)
  | .candidate _ => none

end Finding

/-- A plan. -/
structure Plan where
  feeLevels : List UInt64
  tasks : List Task
  excluded : List Exclusion
  /-- The venues whose positions could not be found. -/
  failedVenues : List Venue

namespace Planning

/-- Sifts one listing of an adapter. -/
def siftListing (s : PlanSettings) (index : Nat) (a : Adapter) (l : Listing) : List Finding :=
  if l.venue ≠ a.venue then
    [.excluded ⟨a.venue, none, none, .foreignPosition a.venue l.venue⟩]
  else match a.resolve l.value with
    | .error e => [.excluded ⟨a.venue, none, none, e⟩]
    | .ok p =>
      if !p.available .claim && !p.available .withdraw then
        [.excluded ⟨p.venue, some p.pool, none, .zeroBalance .withdraw⟩]
      else (s.actions p).map fun action => .candidate ⟨index, p, action⟩

/-- Sifts the answer of an adapter. -/
def sift (s : PlanSettings) (index : Nat) (a : Adapter) :
    Except VenueError (List Listing) → List Finding
  | .error e => [.failed a.venue e]
  | .ok listings => listings.flatMap (siftListing s index a)

/-- The adapters of the wanted venues, with their positions. -/
def enabled (adapters : List Adapter) (s : PlanSettings) : List (Adapter × Nat) :=
  adapters.zipIdx.filter fun (a, _) => s.venues.contains a.venue

/-- Asks adapters for positions. -/
def discover (s : PlanSettings) : List (Adapter × Nat) → Talk (List Finding)
  | [] => return []
  | (a, index) :: rest => do
    let answer ← Talk.call (.discover index s.owner)
    if let .ok listings := answer then Talk.note (.discovered a.venue listings.length)
    return sift s index a answer ++ (← discover s rest)

/-- What is remarkable about a draft made for a fee. -/
def remarks (s : PlanSettings) (position : Position) (requested : UInt64) (d : Draft) :
    List Notice :=
  let unitLimit := match d.computeUnitLimit with
    | some limit =>
      if s.computeUnitCeiling < limit then
        [.unitLimitAbove position limit s.computeUnitCeiling]
      else []
    | none => []
  let fee := match d.computeUnitPrice with
    | some embedded =>
      if embedded ≠ requested then [.feeMismatch position requested embedded] else []
    | none => []
  unitLimit ++ fee

/-- Asks for the drafts for higher fees, until one fails; `built` are the variants so far. -/
def buildHigher (s : PlanSettings) (c : Candidate) (built : List Variant) :
    List UInt64 → Talk (List Variant)
  | [] => return built
  | fee :: rest => do
    match ← Talk.call (.build c.adapter (s.order c.position c.action fee)) with
    | .error e =>
      Talk.note (.variantsCutShort c.position c.action.kind fee built.length e)
      return built
    | .ok draft =>
      Talk.noteAll (remarks s c.position fee draft)
      buildHigher s c (built ++ [⟨fee, draft⟩]) rest

/-- Asks for the drafts of a candidate. -/
def buildTask (s : PlanSettings) (c : Candidate) : Talk (Except VenueError Task) :=
  match s.feeLevels with
  | [] => return .error (.undecodable "费率梯度为空")
  | fee :: higher => do
    match ← Talk.call (.build c.adapter (s.order c.position c.action fee)) with
    | .error e => return .error e
    | .ok primary =>
      Talk.noteAll (remarks s c.position fee primary)
      let variants ← buildHigher s c [⟨fee, primary⟩] higher
      return .ok {
        venue := c.position.venue
        kind := c.action.kind
        pool := c.position.pool
        companion := c.position.companion
        action := c.action
        position := c.position
        primaryFeeLevel := fee
        primary
        variants }

/-- Asks for the drafts of candidates. -/
def buildTasks (s : PlanSettings) :
    List Candidate → Talk (List (Candidate × Except VenueError Task))
  | [] => return []
  | c :: rest => do
    let task ← buildTask s c
    return (c, task) :: (← buildTasks s rest)

/-- The exclusion of a candidate that got no draft. -/
def unbuilt : Candidate × Except VenueError Task → Option Exclusion
  | (c, .error e) => some ⟨c.position.venue, some c.position.pool, some c.action.kind, e⟩
  | (_, .ok _) => none

/-- The task of a candidate that got its drafts. -/
def built : Candidate × Except VenueError Task → Option Task
  | (_, .error _) => none
  | (_, .ok task) => some task

/-- One round of calls; within a run, a round ends where the run is cancelled. -/
def round {α : Type} (stoppable : Bool) (p : Talk α) : Talk (Option α) :=
  if stoppable then p.untilStopped else some <$> p

/-- Makes a plan; there is none where the run is cancelled meanwhile. -/
def plan (adapters : List Adapter) (s : PlanSettings) (stoppable : Bool) : Talk (Option Plan) := do
  let some findings ← round stoppable (discover s (enabled adapters s)) | return none
  Talk.noteAll (findings.filterMap Finding.notice?)
  let some results ← round stoppable (buildTasks s (findings.filterMap Finding.candidate?))
    | return none
  let unbuilt := results.filterMap unbuilt
  Talk.noteAll (unbuilt.map .excluded)
  let excluded := findings.filterMap Finding.excluded? ++ unbuilt
  let tasks := claimsFirst (results.filterMap built)
  Talk.note (.planReady tasks.length excluded.length)
  return some {
    feeLevels := s.feeLevels
    tasks, excluded
    failedVenues := findings.filterMap Finding.failed? }

/-- Asks for a new draft of a task, for one fee. -/
def rebuild (adapters : List Adapter) (s : PlanSettings) (task : Task) (feeLevel : UInt64) :
    Talk (Except VenueError Draft) :=
  match adapters.findIdx? fun a => a.venue = task.venue with
  | none => return .error (.builderUnavailable task.venue "协议未启用")
  | some index => Talk.call (.build index (s.order task.position task.action feeLevel))

end Planning

end PoolExit
