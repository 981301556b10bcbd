import PoolExit.Command.NodeClient
import PoolExit.Endpoint.Backend
import PoolExit.Exit.Conduct
import PoolExit.Venue.Resolve
import PoolExit.Wallet.LocalSigner

/-!
# Answering calls on a machine

An errand is an exit with all that its calls go to: the endpoints of the venues, a key pair at hand,
and a node of the ledger.  A stop that the user asks for during a call cancels the run.
-/

namespace PoolExit.Command

/-- An exit with all that its calls go to. -/
structure Errand where
  setup : Setup
  /-- The endpoints of the adapters, in their order. -/
  endpoints : List Endpoints
  keypair : Keypair
  node : NodeClient

/-- The endpoints of a venue as they are set. -/
def endpointsOf (s : Settings) (v : Venue) : Endpoints :=
  let set := s.venue v
  { venue := v, discoverUrl := set.discoverUrl, buildUrl := set.buildUrl
    healthUrl := set.healthUrl, timeoutMs := set.timeoutMs.toNat }

namespace Errand

/-- The errand of settings, for the given venues. -/
def ofSettings (s : Settings) (venues : List Venue) (keypair : Keypair) (node : NodeClient) :
    Errand where
  setup :=
    { owner := keypair.pubkey
      adapters := venues.map fun v => ⟨v, v.resolve⟩
      bulk := true
      ladder := s.ladder
      refreshExpired := s.exit.refreshExpiredDrafts
      simulateBeforeSend := s.exit.simulateBeforeSend }
  endpoints := venues.map (endpointsOf s)
  keypair
  node

/-- The machine, with what is known about the builders. -/
abbrev Machine := StateT (List Probe) Shell

/-- Orders a draft from an adapter, and keeps what it learns about the builder. -/
def build (e : Errand) (adapter : Nat) (o : BuildOrder) : Machine (Except VenueError Draft) := do
  match e.endpoints[adapter]? with
  | none => return .error (.builderUnavailable o.position.venue "协议未启用")
  | some points =>
    let probes ← get
    let (answer, probe) ←
      (Shell.http (points.build o (probes.getD adapter .unasked)) :
        Shell (Except VenueError Draft × Probe))
    set (probes.set adapter probe)
    return answer

/-- Answers a call. -/
def reply (e : Errand) : (c : Call) → Machine (Reply c.Answer)
  | .discover adapter owner => match e.endpoints[adapter]? with
    | none => return .atOnce (.ok [])
    | some points => do return .later (← (Shell.http (points.discover owner) : Shell _))
  | .build adapter o => do return .later (← e.build adapter o)
  | .signAll ts => return .atOnce (e.keypair.signer.signAll ts)
  | .signOne t => return .atOnce (e.keypair.signer.signOne t)
  | .blockHeight => do return .later (← (e.node.blockHeight : Shell _))
  | .simulate t => do return .later (← (e.node.simulate t : Shell _))
  | .submit t => do return .later (← (e.node.submit t : Shell _))
  | .confirm signature expiry => do
    return .later (← (e.node.confirm ⟨signature, expiry⟩ : Shell _))

/-- Shows an event of a run. -/
def noteRun (n : Notice) : Machine Unit := (Shell.step (.log n.line) : Shell Unit)

/-- Cancels the run where the user has asked the program to stop. -/
def heed : StateT Desk Machine Unit := do
  if (← get).stopped then return ()
  if ← (Shell.step .interrupted : Shell Bool) then
    (Shell.note .interrupted : Shell Unit)
    discard (Desk.requestAbort noteRun)

/-- Conducts the talks of an errand. -/
def conductor (e : Errand) : Conductor Machine where
  answer := fun c => do
    let reply ← (e.reply c : Machine (Reply c.Answer))
    heed
    return reply
  note := noteRun

/-- What is known about the builders before anything is asked. -/
def unasked (e : Errand) : List Probe := e.endpoints.map fun _ => .unasked

/-- Runs the exit. -/
def run (e : Errand) (o : Options) : Shell RunOutcome := do
  let ((outcome, _), _) ← (e.conductor.run e.setup o {}).run e.unasked
  return outcome

/-- Makes the plan of the exit. -/
def plan (e : Errand) (o : Options) : Shell (Option (Except ExitError Plan)) := do
  let ((outcome, _), _) ← (e.conductor.conduct (e.setup.plan o) {}).run e.unasked
  return outcome

end Errand

end PoolExit.Command
