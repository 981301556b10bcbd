import PoolExit.Exit.Options
import PoolExit.Exit.Plan
import PoolExit.Exit.Signing

/-!
# A run

A run plans, looks over all drafts, has the primary drafts signed, and then works on one item after
the other: it takes the drafts of the item from the lowest fee until one is confirmed.  A draft past
its expiry height is built anew.  A dry run simulates the signed primary drafts instead and sends
nothing.

A cancelled run starts nothing new.  What has been submitted is still waited for.
-/

namespace PoolExit

/-- What stays the same from run to run. -/
structure Setup where
  owner : Pubkey
  adapters : List Adapter
  /-- Whether the wallet signs several transactions at once. -/
  bulk : Bool
  ladder : FeeLadder
  /-- Whether drafts past their expiry height are built anew. -/
  refreshExpired : Bool
  simulateBeforeSend : Bool

namespace Setup

/-- What the plan of a run is made for. -/
def planSettings (setup : Setup) (o : Options) : PlanSettings :=
  { owner := setup.owner
    venues := o.venues
    feeLevelBase := o.feeLevelBase
    ladder := setup.ladder
    computeUnitCeiling := o.computeUnitCeiling
    slippageBps := o.slippageBps
    withdrawBps := o.withdrawBps
    includeClaims := o.includeClaims
    includeWithdrawals := o.includeWithdrawals }

/-- The guard of the owner's wallet. -/
def guard (setup : Setup) : Guard := Guard.ownerOnly setup.owner

/-- Makes a plan without running it. -/
def plan (setup : Setup) (o : Options) : Talk (Except ExitError Plan) :=
  match o.validate with
  | .error e => return .error e
  | .ok () => do
    match ← Planning.plan setup.adapters (setup.planSettings o) false with
    | some plan => return .ok plan
    | none => return .error .cancelled

end Setup

/-- A talk that keeps the board. -/
abbrev Run (α : Type) := StateT Board Talk α

/-- An attempt within a run, which may fail. -/
abbrev Attempt (α : Type) := ExceptT ExitError Run α

namespace Run

/-- Changes the board and shows it. -/
def post (change : Board → Board) : Run Unit := do
  modify change
  let board ← get
  Talk.publish board

/-- Changes one item. -/
def update (index : Nat) (change : Item → Item) : Run Unit := post (·.update index change)

/-- Ends an item with an error. -/
def fail (index : Nat) (task : Task) (reason : String) : Run Unit := do
  Talk.note (.failed index task reason)
  update index fun i => (i.fail reason).2

/-- The draft of a variant, built anew if it has expired. -/
def freshDraft (setup : Setup) (s : PlanSettings) (index : Nat) (task : Task) (v : Variant) :
    Talk (Except ExitError Draft) := do
  match ← (Talk.call .blockHeight).untilStopped with
  | none => return .error .cancelled
  | some (.error e) => return .error (.ledger e)
  | some (.ok height) =>
    if height ≤ v.draft.expiryHeight then return .ok v.draft
    if !setup.refreshExpired then
      return .error (.ledger (.expired height v.draft.expiryHeight))
    match ← Planning.rebuild setup.adapters s task v.feeLevel with
    | .error e => return .error (.venue e)
    | .ok draft =>
      match setup.guard.check index task draft with
      | .error strangers =>
        Talk.note (.strangers strangers)
        return .error (.unexpectedSigner strangers)
      | .ok () =>
        if draft.expiryHeight < height then
          return .error (.ledger (.expired height draft.expiryHeight))
        return .ok draft

/-- The signed transaction of a draft: the one signed in the batch, if it has the same message. -/
def signedDraft (setup : Setup) (primary : Transaction) (draft : Draft) :
    Talk (Except ExitError Transaction) :=
  if draft.sameMessage primary then return .ok primary
  else do
    match ← Signing.single setup.bulk draft.transaction with
    | .ok t => return .ok t
    | .error e => return .error (.signer e)

/-- A ledger's answer as a step of an attempt. -/
def ledger {α : Type} (p : Talk (Except LedgerError α)) : Attempt α := do
  match ← (p : Run (Except LedgerError α)) with
  | .ok a => return a
  | .error e => throw (.ledger e)

/-- Tries one variant of a task up to its confirmation. -/
def send (setup : Setup) (s : PlanSettings) (primary : Transaction) (index : Nat) (task : Task)
    (number : Nat) (v : Variant) : Attempt Signature := do
  let draft ← ExceptT.mk (m := Run) (freshDraft setup s index task v)
  let transaction ← ExceptT.mk (m := Run) (signedDraft setup primary draft)
  if ← (Talk.stopped : Run Bool) then throw .cancelled
  if setup.simulateBeforeSend then ledger (Talk.call (.simulate transaction))
  (Talk.note (.attempt index task number v.feeLevel) : Run Unit)
  let signature ← ledger (Talk.call (.submit transaction))
  (update index fun i => i.submitted signature.text v.feeLevel : Run Unit)
  ledger (Talk.call (.confirm signature draft.expiryHeight))
  return signature

/-- Tries one variant of a task and reports a failure. -/
def attempt (setup : Setup) (s : PlanSettings) (primary : Transaction) (index : Nat) (task : Task)
    (number : Nat) (v : Variant) : Run (Except ExitError (Signature × UInt64)) := do
  update index Item.attempted
  match ← (send setup s primary index task number v).run with
  | .ok signature => return .ok (signature, v.feeLevel)
  | .error e =>
    Talk.note (.attemptFailed index task number v.feeLevel e)
    return .error e

/-- Whether the attempts at an item ended because the run was cancelled. -/
def endedByCancel (exhausted : Exhausted ExitError) : Bool :=
  exhausted.cancelled || exhausted.last? = some .cancelled

/-- The last failure other than the cancellation. -/
def lastFailure (exhausted : Exhausted ExitError) : Option ExitError :=
  exhausted.errors.reverse.find? fun e => e ≠ .cancelled

/-- Works on one item. -/
def submitItem (setup : Setup) (s : PlanSettings) (primary : Transaction) (index : Nat)
    (task : Task) : Run Unit := do
  let result ← firstSuccess task.attempts (some (Talk.stopped : Run Bool))
    (attempt setup s primary index task)
  match result with
  | .ok success =>
    let (signature, feeLevel) := success.value
    Talk.note (.confirmed index task signature feeLevel success.index success.failures)
    update index fun i => i.landed signature.text feeLevel
  | .error exhausted =>
    if endedByCancel exhausted then
      match lastFailure exhausted with
      | some e => fail index task e.describe
      | none => pure ()
    else
      fail index task ((exhausted.last?.map ExitError.describe).getD "没有可发送的草稿")

/-- Works on the items whose primary drafts are signed, in order, until the run is cancelled. -/
def submitAll (setup : Setup) (s : PlanSettings) :
    List ((Task × Option Transaction) × Nat) → Run Unit
  | [] => return ()
  | ((_, none), _) :: rest => submitAll setup s rest
  | ((task, some primary), index) :: rest => do
    if ← (Talk.stopped : Run Bool) then return ()
    post (·.focus index)
    submitItem setup s primary index task
    submitAll setup s rest

/-- The reason shown for items of a dry run. -/
def dryRunReason : String := "dry-run: 模拟通过，未发送"

/-- Simulates the signed primary drafts, in order, until the run is cancelled. -/
def simulateAll : List ((Task × Option Transaction) × Nat) → Run Unit
  | [] => return ()
  | ((_, none), _) :: rest => simulateAll rest
  | ((task, some primary), index) :: rest => do
    if ← (Talk.stopped : Run Bool) then return ()
    post (·.focus index)
    match ← (Talk.call (.simulate primary) : Run (Except LedgerError Unit)) with
    | .ok () => update index fun i => (i.skip dryRunReason).2
    | .error e => fail index task e.message
    simulateAll rest

/-- Takes in the outcome of signing, item by item. -/
def settle : List ((Task × Transaction × Option SignerError) × Nat) →
    Run (List (Option Transaction))
  | [] => return []
  | ((task, transaction, error), index) :: rest => do
    let slot ← match error with
      | none =>
        update index fun i => (i.advance .signed).2
        pure (some transaction)
      | some e =>
        fail index task e.message
        pure none
    return slot :: (← settle rest)

/-- Does everything between the start of a run and its end. -/
def execute (setup : Setup) (o : Options) : Run (Except ExitError Unit) := do
  let s := setup.planSettings o
  let some plan ← (Planning.plan setup.adapters s true : Run (Option Plan))
    | return .error .cancelled
  let tasks := plan.tasks
  post (·.planned tasks)
  if tasks.isEmpty then
    Talk.note .nothingToExit
    return .ok ()
  match setup.guard.checkAll tasks with
  | .error strangers =>
    Talk.note (.strangers strangers)
    return .error (.unexpectedSigner strangers)
  | .ok () =>
    let some outcome ←
        ((Signing.batch setup.bulk (tasks.map fun t => t.primary.transaction)).untilStopped :
          Run (Option Signatures))
      | return .error .cancelled
    Talk.note (.signed outcome.path tasks.length outcome.failed)
    let signed ← settle (tasks.zip (outcome.transactions.zip outcome.errors)).zipIdx
    let work := (tasks.zip signed).zipIdx
    if o.dryRun then simulateAll work else submitAll setup s work
    return .ok ()

/-- Ends a run: a failure other than the cancellation is its result. -/
def conclude : Except ExitError Unit → Run (Except ExitError Board)
  | .ok () | .error .cancelled => do
    let cancelled ← (Talk.stopped : Run Bool)
    post (·.closed none cancelled)
    let board ← get
    Talk.note (.finished board.summary board.cancelled)
    return .ok board
  | .error e => do
    Talk.note (.aborted e.describe)
    let cancelled ← (Talk.stopped : Run Bool)
    post (·.closed (some e.describe) cancelled)
    return .error e

/-- A whole run, from an open board to a closed one. -/
def whole (setup : Setup) (o : Options) : Talk (Except ExitError Board) :=
  Prod.fst <$> StateT.run (do post (fun _ => Board.opened); conclude (← execute setup o)) default

end Run

end PoolExit
