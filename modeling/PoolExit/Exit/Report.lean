import PoolExit.Endpoint.Request
import PoolExit.Exit.Board
import PoolExit.Exit.Plan

/-!
# Plans and boards as JSON

The members stand in the order in which they are written.
-/

namespace PoolExit

/-- A draft: its text and what can be read off it. -/
def Draft.json (d : Draft) : Json :=
  .object
    [("transaction", .string d.text),
      ("expiry_height", .ofUInt64 d.expiryHeight),
      ("compute_unit_price", .ofOption .ofUInt64 d.computeUnitPrice),
      ("unsigned_signers", .array (d.unsignedSigners.map fun key => .string key.text))]

/-- A draft and its fee. -/
def Variant.json (v : Variant) : Json :=
  .object [("fee_level", .ofUInt64 v.feeLevel), ("draft", v.draft.json)]

/-- The members of a task. -/
def Task.members (t : Task) : List (String × Json) :=
  [("protocol", .string t.venue.name),
    ("kind", .string t.kind.name),
    ("pool", .string t.pool.text),
    ("secondary", .string t.companion.text),
    ("action", t.action.json),
    ("primary_fee_level", .ofUInt64 t.primaryFeeLevel),
    ("primary", t.primary.json),
    ("variants", .array (t.variants.map Variant.json))]

/-- A task. -/
def Task.json (t : Task) : Json := .object t.members

/-- A task and how far it has come. -/
def Item.json (i : Item) : Json :=
  .object (i.task.members ++
    [("status", .string i.status.name),
      ("submission_id", .ofOption .string i.submissionId),
      ("error", .ofOption .string i.error),
      ("fee_level", .ofOption .ofUInt64 i.feeLevel),
      ("attempts", .ofNat i.attempts)])

/-- An exclusion and its reason. -/
def Exclusion.json (e : Exclusion) : Json :=
  .object
    [("protocol", .string e.venue.name),
      ("pool", .ofOption (fun key => .string key.text) e.pool),
      ("kind", .ofOption (fun kind => .string kind.name) e.kind),
      ("reason", .string e.reason.describe)]

/-- A plan. -/
def Plan.json (p : Plan) : Json :=
  .object
    [("fee_levels", .array (p.feeLevels.map .ofUInt64)),
      ("tasks", .array (p.tasks.map Task.json)),
      ("excluded", .array (p.excluded.map Exclusion.json)),
      ("failed_protocols", .array (p.failedVenues.map fun v => .string v.name))]

/-- The ends of the items, counted. -/
def Summary.json (s : Summary) : Json :=
  .object
    [("total", .ofNat s.total),
      ("confirmed", .ofNat s.confirmed),
      ("failed", .ofNat s.failed),
      ("skipped", .ofNat s.skipped),
      ("in_flight", .ofNat s.inFlight)]

/-- A board. -/
def Board.json (b : Board) : Json :=
  .object
    [("planning", .bool b.planning),
      ("running", .bool b.running),
      ("items", .array (b.items.map Item.json)),
      ("current_index", .ofOption .ofNat b.currentIndex),
      ("started_at", .bool b.started),
      ("finished_at", .bool b.finished),
      ("error", .ofOption .string b.error),
      ("cancelled", .bool b.cancelled),
      ("phase", .string b.phase.name),
      ("summary", b.summary.json)]

end PoolExit
