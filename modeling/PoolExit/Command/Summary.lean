import PoolExit.Exit.Board

/-!
# The table of a run

After a run its items are shown in a table, one a line, and below it how the run ended.
-/

namespace PoolExit

namespace Table

/-- Fills a cell up on the right. -/
def left (width : Nat) (s : String) : String :=
  s ++ String.ofList (List.replicate (width - s.length) ' ')

/-- Fills a cell up on the left. -/
def right (width : Nat) (s : String) : String :=
  String.ofList (List.replicate (width - s.length) ' ') ++ s

/-- A line of eight cells; the last one is not filled up. -/
def row (number venue kind pool status fee signature error : String) : String :=
  " ".intercalate
    [left 4 number, left 10 venue, left 9 kind, left 45 pool, left 10 status, right 10 fee,
      left 90 signature, error]

/-- The line above the items. -/
def header : String := row "#" "protocol" "kind" "pool" "status" "fee" "signature" "error"

/-- The line of an item. -/
def itemRow (index : Nat) (i : Item) : String :=
  row (toString index) i.task.venue.name i.task.kind.name i.task.pool.text i.status.name
    ((i.feeLevel.map toString).getD "") (i.submissionId.getD "-") (i.error.getD "")

end Table

namespace Board

/-- How a run ended, in words. -/
def verdict (b : Board) : String :=
  match b.phase with
  | .error => "异常结束"
  | .planning | .running => "仍在运行"
  | .idle => if b.cancelled then "已中止" else "已完成"

/-- The line below the items. -/
def totals (b : Board) : String :=
  let s := b.summary
  s!"{b.verdict}，共 {s.total} 笔：确认 {s.confirmed}，失败 {s.failed}，跳过 {s.skipped}，未完成 {s.inFlight}"

/-- All lines that are shown after a run. -/
def table (b : Board) : List String :=
  Table.header :: b.items.zipIdx.map (fun (i, index) => Table.itemRow index i) ++
    b.totals :: (b.error.map fun e => s!"运行中止: {e}").toList

end Board

end PoolExit
