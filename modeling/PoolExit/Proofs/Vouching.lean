import PoolExit.Proofs.Guarding
import PoolExit.Proofs.Whole

/-!
# Drafts that are vouched for

While an item is in work, a draft is vouched for (`Desk.Vouches`) if it was planned for the task of
this item or built since the attempt began, and if the guard passes it.  The draft in time of every
attempt is vouched for, from the moment the attempt has it (`Desk.vouches_of_drafted`).
-/

namespace PoolExit

/-- A draft was built for a task within the turns. -/
def Rebuilt (setup : Setup) (o : Options) (task : Task) (ts : List Turn) (draft : Draft) : Prop :=
  ∃ adapter fee x, (⟨.call (.build adapter
    ((setup.planSettings o).order task.position task.action fee)), .ok draft, x⟩ : Turn) ∈ ts

/-- The draft that a turn brings. -/
def Turn.built? : Turn → Option Draft
  | ⟨.call (.build _ _), .ok draft, _⟩ => some draft
  | _ => none

lemma Rebuilt.mem_built {setup : Setup} {o : Options} {task : Task} {ts : List Turn}
    {draft : Draft} (rebuilt : Rebuilt setup o task ts draft) :
    draft ∈ ts.filterMap Turn.built? := by
  obtain ⟨adapter, fee, x, mem⟩ := rebuilt
  exact List.mem_filterMap.2 ⟨_, mem, rfl⟩

namespace Desk

/-- After the turns so far, the draft belongs to the item in work and the guard passes it. -/
def Vouches (d : Desk) (setup : Setup) (o : Options) (before : List Turn) (draft : Draft) : Prop :=
  ∃ index item, (d.afterAll before).board.currentIndex = some index ∧
    (d.afterAll before).board.items[index]? = some item ∧
    (draft ∈ item.task.drafts ∨ Rebuilt setup o item.task (sinceShown before) draft) ∧
    setup.guard.offenders draft = []

open Run

variable {d : Desk} {setup : Setup} {o : Options}

/-- Turns that neither show a board nor have a draft built change nothing about which drafts are
vouched for. -/
lemma vouches_append {before us : List Turn} {draft : Draft}
    (silent : ∀ t ∈ us, t.step.board? = none ∧
      ∀ adapter order, t.step ≠ .call (.build adapter order)) :
    d.Vouches setup o (before ++ us) draft ↔ d.Vouches setup o before draft := by
  have unshown : ∀ t ∈ us, t.step.board? = none := fun t ht => (silent t ht).1
  have rebuilt : ∀ {task : Task}, Rebuilt setup o task (sinceShown (before ++ us)) draft ↔
      Rebuilt setup o task (sinceShown before) draft := by
    intro task
    rw [sinceShown_append unshown]
    constructor
    · rintro ⟨adapter, fee, x, mem⟩
      rcases List.mem_append.1 mem with mem | mem
      · exact ⟨adapter, fee, x, mem⟩
      · exact absurd rfl ((silent _ mem).2 _ _)
    · rintro ⟨adapter, fee, x, mem⟩
      exact ⟨adapter, fee, x, List.mem_append_left _ mem⟩
  simp only [Vouches, afterAll_append, board_afterAll_of_silent unshown, rebuilt]

/-- The item in work stands on the board with its task. -/
lemma exists_item {tasks : List Task} {task : Task} {index : Nat} {b : Board}
    (planned : b.tasks = tasks) (mem : tasks[index]? = some task) :
    ∃ item, b.items[index]? = some item ∧ item.task = task := by
  rw [← planned, Board.tasks, List.getElem?_map] at mem
  exact Option.map_eq_some_iff.1 mem

/-- The primary draft of the item in work is vouched for. -/
lemma vouches_primary {tasks : List Task} {task : Task} {index : Nat} {b : Board}
    {earlier : List Turn} {x : Bool} (passed : setup.guard.checkAll tasks = .ok ())
    (here : tasks[index]? = some task) (focused : b.currentIndex = some index)
    (planned : b.tasks = tasks) :
    d.Vouches setup o (earlier ++ [⟨.publish b, (), x⟩]) task.primary := by
  obtain ⟨item, found, rfl⟩ := exists_item planned here
  have board : (d.afterAll (earlier ++ [⟨.publish b, (), x⟩])).board = b :=
    board_afterAll_of_shown (by simp)
  refine ⟨index, item, ?_, ?_, .inl List.mem_cons_self, ?_⟩
  · rw [board, focused]
  · rw [board, found]
  · exact Guard.checkAll_eq_ok.1 passed _ (List.mem_of_getElem? here) _ List.mem_cons_self

/-- Within an attempt the draft in time is vouched for, as soon as there is one. -/
theorem vouches_of_drafted {tasks : List Task} {task : Task} {index : Nat} {b : Board} {v : Variant}
    {earlier ds rest : List Turn} {draft : Draft} {x : Bool}
    (passed : setup.guard.checkAll tasks = .ok ()) (here : tasks[index]? = some task)
    (variant : v ∈ task.attempts) (focused : b.currentIndex = some index)
    (planned : b.tasks = tasks)
    (drafted : Drafted setup (setup.planSettings o) index task v ds (.ok draft))
    (silent : ∀ t ∈ rest, t.step.board? = none) :
    d.Vouches setup o
      (earlier ++ ⟨.publish (b.update index Item.attempted), (), x⟩ :: (ds ++ rest)) draft := by
  have counted := touched_attempted b index
  obtain ⟨item, found, rfl⟩ := exists_item (counted.tasks.trans planned) here
  have silent' : ∀ t ∈ ds ++ rest, t.step.board? = none :=
    List.forall_mem_append.2 ⟨fun t ht => (drafted.quiet t ht).1, silent⟩
  refine ⟨index, item, ?_, ?_, ?_, ?_⟩
  · rw [board_afterAll_of_shown silent', counted.currentIndex, focused]
  · rw [board_afterAll_of_shown silent', found]
  · rcases drafted.source with rfl | ⟨-, adapter, y, mem⟩
    · exact .inl (Task.draft_mem_drafts variant)
    · refine .inr ⟨adapter, v.feeLevel, y, ?_⟩
      rw [sinceShown_of_shown rfl silent']
      exact List.mem_append_left _ mem
  · rcases drafted.source with rfl | ⟨again, -⟩
    · exact Guard.checkAll_eq_ok.1 passed _ (List.mem_of_getElem? here) _
        (Task.draft_mem_drafts variant)
    · exact Guard.check_eq_ok.1 again

end Desk

end PoolExit
