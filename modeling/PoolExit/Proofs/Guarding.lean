import PoolExit.Exit.Guard
import Mathlib.Tactic.Common

/-!
# What the guard finds

The guard passes a plan if and only if it passes every draft of it (`checkAll_eq_ok`).  If it
refuses the plan, it names the first draft to refuse, in the order of the tasks and in each task
the primary draft before the variants, with all strangers of this draft in order
(`first_of_checkAll`).
-/

namespace PoolExit

/-- Of the accounts that have to sign a draft, only the given one may still be missing. -/
def Draft.AwaitsOnly (owner : Pubkey) (d : Draft) : Prop := ∀ key ∈ d.unsignedSigners, key = owner

namespace Guard

variable {g : Guard} {index : Nat} {task : Task}

lemma check_eq_ok {d : Draft} : g.check index task d = .ok () ↔ g.offenders d = [] := by
  unfold check
  split
  next none => simp [none]
  next some => simpa using some

lemma check_eq_error {d : Draft} {s : Strangers} : g.check index task d = .error s ↔
    g.offenders d ≠ [] ∧ s = ⟨index, task.venue, task.pool, g.offenders d⟩ := by
  unfold check
  split
  next none => simp [none]
  next some =>
    constructor
    · intro h
      exact ⟨some, (Except.error.inj h).symm⟩
    · rintro ⟨-, rfl⟩
      rfl

/-! ## Passing -/

lemma checkDrafts_eq_ok : ∀ {drafts : List Draft},
    g.checkDrafts index task drafts = .ok () ↔ ∀ d ∈ drafts, g.offenders d = []
  | [] => by simp [checkDrafts]
  | d :: rest => by
      rw [checkDrafts, List.forall_mem_cons, ← @checkDrafts_eq_ok rest,
        ← @check_eq_ok g index task d]
      cases g.check index task d <;> simp

lemma checkFrom_eq_ok : ∀ {tasks : List Task} {start : Nat},
    g.checkFrom start tasks = .ok () ↔ ∀ t ∈ tasks, ∀ d ∈ t.drafts, g.offenders d = []
  | [], _ => by simp [checkFrom]
  | t :: rest, start => by
      rw [checkFrom, List.forall_mem_cons, ← @checkFrom_eq_ok rest (start + 1),
        ← @checkDrafts_eq_ok g start t t.drafts]
      cases g.checkDrafts start t t.drafts <;> simp

theorem checkAll_eq_ok {tasks : List Task} :
    g.checkAll tasks = .ok () ↔ ∀ t ∈ tasks, ∀ d ∈ t.drafts, g.offenders d = [] := checkFrom_eq_ok

/-! ## Refusing -/

/-- The draft is the first of a list to be refused. -/
def FirstOf (g : Guard) (drafts : List Draft) (d : Draft) : Prop :=
  g.offenders d ≠ [] ∧ ∃ before after, drafts = before ++ d :: after ∧
    ∀ e ∈ before, g.offenders e = []

/-- The strangers are those of the first draft to be refused: all tasks before its own pass, and so
do all drafts before it in its own task. -/
def First (g : Guard) (tasks : List Task) (s : Strangers) : Prop :=
  ∃ before task after d, tasks = before ++ task :: after ∧
    (∀ t ∈ before, ∀ e ∈ t.drafts, g.offenders e = []) ∧ g.FirstOf task.drafts d ∧
    s = ⟨before.length, task.venue, task.pool, g.offenders d⟩

lemma firstOf_of_checkDrafts {s : Strangers} : ∀ {drafts : List Draft},
    g.checkDrafts index task drafts = .error s →
      ∃ d, g.FirstOf drafts d ∧ s = ⟨index, task.venue, task.pool, g.offenders d⟩
  | [], h => by cases h
  | d :: rest, h => by
      rw [checkDrafts] at h
      cases hd : g.check index task d with
      | error s' =>
          rw [hd] at h
          obtain rfl := Except.error.inj h
          obtain ⟨refused, rfl⟩ := check_eq_error.1 hd
          exact ⟨d, ⟨refused, [], rest, rfl, by simp⟩, rfl⟩
      | ok u =>
          rw [hd] at h
          obtain ⟨e, ⟨refused, before, after, rfl, passed⟩, hs⟩ := firstOf_of_checkDrafts h
          refine ⟨e, ⟨refused, d :: before, after, rfl, ?_⟩, hs⟩
          exact List.forall_mem_cons.2 ⟨check_eq_ok.1 hd, passed⟩

lemma first_of_checkFrom {s : Strangers} : ∀ {tasks : List Task} {start : Nat},
    g.checkFrom start tasks = .error s →
      ∃ before task after d, tasks = before ++ task :: after ∧
        (∀ t ∈ before, ∀ e ∈ t.drafts, g.offenders e = []) ∧ g.FirstOf task.drafts d ∧
        s = ⟨start + before.length, task.venue, task.pool, g.offenders d⟩
  | [], _, h => by cases h
  | t :: rest, start, h => by
      rw [checkFrom] at h
      cases ht : g.checkDrafts start t t.drafts with
      | error s' =>
          rw [ht] at h
          obtain rfl := Except.error.inj h
          obtain ⟨d, first, rfl⟩ := firstOf_of_checkDrafts ht
          exact ⟨[], t, rest, d, rfl, by simp, first, rfl⟩
      | ok u =>
          rw [ht] at h
          obtain ⟨before, task, after, d, rfl, passed, first, rfl⟩ := first_of_checkFrom h
          refine ⟨t :: before, task, after, d, rfl, ?_, first, ?_⟩
          · exact List.forall_mem_cons.2 ⟨checkDrafts_eq_ok.1 ht, passed⟩
          · rw [List.length_cons, Nat.add_assoc, Nat.add_comm 1]

/-- The guard names the first draft that it refuses. -/
theorem first_of_checkAll {tasks : List Task} {s : Strangers} (h : g.checkAll tasks = .error s) :
    g.First tasks s := by
  obtain ⟨before, task, after, d, split, passed, first, rfl⟩ := first_of_checkFrom h
  exact ⟨before, task, after, d, split, passed, first, by rw [Nat.zero_add]⟩

/-! ## The owner's guard -/

lemma offenders_ownerOnly (owner : Pubkey) (d : Draft) :
    (ownerOnly owner).offenders d = d.unsignedSigners.filter fun key => key ≠ owner := by
  unfold offenders ownerOnly
  congr 1
  funext key
  by_cases h : key = owner <;> simp [h]

lemma offenders_ownerOnly_eq_nil {owner : Pubkey} {d : Draft} :
    (ownerOnly owner).offenders d = [] ↔ d.AwaitsOnly owner := by
  rw [offenders_ownerOnly, List.filter_eq_nil_iff]
  simp [Draft.AwaitsOnly]

end Guard

namespace Task

/-- The drafts to try are among the drafts that are looked over. -/
lemma draft_mem_drafts {t : Task} {v : Variant} (h : v ∈ t.attempts) : v.draft ∈ t.drafts := by
  unfold attempts at h
  split at h
  · simp only [List.mem_singleton] at h
    rw [h]
    exact List.mem_cons_self
  · exact List.mem_cons_of_mem _ (List.mem_map_of_mem h)

end Task

end PoolExit
