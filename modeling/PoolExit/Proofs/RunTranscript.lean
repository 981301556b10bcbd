import PoolExit.Proofs.Transcript

/-!
# Transcripts of runs and attempts

A `Run` keeps a board and an `Attempt` may fail.  `Run.Goes` says which turns a run goes through
from one board to another; its laws are those of `Talk.Goes`, with the board handed on.  For an
attempt, a sequence goes on after a first part that succeeds and ends with a first part that fails
(`goes_run_bind`).
-/

namespace PoolExit

namespace Run

variable {α β : Type}

/-- From the board `b` the run goes through the turns to the result, and leaves the board `b'`. -/
def Goes (p : Run α) (b : Board) (ts : List Turn) (a : α) (b' : Board) : Prop :=
  Talk.Goes (p.run b) ts (a, b')

@[simp] lemma goes_pure {a c : α} {b b' : Board} {ts : List Turn} :
    Goes (pure a) b ts c b' ↔ ts = [] ∧ a = c ∧ b = b' := by
  simp [Goes, StateT.run_pure]

lemma goes_bind {p : Run α} {f : α → Run β} {b b' : Board} {ts : List Turn} {c : β} :
    Goes (p >>= f) b ts c b' ↔
      ∃ a b₁ us vs, ts = us ++ vs ∧ Goes p b us a b₁ ∧ Goes (f a) b₁ vs c b' := by
  rw [Goes, StateT.run_bind, Talk.goes_bind]
  constructor
  · rintro ⟨⟨a, b₁⟩, us, vs, h⟩
    exact ⟨a, b₁, us, vs, h⟩
  · rintro ⟨a, b₁, us, vs, h⟩
    exact ⟨(a, b₁), us, vs, h⟩

@[simp] lemma goes_lift {p : Talk α} {b b' : Board} {ts : List Turn} {a : α} :
    Goes (liftM p : Run α) b ts a b' ↔ Talk.Goes p ts a ∧ b = b' := by
  have run : (liftM p : Run α).run b = p >>= fun a => pure (a, b) := rfl
  rw [Goes, run, Talk.goes_bind]
  constructor
  · rintro ⟨c, us, vs, rfl, h, rfl, hc⟩
    obtain ⟨rfl, rfl⟩ := Prod.mk.inj hc
    exact ⟨by simpa using h, rfl⟩
  · rintro ⟨h, rfl⟩
    exact ⟨a, ts, [], by simp, h, rfl, rfl⟩

@[simp] lemma goes_get {b c b' : Board} {ts : List Turn} :
    Goes (get : Run Board) b ts c b' ↔ ts = [] ∧ b = c ∧ b = b' := by
  have run : (get : Run Board).run b = pure (b, b) := rfl
  simp [Goes, run]

/-- Changing the board shows it. -/
@[simp] lemma goes_post {change : Board → Board} {b b' : Board} {ts : List Turn} {u : Unit} :
    Goes (post change) b ts u b' ↔ ∃ x, ts = [⟨.publish (change b), (), x⟩] ∧ b' = change b := by
  have run : (post change).run b = Talk.publish (change b) >>= fun _ => pure ((), change b) := rfl
  rw [Goes, run, Talk.goes_bind]
  constructor
  · rintro ⟨c, us, vs, rfl, h, rfl, hc⟩
    obtain ⟨x, rfl⟩ := Talk.goes_publish.1 h
    exact ⟨x, rfl, (Prod.mk.inj hc).2.symm⟩
  · rintro ⟨x, rfl, rfl⟩
    exact ⟨(), _, [], rfl, Talk.goes_publish.2 ⟨x, rfl⟩, rfl, rfl⟩

@[simp] lemma goes_update {index : Nat} {change : Item → Item} {b b' : Board} {ts : List Turn}
    {u : Unit} : Goes (update index change) b ts u b' ↔
      ∃ x, ts = [⟨.publish (b.update index change), (), x⟩] ∧ b' = b.update index change :=
  goes_post

/-- An item that fails is reported and then shown. -/
@[simp] lemma goes_fail {index : Nat} {task : Task} {reason : String} {b b' : Board}
    {ts : List Turn} {u : Unit} : Goes (fail index task reason) b ts u b' ↔
      ∃ x y, ts = [⟨.note (.failed index task reason), (), x⟩,
          ⟨.publish (b.update index fun i => (i.fail reason).2), (), y⟩] ∧
        b' = b.update index fun i => (i.fail reason).2 := by
  rw [fail, goes_bind]
  constructor
  · rintro ⟨a, b₁, us, vs, rfl, h₁, h₂⟩
    obtain ⟨noted, rfl⟩ := goes_lift.1 h₁
    obtain ⟨x, rfl⟩ := Talk.goes_note.1 noted
    obtain ⟨y, rfl, rfl⟩ := goes_update.1 h₂
    exact ⟨x, y, rfl, rfl⟩
  · rintro ⟨x, y, rfl, rfl⟩
    exact ⟨(), b, [_], [_], rfl, goes_lift.2 ⟨Talk.goes_note.2 ⟨x, rfl⟩, rfl⟩,
      goes_update.2 ⟨y, rfl, rfl⟩⟩

/-! ## Attempts -/

/-- An attempt in two parts goes on after a success of the first and ends with its failure. -/
theorem goes_run_bind {p : Attempt α} {f : α → Attempt β} {b b' : Board} {ts : List Turn}
    {r : Except ExitError β} : Goes (p >>= f).run b ts r b' ↔
      (∃ a b₁ us vs, ts = us ++ vs ∧ Goes p.run b us (.ok a) b₁ ∧ Goes (f a).run b₁ vs r b') ∨
        ∃ e, r = .error e ∧ Goes p.run b ts (.error e) b' := by
  rw [ExceptT.run_bind, goes_bind]
  constructor
  · rintro ⟨a | a, b₁, us, vs, rfl, h₁, h₂⟩
    · obtain ⟨rfl, rfl, rfl⟩ := goes_pure.1 h₂
      exact .inr ⟨a, rfl, by simpa using h₁⟩
    · exact .inl ⟨a, b₁, us, vs, rfl, h₁, h₂⟩
  · rintro (⟨a, b₁, us, vs, rfl, h₁, h₂⟩ | ⟨e, rfl, h⟩)
    · exact ⟨.ok a, b₁, us, vs, rfl, h₁, h₂⟩
    · exact ⟨.error e, b', ts, [], by simp, h, goes_pure.2 ⟨rfl, rfl, rfl⟩⟩

@[simp] lemma goes_run_pure {a : α} {b b' : Board} {ts : List Turn} {r : Except ExitError α} :
    Goes (pure a : Attempt α).run b ts r b' ↔ ts = [] ∧ .ok a = r ∧ b = b' := goes_pure

@[simp] lemma goes_run_throw {e : ExitError} {b b' : Board} {ts : List Turn}
    {r : Except ExitError α} :
    Goes (throw e : Attempt α).run b ts r b' ↔ ts = [] ∧ .error e = r ∧ b = b' := goes_pure

/-- A part that cannot fail succeeds. -/
@[simp] lemma goes_run_lift {p : Run α} {b b' : Board} {ts : List Turn} {r : Except ExitError α} :
    Goes (liftM p : Attempt α).run b ts r b' ↔ ∃ a, r = .ok a ∧ Goes p b ts a b' := by
  have run : (liftM p : Attempt α).run = p >>= fun a => pure (.ok a) := rfl
  rw [run, goes_bind]
  constructor
  · rintro ⟨a, b₁, us, vs, rfl, h, h'⟩
    obtain ⟨rfl, rfl, rfl⟩ := goes_pure.1 h'
    exact ⟨a, rfl, by simpa using h⟩
  · rintro ⟨a, rfl, h⟩
    exact ⟨a, b', ts, [], by simp, h, goes_pure.2 ⟨rfl, rfl, rfl⟩⟩

lemma goes_run_lift_bind {p : Run α} {f : α → Attempt β} {b b' : Board} {ts : List Turn}
    {r : Except ExitError β} : Goes (liftM p >>= f).run b ts r b' ↔
      ∃ a b₁ us vs, ts = us ++ vs ∧ Goes p b us a b₁ ∧ Goes (f a).run b₁ vs r b' := by
  rw [goes_run_bind]
  constructor
  · rintro (⟨a, b₁, us, vs, rfl, h₁, h₂⟩ | ⟨e, rfl, h⟩)
    · obtain ⟨c, hc, lifted⟩ := goes_run_lift.1 h₁
      obtain rfl := Except.ok.inj hc
      exact ⟨a, b₁, us, vs, rfl, lifted, h₂⟩
    · obtain ⟨_, he, -⟩ := goes_run_lift.1 h
      cases he
  · rintro ⟨a, b₁, us, vs, rfl, h₁, h₂⟩
    exact .inl ⟨a, b₁, us, vs, rfl, goes_run_lift.2 ⟨a, rfl, h₁⟩, h₂⟩

/-- An attempt goes on after an answer of the ledger and ends with its failure. -/
lemma goes_ledger_bind {p : Talk (Except LedgerError α)} {f : α → Attempt β} {b b' : Board}
    {ts : List Turn} {r : Except ExitError β} : Goes (ledger p >>= f).run b ts r b' ↔
      (∃ a us vs, ts = us ++ vs ∧ Talk.Goes p us (.ok a) ∧ Goes (f a).run b vs r b') ∨
        ∃ e, Talk.Goes p ts (.error e) ∧ r = .error (.ledger e) ∧ b = b' := by
  rw [ledger, bind_assoc, goes_run_lift_bind]
  constructor
  · rintro ⟨answer, b₁, us, vs, rfl, h₁, h₂⟩
    obtain ⟨asked, rfl⟩ := goes_lift.1 h₁
    cases answer with
    | ok a => exact .inl ⟨a, us, vs, rfl, asked, by simpa using h₂⟩
    | error e =>
        obtain ⟨rfl, rfl, rfl⟩ := goes_run_throw.1 h₂
        exact .inr ⟨e, by simpa using asked, rfl, rfl⟩
  · rintro (⟨a, us, vs, rfl, h₁, h₂⟩ | ⟨e, h, rfl, rfl⟩)
    · exact ⟨.ok a, b, us, vs, rfl, goes_lift.2 ⟨h₁, rfl⟩, by simpa using h₂⟩
    · exact ⟨.error e, b, ts, [], by simp, goes_lift.2 ⟨h, rfl⟩, goes_run_throw.2 ⟨rfl, rfl, rfl⟩⟩

end Run

end PoolExit
