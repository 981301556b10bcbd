import PoolExit.Proofs.LadderExact
import Mathlib.Order.MinMax

/-!
# Ladders that are raised

A ladder is raised where its ceiling, its factor or its count is raised.  Levels are compared
rather than rungs: a raised ladder may leave out a level that the other one has as a rung, but level
by level it is not below it (`levelBy_le_levelBy`).  The last rung is the last level
(`highest_eq_level`), and the levels of a rising ladder do not go down, so more of them do not make
the last one lower.
-/

namespace PoolExit

namespace FeeLadder

variable {l l' : FeeLadder} {cut : Nat → Nat} {index : Nat}

/-- The second ladder is the first one with nothing lowered, at the same granularity. -/
structure Raised (l l' : FeeLadder) : Prop where
  ceiling : l.ceiling ≤ l'.ceiling
  granularity : l.granularity = l'.granularity
  factorBps : l.factorBps ≤ l'.factorBps
  count : l.count ≤ l'.count

/-- The last rung. -/
def highest (l : FeeLadder) (base : UInt64) : UInt64 :=
  (l.rungs base).getLast (List.cons_ne_nil _ _)

/-! ## Level by level -/

lemma monotone_saturatedCut : Monotone saturated := fun _ _ le => min_le_min_right _ le

/-- From a level that is not below, a raised ladder does not step below. -/
lemma step_le_step (raised : l.Raised l') (mono : Monotone cut) {current current' : Nat}
    (le : current ≤ current') : l.step cut index current ≤ l'.step cut index current' := by
  have ceiling : l.ceiling.toNat ≤ l'.ceiling.toNat := UInt64.le_iff_toNat_le.1 raised.ceiling
  have factor : l.factorBps.toNat ≤ l'.factorBps.toNat := UInt64.le_iff_toNat_le.1 raised.factorBps
  have product : cut (current * l.factorBps.toNat / wholeBps) ≤
      cut (current' * l'.factorBps.toNat / wholeBps) :=
    mono (Nat.div_le_div_right (Nat.mul_le_mul le factor))
  rw [step, step, raised.granularity]
  split
  · exact max_le_max (min_le_min (roundDown_mono product) ceiling) le
  · exact min_le_min product ceiling

theorem levelBy_le_levelBy (raised : l.Raised l') (mono : Monotone cut) {base base' : Nat}
    (le : base ≤ base') : ∀ index, l.levelBy cut base index ≤ l'.levelBy cut base' index
  | 0 => by
      rw [levelBy, levelBy, raised.granularity]
      exact min_le_min (roundDown_mono le) (UInt64.le_iff_toNat_le.1 raised.ceiling)
  | index + 1 => step_le_step raised mono (levelBy_le_levelBy raised mono le index)

/-! ## The last rung -/

/-- From each level on, the last rung is the last level: a level that is left out is the level
before it. -/
lemma getLast?_cons_above (base : UInt64) : ∀ remaining index : Nat,
    (l.level base index :: l.above remaining (index + 1) (l.level base index)).getLast? =
      some (l.level base (index + remaining))
  | 0, _ => rfl
  | remaining + 1, index => by
      have further := getLast?_cons_above base remaining (index + 1)
      have here : l.above (remaining + 1) (index + 1) (l.level base index) =
          if l.level base (index + 1) = l.level base index then
            l.above remaining (index + 2) (l.level base (index + 1))
          else l.level base (index + 1) ::
            l.above remaining (index + 2) (l.level base (index + 1)) := rfl
      rw [Nat.add_right_comm index 1 remaining] at further
      rw [here]
      split
      next same => exact same ▸ further
      next differs => rwa [List.getLast?_cons_cons]

theorem highest_eq_level (l : FeeLadder) (base : UInt64) :
    l.highest base = l.level base (max l.count 1 - 1) := by
  have last := l.getLast?_cons_above base (max l.count 1 - 1) 0
  rw [Nat.zero_add (max l.count 1 - 1)] at last
  exact List.getLast_of_getLast?_eq_some last

/-- Of a rising ladder the last rung is the highest. -/
lemma le_highest (rising : l.Rising) {base fee : UInt64} (mem : fee ∈ l.rungs base) :
    fee ≤ l.highest base := by
  have ordered : (l.rungs base).Pairwise (· ≤ ·) := (rising_rungs rising base).imp UInt64.le_of_lt
  exact ordered.rel_getLast mem

/-- A raised ladder does not end lower. -/
lemma highest_le_highest (rising : l.Rising) (raised : l.Raised l') {base base' : UInt64}
    (le : base ≤ base') : l.highest base ≤ l'.highest base' := by
  have rising' : l'.Rising := rising.trans (UInt64.le_iff_toNat_le.1 raised.factorBps)
  have further : max l.count 1 - 1 ≤ max l'.count 1 - 1 :=
    Nat.sub_le_sub_right (max_le_max_right 1 raised.count) 1
  rw [UInt64.le_iff_toNat_le, highest_eq_level, highest_eq_level, toNat_level, toNat_level]
  calc l.levelBy saturated base.toNat (max l.count 1 - 1)
    _ ≤ l'.levelBy saturated base'.toNat (max l.count 1 - 1) :=
        levelBy_le_levelBy raised monotone_saturatedCut (UInt64.le_iff_toNat_le.1 le) _
    _ ≤ l'.levelBy saturated base'.toNat (max l'.count 1 - 1) :=
        monotone_saturated rising' further

/-! ## The count -/

/-- More rungs come behind the others. -/
lemma above_prefix_above : ∀ {m n : Nat} (index : Nat) (current : UInt64), m ≤ n →
    l.above m index current <+: l.above n index current
  | 0, _, _, _, _ => List.nil_prefix
  | m + 1, n + 1, index, current, le => by
      have further := above_prefix_above (index + 1) (l.next index current)
        (Nat.le_of_succ_le_succ le)
      rw [above, above]
      split
      · exact further
      · exact (List.prefix_cons_inj _).2 further

/-- The count only says how many rungs there may be. -/
lemma above_count (l : FeeLadder) (n : Nat) : ∀ (remaining index : Nat) (current : UInt64),
    { l with count := n }.above remaining index current = l.above remaining index current
  | 0, _, _ => rfl
  | remaining + 1, index, current => by
      have same : { l with count := n }.next index current = l.next index current := rfl
      rw [above, above, same, above_count]

lemma rungs_prefix_rungs (l : FeeLadder) (base : UInt64) {m n : Nat} (le : m ≤ n) :
    { l with count := m }.rungs base <+: { l with count := n }.rungs base := by
  have further : max m 1 - 1 ≤ max n 1 - 1 := Nat.sub_le_sub_right (max_le_max_right 1 le) 1
  rw [rungs, rungs, above_count l m, above_count l n]
  exact (List.prefix_cons_inj _).2 (above_prefix_above 1 _ further)

/-- **Raising a ladder.**  The last rung of a rising ladder is its highest, and it does not become
lower where the base, the ceiling, the factor or the count is raised.  For any factor, a higher
count alone leaves the rungs as they are and adds more behind them. -/
theorem rungs_raised (l : FeeLadder) (base : UInt64) :
    (l.Rising →
      (∀ fee ∈ l.rungs base, fee ≤ l.highest base) ∧
      ∀ (l' : FeeLadder) (base' : UInt64), l.Raised l' → base ≤ base' →
        l.highest base ≤ l'.highest base') ∧
    ∀ m n, m ≤ n → { l with count := m }.rungs base <+: { l with count := n }.rungs base := by
  refine ⟨fun rising => ⟨fun _ => le_highest rising, fun _ _ raised le => ?_⟩, fun _ _ le => ?_⟩
  · exact highest_le_highest rising raised le
  · exact l.rungs_prefix_rungs base le

/-- All four are raised.  Where only the count is, the two rungs that the shorter ladder has come
first. -/
theorem rungs_raised_three :
    let l : FeeLadder := { ceiling := 400000, factorBps := 13500, count := 2 }
    let l' : FeeLadder := { ceiling := 500000, factorBps := 14000, count := 3 }
    l.Rising ∧ l.Raised l' ∧ l.rungs 250000 = [250000, 337500] ∧
      l'.rungs 250999 = [250000, 350000, 490000] ∧ l.highest 250000 ≤ l'.highest 250999 ∧
      { l' with count := 2 }.rungs 250999 <+: l'.rungs 250999 := by
  intro l l'
  have rising : l.Rising := Nat.le_of_ble_eq_true rfl
  have raised : l.Raised l' := ⟨by decide, rfl, by decide, by decide⟩
  obtain ⟨higher, -⟩ := rungs_raised l 250000
  obtain ⟨-, longer⟩ := rungs_raised l' 250999
  exact ⟨rising, raised, by decide, by decide, (higher rising).2 l' 250999 raised (by decide),
    longer 2 3 (by decide)⟩

end FeeLadder

end PoolExit
