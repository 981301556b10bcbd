import PoolExit.Settings.Load
import Mathlib.Tactic.Lemma

/-!
# How the fee ladder rises

No rung of a ladder is above its ceiling, whatever its factor.  Where the factor is at least one
whole, a ladder never leads down, and as equal rungs are left out, its rungs strictly increase.
Settings that are accepted have such a factor.
-/

namespace PoolExit

namespace FeeLadder

variable {l : FeeLadder} {current fee : UInt64}

/-- A ladder that never leads down. -/
def Rising (l : FeeLadder) : Prop := wholeBps ≤ l.factorBps.toNat

/-! ## The ceiling -/

lemma max_eq (a b : UInt64) : max a b = if a ≤ b then b else a := rfl

lemma first_le_ceiling (l : FeeLadder) (base : UInt64) : l.first base ≤ l.ceiling :=
  Std.min_le_right

lemma next_le_ceiling (index : Nat) (below : current ≤ l.ceiling) :
    l.next index current ≤ l.ceiling := by
  unfold next
  split
  · rw [max_eq]
    split
    · exact below
    · exact Std.min_le_right
  · exact Std.min_le_right

lemma le_ceiling_of_mem_above : ∀ {remaining index : Nat} {current : UInt64},
    current ≤ l.ceiling → fee ∈ l.above remaining index current → fee ≤ l.ceiling
  | 0, _, _, _, mem => by simp [above] at mem
  | remaining + 1, index, current, below, mem => by
      have next := next_le_ceiling index below
      rw [above] at mem
      split at mem
      · exact le_ceiling_of_mem_above next mem
      · rcases List.mem_cons.1 mem with rfl | later
        · exact next
        · exact le_ceiling_of_mem_above next later

/-- No rung is above the ceiling. -/
lemma le_ceiling_of_mem_rungs {base : UInt64} (mem : fee ∈ l.rungs base) : fee ≤ l.ceiling := by
  rcases List.mem_cons.1 mem with rfl | later
  · exact l.first_le_ceiling base
  · exact le_ceiling_of_mem_above (l.first_le_ceiling base) later

/-! ## Rising ladders -/

/-- A factor of one whole or more makes no fee smaller. -/
lemma le_scaled (rising : l.Rising) (fee : UInt64) : fee ≤ l.scaled fee := by
  have grows : fee.toNat ≤ fee.toNat * l.factorBps.toNat / wholeBps := by
    refine (Nat.le_div_iff_mul_le (by decide)).2 (Nat.mul_le_mul_left _ rising)
  have fits : fee.toNat ≤ Text.maxUInt64 := Nat.le_of_lt_succ fee.toNat_lt
  have small : min (fee.toNat * l.factorBps.toNat / wholeBps) Text.maxUInt64 < 2 ^ 64 :=
    Nat.lt_of_le_of_lt (Nat.min_le_right _ _) (by decide)
  rw [UInt64.le_iff_toNat_le, scaled, UInt64.toNat_ofNat_of_lt' small]
  exact Nat.le_min.2 ⟨grows, fits⟩

lemma le_next (rising : l.Rising) (index : Nat) (below : current ≤ l.ceiling) :
    current ≤ l.next index current := by
  unfold next
  split
  · rw [max_eq]
    split
    next => exact UInt64.le_refl _
    next higher => exact UInt64.le_of_lt (UInt64.not_le.1 higher)
  · exact Std.le_min_iff.2 ⟨le_scaled rising current, below⟩

/-- From each rung on the ladder leads up. -/
lemma rising_above (rising : l.Rising) : ∀ {remaining index : Nat} {current : UInt64},
    current ≤ l.ceiling → (current :: l.above remaining index current).Pairwise (· < ·)
  | 0, _, _, _ => by simp [above]
  | remaining + 1, index, current, below => by
      have up := le_next rising index below
      have further : (l.next index current ::
          l.above remaining (index + 1) (l.next index current)).Pairwise (· < ·) :=
        rising_above rising (next_le_ceiling index below)
      rw [above]
      split
      next same => rwa [same] at further ⊢
      next differs =>
        have higher : current < l.next index current :=
          UInt64.lt_of_le_of_ne up (Ne.symm differs)
        refine List.pairwise_cons.2 ⟨fun fee mem => ?_, further⟩
        rcases List.mem_cons.1 mem with rfl | later
        · exact higher
        · exact UInt64.lt_trans higher ((List.pairwise_cons.1 further).1 fee later)

/-- The rungs of a rising ladder strictly increase. -/
lemma rising_rungs (rising : l.Rising) (base : UInt64) : (l.rungs base).Pairwise (· < ·) :=
  rising_above rising (l.first_le_ceiling base)

end FeeLadder

namespace Settings

/-- Settings that are accepted have a rising ladder. -/
lemma rising_ladder {s : Settings} (valid : s.validate = .ok ()) : s.ladder.Rising := by
  by_cases small : s.exit.escalationFactorBps < 10000
  · have fault : s.fault?.isSome = true := by
      by_cases none : s.exit.variantCount = 0 <;> simp [fault?, exitFault?, none, small]
    obtain ⟨⟨field, reason⟩, found⟩ := Option.isSome_iff_exists.1 fault
    rw [validate, found] at valid
    cases valid
  · exact UInt64.le_iff_toNat_le.1 (UInt64.not_lt.1 small)

/-- Settings from a file have a rising ladder. -/
theorem rising_ladder_of_ofFile {path text : String} {s : Settings}
    (loaded : ofFile path text = .ok s) : s.ladder.Rising := by
  unfold ofFile at loaded
  split at loaded
  · cases loaded
  · split at loaded
    · cases loaded
    next valid =>
      obtain rfl := Except.ok.inj loaded
      exact rising_ladder valid

/-- The settings that are used without a file have a rising ladder. -/
example : ({} : Settings).ladder.Rising := by
  unfold FeeLadder.Rising
  decide

end Settings

end PoolExit
