import PoolExit.Proofs.Ladder
import Mathlib.Algebra.Group.Nat.Defs
import Mathlib.Data.List.Destutter
import Mathlib.Order.Monotone.Basic

/-!
# The shape of a fee ladder

The rungs of a ladder are its levels without the ones that repeat the level before
(`rungs_eq_destutter`).  So there are no more rungs than levels, and no two neighbours are equal,
whatever the factor.  The levels of a ladder that does not rise never increase, so that no fee comes
twice either way (`nodup_rungs`).  `shape_rungs` says what a ladder looks like for all parameters.

All numbers of the computation have a fixed width.  `rungs?` is the same computation where each
operation has a result only if it is exact: it always has one, and it is the ladder.
-/

namespace PoolExit

namespace FeeLadder

variable {l : FeeLadder}

/-! ## Levels -/

/-- The level of an index, from which a rung is made unless it repeats the level before. -/
def level (l : FeeLadder) (base : UInt64) : Nat → UInt64
  | 0 => l.first base
  | index + 1 => l.next (index + 1) (l.level base index)

/-- As many levels as the ladder may have. -/
def levels (l : FeeLadder) (base : UInt64) : List UInt64 :=
  (List.range (max l.count 1)).map (l.level base)

/-- From each level on, the ladder is made of the levels that follow. -/
lemma cons_above_eq (base : UInt64) : ∀ remaining index : Nat,
    l.level base index :: l.above remaining (index + 1) (l.level base index) =
      ((List.range' (index + 1) remaining).map (l.level base)).destutter' (· ≠ ·)
        (l.level base index)
  | 0, _ => rfl
  | remaining + 1, index => by
      have further := cons_above_eq base remaining (index + 1)
      have here : l.above (remaining + 1) (index + 1) (l.level base index) =
          if l.level base (index + 1) = l.level base index then
            l.above remaining (index + 2) (l.level base (index + 1))
          else l.level base (index + 1) ::
            l.above remaining (index + 2) (l.level base (index + 1)) := rfl
      rw [here, List.range'_succ, List.map_cons, List.destutter'_cons]
      by_cases same : l.level base (index + 1) = l.level base index
      · rw [if_pos same, if_neg (not_not.2 same.symm), ← same]
        exact further
      · rw [if_neg same, if_pos (Ne.symm same)]
        exact congrArg _ further

/-- The rungs are the levels without the ones that repeat the level before. -/
theorem rungs_eq_destutter (l : FeeLadder) (base : UInt64) :
    l.rungs base = (l.levels base).destutter (· ≠ ·) := by
  obtain ⟨further, count⟩ := Nat.exists_eq_add_of_le' (Nat.le_max_right l.count 1)
  rw [rungs, levels, count, List.range_eq_range', List.range'_succ, List.map_cons,
    List.destutter_cons', Nat.add_sub_cancel]
  exact cons_above_eq base further 0

lemma length_rungs_le (l : FeeLadder) (base : UInt64) :
    (l.rungs base).length ≤ max l.count 1 := by
  rw [rungs_eq_destutter]
  refine (List.destutter_sublist _ _).length_le.trans (Nat.le_of_eq ?_)
  rw [levels, List.length_map, List.length_range]

lemma isChain_rungs (l : FeeLadder) (base : UInt64) : (l.rungs base).IsChain (· ≠ ·) := by
  rw [rungs_eq_destutter]
  exact List.isChain_destutter _ _

/-! ## Readings as numbers -/

/-- A number rounded down to a multiple of the granularity; a granularity of zero rounds nothing. -/
def roundDown (granularity n : Nat) : Nat :=
  if granularity = 0 then n else n / granularity * granularity

lemma toNat_floor (l : FeeLadder) (fee : UInt64) :
    (l.floor fee).toNat = roundDown l.granularity.toNat fee.toNat := by
  have zero : l.granularity = 0 ↔ l.granularity.toNat = 0 := UInt64.toNat_inj.symm
  rw [floor, roundDown]
  by_cases none : l.granularity = 0
  · rw [if_pos none, if_pos (zero.1 none)]
  · have less : fee % l.granularity ≤ fee := by
      rw [UInt64.le_iff_toNat_le, UInt64.toNat_mod]
      exact Nat.mod_le _ _
    rw [if_neg none, if_neg (mt zero.2 none), UInt64.toNat_sub_of_le _ _ less, UInt64.toNat_mod,
      Nat.div_mul_self_eq_mod_sub_self]

lemma toNat_scaled (l : FeeLadder) (fee : UInt64) :
    (l.scaled fee).toNat = min (fee.toNat * l.factorBps.toNat / wholeBps) Text.maxUInt64 :=
  UInt64.toNat_ofNat_of_lt' (Nat.lt_of_le_of_lt (Nat.min_le_right _ _) (by decide))

lemma toNat_first (l : FeeLadder) (base : UInt64) :
    (l.first base).toNat = min (roundDown l.granularity.toNat base.toNat) l.ceiling.toNat := by
  rw [first, UInt64.toNat_min, toNat_floor]

/-! ## Ladders that do not rise -/

/-- A factor below one whole makes no fee larger, and a level at an even index is not below the
level before it, so such a ladder never leads up. -/
lemma next_le (falling : ¬ l.Rising) (index : Nat) (current : UInt64) :
    l.next index current ≤ current := by
  have scaled : (l.scaled current).toNat ≤ current.toNat := by
    rw [toNat_scaled]
    refine (Nat.min_le_left _ _).trans (Nat.div_le_of_le_mul ?_)
    rw [Nat.mul_comm]
    exact Nat.mul_le_mul_right _ (Nat.le_of_not_le falling)
  have floored : (l.floor (l.scaled current)).toNat ≤ current.toNat := by
    rw [toNat_floor, roundDown]
    split
    · exact scaled
    · exact (Nat.div_mul_le_self _ _).trans scaled
  rw [UInt64.le_iff_toNat_le, next]
  split
  · rw [UInt64.toNat_max, UInt64.toNat_min]
    exact Nat.max_le.2 ⟨(Nat.min_le_left _ _).trans floored, Nat.le_refl _⟩
  · rw [UInt64.toNat_min]
    exact (Nat.min_le_left _ _).trans scaled

/-- No fee comes twice, whatever the factor. -/
theorem nodup_rungs (l : FeeLadder) (base : UInt64) : (l.rungs base).Nodup := by
  by_cases rising : l.Rising
  · exact (rising_rungs rising base).imp UInt64.ne_of_lt
  · have falls : Antitone fun index => (l.level base index).toNat :=
      antitone_nat_of_succ_le fun index => UInt64.le_iff_toNat_le.1 (next_le rising _ _)
    have ordered : (l.levels base).Pairwise fun a b => b ≤ a :=
      List.pairwise_map.2 (List.pairwise_lt_range.imp fun lt =>
        UInt64.le_iff_toNat_le.2 (falls (Nat.le_of_lt lt)))
    have : Std.Antisymm fun a b : UInt64 => b ≤ a := ⟨fun _ _ le ge => UInt64.le_antisymm ge le⟩
    rw [rungs_eq_destutter, ordered.destutter_eq_dedup]
    exact List.nodup_dedup _

/-! ## Arithmetic that has to fit -/

/-- A number of a width, if it fits. -/
def fit? (width n : Nat) : Option Nat := if n < 2 ^ width then some n else none

/-- A difference, unless it is negative. -/
def difference? (a b : Nat) : Option Nat := if b ≤ a then some (a - b) else none

/-- A quotient, unless the divisor is zero. -/
def quotient? (a b : Nat) : Option Nat := if b = 0 then none else some (a / b)

/-- A remainder, unless the divisor is zero. -/
def remainder? (a b : Nat) : Option Nat := if b = 0 then none else some (a % b)

/-- A fee rounded down, if nothing overflows. -/
def floor? (l : FeeLadder) (fee : Nat) : Option Nat :=
  if l.granularity.toNat = 0 then some fee
  else do difference? fee (← remainder? fee l.granularity.toNat)

/-- A fee times the factor, if nothing overflows 128 bits; the quotient is capped to 64. -/
def scaled? (l : FeeLadder) (fee : Nat) : Option Nat := do
  let product ← fit? 128 (fee * l.factorBps.toNat)
  let raised ← quotient? product wholeBps
  return (fit? 64 raised).getD Text.maxUInt64

/-- The rung of an index above the first, if nothing overflows. -/
def next? (l : FeeLadder) (index current : Nat) : Option Nat := do
  let raised ← l.scaled? current
  if index % 2 = 0 then return max (min (← l.floor? raised) l.ceiling.toNat) current
  else return min raised l.ceiling.toNat

/-- The rungs from an index on, if nothing overflows. -/
def above? (l : FeeLadder) : (remaining index current : Nat) → Option (List Nat)
  | 0, _, _ => some []
  | remaining + 1, index, current => do
    let fee ← l.next? index current
    let further ← l.above? remaining (index + 1) fee
    return if fee = current then further else fee :: further

/-- The fees of all rungs, if nothing overflows. -/
def rungs? (l : FeeLadder) (base : Nat) : Option (List Nat) := do
  let start := min (← l.floor? base) l.ceiling.toNat
  return start :: (← l.above? (max l.count 1 - 1) 1 start)

/-- Rounding down neither divides by zero nor goes below it. -/
lemma floor?_toNat (l : FeeLadder) (fee : UInt64) :
    l.floor? fee.toNat = some (l.floor fee).toNat := by
  rw [toNat_floor, floor?, roundDown]
  split
  · rfl
  next some =>
    have less : fee.toNat % l.granularity.toNat ≤ fee.toNat := Nat.mod_le _ _
    simp [remainder?, difference?, some, less, Nat.div_mul_self_eq_mod_sub_self]

/-- Two numbers of 64 bits have a product of 128. -/
lemma scaled?_toNat (l : FeeLadder) (fee : UInt64) :
    l.scaled? fee.toNat = some (l.scaled fee).toNat := by
  have small : fee.toNat * l.factorBps.toNat < 2 ^ 128 :=
    calc fee.toNat * l.factorBps.toNat
      _ < 2 ^ 64 * 2 ^ 64 := Nat.mul_lt_mul'' fee.toNat_lt l.factorBps.toNat_lt
      _ = 2 ^ 128 := by decide
  have fits : fit? 128 (fee.toNat * l.factorBps.toNat) =
      some (fee.toNat * l.factorBps.toNat) := if_pos small
  have capped : ∀ n, (fit? 64 n).getD Text.maxUInt64 = min n Text.maxUInt64 := by
    intro n
    rw [fit?, Text.maxUInt64]
    split <;> simp only [Option.getD_some, Option.getD_none] <;> omega
  have divided : ∀ n, quotient? n wholeBps = some (n / wholeBps) := fun n => if_neg (by decide)
  simp [scaled?, fits, divided, capped, toNat_scaled]

lemma next?_toNat (l : FeeLadder) (index : Nat) (current : UInt64) :
    l.next? index current.toNat = some (l.next index current).toNat := by
  rw [next?, scaled?_toNat, next]
  split
  · simp [floor?_toNat, UInt64.toNat_max, UInt64.toNat_min]
  · simp [UInt64.toNat_min]

lemma above?_toNat (l : FeeLadder) : ∀ (remaining index : Nat) (current : UInt64),
    l.above? remaining index current.toNat =
      some ((l.above remaining index current).map UInt64.toNat)
  | 0, _, _ => rfl
  | remaining + 1, index, current => by
      rw [above?, next?_toNat, above]
      by_cases same : l.next index current = current
      · simp [above?_toNat, same]
      · simp [above?_toNat, same, UInt64.toNat_inj]

/-- Nothing overflows on the way to the rungs. -/
lemma rungs?_toNat (l : FeeLadder) (base : UInt64) :
    l.rungs? base.toNat = some ((l.rungs base).map UInt64.toNat) := by
  have start : min (l.floor base).toNat l.ceiling.toNat = (l.first base).toNat :=
    (UInt64.toNat_min _ _).symm
  simp [rungs?, rungs, floor?_toNat, start, above?_toNat]

/-! ## The shape -/

/-- What a ladder looks like: where it begins, how many rungs it has and between which bounds, and
that the computation of its rungs is exact. -/
structure Shape (l : FeeLadder) (base : UInt64) (fees : List UInt64) : Prop where
  first : fees.head?.map UInt64.toNat =
    some (min (roundDown l.granularity.toNat base.toNat) l.ceiling.toNat)
  few : fees.length ≤ max l.count 1
  capped : ∀ fee ∈ fees, fee ≤ l.ceiling
  distinct : fees.IsChain (· ≠ ·)
  rising : l.Rising → fees.Pairwise (· < ·)
  exact : l.rungs? base.toNat = some (fees.map UInt64.toNat)

/-- **The shape of a fee ladder.**  For all parameters there is a first rung, the base rounded down
and capped; there are no more rungs than wanted; none is above the ceiling, and none is equal to the
one before.  With a factor of one whole or more they strictly increase.  On the way to them nothing
overflows, no difference is negative and no divisor is zero. -/
theorem shape_rungs (l : FeeLadder) (base : UInt64) : l.Shape base (l.rungs base) where
  first := congrArg some (l.toNat_first base)
  few := l.length_rungs_le base
  capped := fun _ => le_ceiling_of_mem_rungs
  distinct := l.isChain_rungs base
  rising := fun rising => rising_rungs rising base
  exact := l.rungs?_toNat base

/-- The largest factor and a base near the largest number: four levels make two rungs. -/
theorem shape_rungs_largest_factor :
    let l : FeeLadder :=
      { ceiling := 18446744073709551615, factorBps := 18446744073709551615, count := 4 }
    l.Rising ∧ (l.rungs 18446744073709550999).Pairwise (· < ·) ∧
      l.rungs 18446744073709550999 = [18446744073709550000, 18446744073709551615] := by
  intro l
  have rising : l.Rising := by
    unfold Rising
    decide
  exact ⟨rising, (shape_rungs l 18446744073709550999).rising rising, by decide⟩

end FeeLadder

end PoolExit
