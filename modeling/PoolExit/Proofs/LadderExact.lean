import PoolExit.Proofs.LadderShape
import Mathlib.Data.List.Sort

/-!
# The fee ladder in exact arithmetic

`rungsBy` is the ladder over unbounded numbers, with one thing left open: what becomes of a product
before it is rounded down.  The rungs are those for products that are cut to the largest number of
64 bits (`map_toNat_rungs`).

As the ceiling has 64 bits too, a cut is mostly made up for by the ceiling.  It is not where the
rounding comes in between: the largest number of 64 bits, rounded down, can be below the ceiling,
while the product, rounded down, is above it (`Short`).  Then an even level stays below the ceiling
that it ought to reach.  The step after it reaches it, so this happens only once, and
`rungs_exact` says when it can be seen in the rungs.
-/

namespace PoolExit

namespace FeeLadder

open Text (maxUInt64)

variable {l : FeeLadder} {cut : Nat → Nat} {base index current i j : Nat}

/-! ## Ladders over unbounded numbers -/

/-- The level of an index from the level before it.  `cut` is what becomes of the product. -/
def step (l : FeeLadder) (cut : Nat → Nat) (index current : Nat) : Nat :=
  let raised := cut (current * l.factorBps.toNat / wholeBps)
  if index % 2 = 0 then max (min (roundDown l.granularity.toNat raised) l.ceiling.toNat) current
  else min raised l.ceiling.toNat

/-- The level of an index. -/
def levelBy (l : FeeLadder) (cut : Nat → Nat) (base : Nat) : Nat → Nat
  | 0 => min (roundDown l.granularity.toNat base) l.ceiling.toNat
  | index + 1 => l.step cut (index + 1) (l.levelBy cut base index)

/-- As many levels as the ladder may have. -/
def levelsBy (l : FeeLadder) (cut : Nat → Nat) (base : Nat) : List Nat :=
  (List.range (max l.count 1)).map (l.levelBy cut base)

/-- The levels without the ones that repeat the level before. -/
def rungsBy (l : FeeLadder) (cut : Nat → Nat) (base : Nat) : List Nat :=
  (l.levelsBy cut base).destutter (· ≠ ·)

/-- A product as it is. -/
def unbounded (n : Nat) : Nat := n

/-- A product cut to the largest number of 64 bits. -/
def saturated (n : Nat) : Nat := min n maxUInt64

/-! ## The ladder cuts its products -/

lemma toNat_next (l : FeeLadder) (index : Nat) (current : UInt64) :
    (l.next index current).toNat = l.step saturated index current.toNat := by
  rw [next, step]
  split
  · rw [UInt64.toNat_max, UInt64.toNat_min, toNat_floor, toNat_scaled, saturated]
  · rw [UInt64.toNat_min, toNat_scaled, saturated]

lemma toNat_level (l : FeeLadder) (base : UInt64) : ∀ index : Nat,
    (l.level base index).toNat = l.levelBy saturated base.toNat index
  | 0 => l.toNat_first base
  | index + 1 => by rw [level, toNat_next, toNat_level l base index, levelBy]

/-- The rungs are those of exact arithmetic, but for products cut to 64 bits. -/
theorem map_toNat_rungs (l : FeeLadder) (base : UInt64) :
    (l.rungs base).map UInt64.toNat = l.rungsBy saturated base.toNat := by
  have injective : Function.Injective UInt64.toNat := fun _ _ => UInt64.toNat_inj.1
  rw [rungs_eq_destutter, List.map_destutter_ne _ injective, rungsBy, levels, levelsBy,
    List.map_map]
  congr 1
  exact List.map_congr_left fun index _ => l.toNat_level base index

/-! ## Steps -/

/-- The step to an even level falls short of the ceiling: the product is beyond 64 bits even when
rounded down, but the largest number of 64 bits is below the ceiling when rounded down. -/
structure Short (l : FeeLadder) (index current : Nat) : Prop where
  even : index % 2 = 0
  below : current < l.ceiling.toNat
  beyond : maxUInt64 < roundDown l.granularity.toNat (current * l.factorBps.toNat / wholeBps)
  off : roundDown l.granularity.toNat maxUInt64 < l.ceiling.toNat

lemma ceiling_le (l : FeeLadder) : l.ceiling.toNat ≤ maxUInt64 :=
  Nat.le_of_lt_succ l.ceiling.toNat_lt

lemma roundDown_le (g n : Nat) : roundDown g n ≤ n := by
  rw [roundDown]
  split
  · exact Nat.le_refl n
  · exact Nat.div_mul_le_self n g

lemma roundDown_mono {g m n : Nat} (le : m ≤ n) : roundDown g m ≤ roundDown g n := by
  rw [roundDown, roundDown]
  split
  · exact le
  · exact Nat.mul_le_mul_right g (Nat.div_le_div_right le)

/-- A multiple that is not above a number is not above the number rounded down. -/
lemma roundDown_le_roundDown {g m n : Nat} (le : roundDown g n ≤ m) :
    roundDown g n ≤ roundDown g m := by
  rw [roundDown] at le ⊢
  rw [roundDown]
  split
  next zero => rwa [if_pos zero] at le
  next some =>
    rw [if_neg some] at le
    exact Nat.mul_le_mul_right g ((Nat.le_div_iff_mul_le (Nat.pos_of_ne_zero some)).2 le)

/-- A step that falls short misses the ceiling. -/
lemma Short.step_unbounded (short : l.Short index current) :
    l.step unbounded index current = l.ceiling.toNat := by
  have above : l.ceiling.toNat ≤
      roundDown l.granularity.toNat (current * l.factorBps.toNat / wholeBps) :=
    l.ceiling_le.trans (Nat.le_of_lt short.beyond)
  rw [step, if_pos short.even, unbounded, Nat.min_eq_right above,
    Nat.max_eq_left (Nat.le_of_lt short.below)]

lemma Short.step_saturated (short : l.Short index current) :
    l.step saturated index current = max (roundDown l.granularity.toNat maxUInt64) current := by
  have beyond : maxUInt64 ≤ current * l.factorBps.toNat / wholeBps :=
    (Nat.le_of_lt short.beyond).trans (roundDown_le _ _)
  rw [step, if_pos short.even, saturated, Nat.min_eq_right beyond,
    Nat.min_eq_left (Nat.le_of_lt short.off)]

/-- A step that does not fall short is exact. -/
lemma step_saturated_eq (unshort : ¬ l.Short index current) :
    l.step saturated index current = l.step unbounded index current := by
  have small := l.ceiling_le
  rw [step, step, saturated, unbounded]
  generalize product : current * l.factorBps.toNat / wholeBps = raised
  by_cases fits : raised ≤ maxUInt64
  · rw [Nat.min_eq_left fits]
  · rw [Nat.min_eq_right (Nat.le_of_not_le fits)]
    have lower : roundDown l.granularity.toNat maxUInt64 ≤ roundDown l.granularity.toNat raised :=
      roundDown_mono (Nat.le_of_not_le fits)
    have upper : roundDown l.granularity.toNat raised ≤ maxUInt64 →
        roundDown l.granularity.toNat raised ≤ roundDown l.granularity.toNat maxUInt64 :=
      roundDown_le_roundDown
    split
    next even =>
      have spared : ¬ (current < l.ceiling.toNat ∧
          maxUInt64 < roundDown l.granularity.toNat raised ∧
          roundDown l.granularity.toNat maxUInt64 < l.ceiling.toNat) :=
        fun ⟨below, beyond, off⟩ => unshort ⟨even, below, product ▸ beyond, off⟩
      omega
    next odd => omega

/-! ## Levels -/

lemma levelBy_le_ceiling (cut : Nat → Nat) (base : Nat) :
    ∀ index, l.levelBy cut base index ≤ l.ceiling.toNat
  | 0 => Nat.min_le_right _ _
  | index + 1 => by
      have before := levelBy_le_ceiling cut base index
      rw [levelBy, step]
      split
      · exact Nat.max_le.2 ⟨Nat.min_le_right _ _, before⟩
      · exact Nat.min_le_right _ _

/-- Where a rising ladder never cuts a product below 64 bits, its levels do not go down. -/
lemma monotone_levelBy (rising : l.Rising)
    (keeps : ∀ {m n}, m ≤ n → m ≤ maxUInt64 → m ≤ cut n) : Monotone (l.levelBy cut base) := by
  refine monotone_nat_of_le_succ fun index => ?_
  have below := l.levelBy_le_ceiling cut base index
  rw [levelBy, step]
  split
  · exact Nat.le_max_right _ _
  · have grows : l.levelBy cut base index ≤
        l.levelBy cut base index * l.factorBps.toNat / wholeBps :=
      (Nat.le_div_iff_mul_le (by decide)).2 (Nat.mul_le_mul_left _ rising)
    exact Nat.le_min.2 ⟨keeps grows (below.trans l.ceiling_le), below⟩

lemma monotone_unbounded (rising : l.Rising) : Monotone (l.levelBy unbounded base) :=
  monotone_levelBy rising fun le _ => le

lemma monotone_saturated (rising : l.Rising) : Monotone (l.levelBy saturated base) :=
  monotone_levelBy rising fun le fits => Nat.le_min.2 ⟨le, fits⟩

/-- Up to a level, cutting the products makes no difference unless a step falls short. -/
lemma levelBy_saturated_eq : ∀ {index : Nat},
    (∀ j < index, ¬ l.Short (j + 1) (l.levelBy unbounded base j)) →
    l.levelBy saturated base index = l.levelBy unbounded base index
  | 0, _ => rfl
  | index + 1, unshort => by
      have before := levelBy_saturated_eq fun j hj => unshort j (Nat.lt_succ_of_lt hj)
      rw [levelBy, levelBy, before]
      exact step_saturated_eq (unshort index (Nat.lt_succ_self index))

/-! ## A step that falls short -/

section

variable (short : l.Short (i + 1) (l.levelBy unbounded base i))
include short

lemma Short.far : maxUInt64 < l.levelBy unbounded base i * l.factorBps.toNat / wholeBps :=
  Nat.lt_of_lt_of_le short.beyond (roundDown_le _ _)

/-- Only a factor above one whole makes a product that is beyond 64 bits. -/
lemma Short.rising : l.Rising := by
  by_contra falls
  have shrinks : l.levelBy unbounded base i * l.factorBps.toNat / wholeBps ≤
      l.levelBy unbounded base i := by
    refine Nat.div_le_of_le_mul ?_
    rw [Nat.mul_comm]
    exact Nat.mul_le_mul_right _ (Nat.le_of_not_le falls)
  have far := short.far
  have below := short.below
  have small := l.ceiling_le
  omega

/-- Exact levels are at the ceiling from then on. -/
lemma Short.unbounded_after (after : i < j) : l.levelBy unbounded base j = l.ceiling.toNat :=
  Nat.le_antisymm (l.levelBy_le_ceiling unbounded base j)
    (short.step_unbounded ▸ monotone_unbounded short.rising after)

/-- Up to the step, cutting the products makes no difference. -/
lemma Short.saturated_before (before : j ≤ i) :
    l.levelBy saturated base j = l.levelBy unbounded base j := by
  refine levelBy_saturated_eq fun k hk earlier => ?_
  have reached : l.levelBy unbounded base i = l.ceiling.toNat :=
    earlier.unbounded_after (Nat.lt_of_lt_of_le hk before)
  exact Nat.ne_of_lt short.below reached

lemma Short.saturated_next : l.levelBy saturated base (i + 1) =
    max (roundDown l.granularity.toNat maxUInt64) (l.levelBy unbounded base i) := by
  rw [levelBy, short.saturated_before (Nat.le_refl i), short.step_saturated]

/-- The step after one that falls short reaches the ceiling. -/
lemma Short.saturated_after (after : i + 1 < j) :
    l.levelBy saturated base j = l.ceiling.toNat := by
  have reached : l.levelBy saturated base (i + 2) = l.ceiling.toNat := by
    have odd : ¬ (i + 1 + 1) % 2 = 0 := by
      have even := short.even
      omega
    have higher : l.levelBy unbounded base i ≤ l.levelBy saturated base (i + 1) := by
      rw [short.saturated_next]
      exact Nat.le_max_right _ _
    have far : maxUInt64 ≤ l.levelBy saturated base (i + 1) * l.factorBps.toNat / wholeBps :=
      (Nat.le_of_lt short.far).trans
        (Nat.div_le_div_right (Nat.mul_le_mul_right _ higher))
    rw [levelBy, step, if_neg odd, saturated, Nat.min_eq_right far, Nat.min_eq_right l.ceiling_le]
  exact Nat.le_antisymm (l.levelBy_le_ceiling saturated base j)
    (reached ▸ monotone_saturated short.rising after)

end

/-! ## Rungs -/

/-- The levels of a ladder that does not go down are in order. -/
lemma pairwise_levelsBy (mono : Monotone (l.levelBy cut base)) :
    (l.levelsBy cut base).Pairwise (· ≤ ·) :=
  List.pairwise_map.2 (List.pairwise_lt_range.imp fun lt => mono (Nat.le_of_lt lt))

lemma mem_rungsBy (mono : Monotone (l.levelBy cut base)) {a : Nat} :
    a ∈ l.rungsBy cut base ↔ ∃ j < max l.count 1, l.levelBy cut base j = a := by
  rw [rungsBy, (pairwise_levelsBy mono).destutter_eq_dedup, List.mem_dedup]
  simp [levelsBy]

lemma pairwise_rungsBy (mono : Monotone (l.levelBy cut base)) :
    (l.rungsBy cut base).Pairwise (· < ·) := by
  have ordered := pairwise_levelsBy mono
  rw [rungsBy, ordered.destutter_eq_dedup]
  refine ((ordered.sublist (List.dedup_sublist _)).and (List.nodup_dedup _)).imp ?_
  exact fun ⟨le, ne⟩ => Nat.lt_of_le_of_ne le ne

/-- A step that falls short and shows in the rungs. -/
structure FallsShort (l : FeeLadder) (base index : Nat) : Prop where
  short : l.Short (index + 1) (l.levelBy unbounded base index)
  reached : index + 1 < max l.count 1
  seen : l.levelBy unbounded base index < roundDown l.granularity.toNat maxUInt64 ∨
    index + 2 = max l.count 1

/-- A ladder that falls short has a rung that exact arithmetic has not, or never reaches the
ceiling. -/
lemma FallsShort.ne (falls : l.FallsShort base i) :
    l.rungsBy saturated base ≠ l.rungsBy unbounded base := by
  intro same
  obtain ⟨short, reached, seen⟩ := falls
  have mono : Monotone (l.levelBy unbounded base) := monotone_unbounded short.rising
  have mono' : Monotone (l.levelBy saturated base) := monotone_saturated short.rising
  have mem : ∀ a, (∃ j < max l.count 1, l.levelBy saturated base j = a) ↔
      ∃ j < max l.count 1, l.levelBy unbounded base j = a := by
    intro a
    rw [← mem_rungsBy mono', same, mem_rungsBy mono]
  rcases seen with higher | last
  · obtain ⟨j, -, level⟩ := (mem _).1 ⟨i + 1, reached, rfl⟩
    rw [short.saturated_next, Nat.max_eq_left (Nat.le_of_lt higher)] at level
    rcases Nat.lt_or_ge i j with after | before
    · rw [short.unbounded_after after] at level
      exact Nat.ne_of_gt short.off level
    · have le := mono before
      omega
  · obtain ⟨j, inside, level⟩ := (mem _).2 ⟨i + 1, reached, rfl⟩
    rw [short.unbounded_after (Nat.lt_succ_self i)] at level
    have le : l.levelBy saturated base j ≤ l.levelBy saturated base (i + 1) := mono' (by omega)
    rw [level, short.saturated_next] at le
    have off := short.off
    have below := short.below
    omega

/-- Where a step falls short and this does not show, the next level makes up for it. -/
lemma Short.eq_of_unseen (short : l.Short (i + 1) (l.levelBy unbounded base i))
    (unseen : ¬ l.FallsShort base i) (reached : i + 1 < max l.count 1) :
    l.rungsBy saturated base = l.rungsBy unbounded base := by
  have mono : Monotone (l.levelBy unbounded base) := monotone_unbounded short.rising
  have mono' : Monotone (l.levelBy saturated base) := monotone_saturated short.rising
  have repeats : l.levelBy saturated base (i + 1) = l.levelBy unbounded base i := by
    rw [short.saturated_next]
    exact Nat.max_eq_right (Nat.le_of_not_lt fun higher => unseen ⟨short, reached, .inl higher⟩)
  have further : i + 2 < max l.count 1 :=
    Nat.lt_of_le_of_ne reached fun last => unseen ⟨short, reached, .inr last⟩
  refine List.Pairwise.eq_of_mem_iff (pairwise_rungsBy mono') (pairwise_rungsBy mono) fun a => ?_
  rw [mem_rungsBy mono', mem_rungsBy mono]
  constructor
  · rintro ⟨j, inside, rfl⟩
    rcases Nat.lt_trichotomy j (i + 1) with before | rfl | after
    · exact ⟨j, inside, (short.saturated_before (Nat.le_of_lt_succ before)).symm⟩
    · exact ⟨i, by omega, repeats.symm⟩
    · exact ⟨j, inside, by rw [short.unbounded_after (by omega), short.saturated_after after]⟩
  · rintro ⟨j, inside, rfl⟩
    rcases Nat.lt_or_ge i j with after | before
    · have reached : l.levelBy saturated base (i + 2) = l.ceiling.toNat :=
        short.saturated_after (Nat.lt_succ_self _)
      exact ⟨i + 2, further, by rw [short.unbounded_after after, reached]⟩
    · exact ⟨j, inside, short.saturated_before before⟩

/-- **The fee ladder in exact arithmetic.**  The rungs are those of exact arithmetic with products
cut to 64 bits.  They are those of exact arithmetic itself if and only if no even level falls short
of the ceiling in a way that can be seen: with a rung of its own, or as the last level. -/
theorem rungs_exact (l : FeeLadder) (base : UInt64) :
    (l.rungs base).map UInt64.toNat = l.rungsBy saturated base.toNat ∧
      ((l.rungs base).map UInt64.toNat = l.rungsBy unbounded base.toNat ↔
        ¬ ∃ index, l.FallsShort base.toNat index) := by
  have cuts := l.map_toNat_rungs base
  refine ⟨cuts, ?_⟩
  rw [cuts]
  constructor
  · rintro same ⟨index, falls⟩
    exact falls.ne same
  · intro unseen
    by_cases short : ∃ index, index + 1 < max l.count 1 ∧
        l.Short (index + 1) (l.levelBy unbounded base.toNat index)
    · obtain ⟨index, reached, short⟩ := short
      exact short.eq_of_unseen (fun falls => unseen ⟨index, falls⟩) reached
    · refine congrArg (List.destutter (· ≠ ·)) (List.map_congr_left fun index mem => ?_)
      have inside := List.mem_range.1 mem
      exact levelBy_saturated_eq fun j hj here => short ⟨j, by omega, here⟩

/-- The largest ceiling is no multiple of the granularity.  The third rung ought to reach it and
stops at the multiple below. -/
theorem rungs_exact_largest_ceiling :
    let l : FeeLadder := { ceiling := 18446744073709551615 }
    let base : UInt64 := 12000000000000000000
    l.FallsShort base.toNat 1 ∧
      (l.rungs base).map UInt64.toNat ≠ l.rungsBy unbounded base.toNat ∧
      l.rungs base = [12000000000000000000, 16200000000000000000, 18446744073709551000] ∧
      l.rungsBy unbounded base.toNat =
        [12000000000000000000, 16200000000000000000, 18446744073709551615] := by
  intro l base
  have falls : l.FallsShort base.toNat 1 :=
    ⟨⟨by decide, by decide, by decide, by decide⟩, by decide, .inl (by decide)⟩
  exact ⟨falls, fun same => (rungs_exact l base).2.1 same ⟨1, falls⟩, by decide, by decide⟩

end FeeLadder

end PoolExit
