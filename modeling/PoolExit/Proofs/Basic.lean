import Mathlib.Data.List.Nodup
import Mathlib.Data.List.Perm.Basic
import Mathlib.Tactic.Common

/-!
# Facts about lists and results

What several proofs need of lists and of results that may be errors, and what has nothing to do with
exits: a computation that succeeds succeeds in each step, counts in lists that are made part by
part, and lists that have one element for each key.
-/

namespace PoolExit

/-- A computation of two steps succeeds where both of them do. -/
lemma bind_eq_ok {ε α β : Type} {x : Except ε α} {f : α → Except ε β} {b : β} :
    x >>= f = .ok b ↔ ∃ a, x = .ok a ∧ f a = .ok b := by
  cases x <;> simp [bind, Except.bind]

/-! ## Lists without duplicates -/

lemma pairwise_ne_eraseDups {α : Type} [BEq α] [LawfulBEq α] :
    ∀ as : List α, as.eraseDups.Pairwise fun a b => a ≠ b
  | [] => by simp
  | a :: as => by
      rw [List.eraseDups_cons, List.pairwise_cons]
      refine ⟨fun b hb same => ?_, pairwise_ne_eraseDups _⟩
      rw [List.mem_eraseDups, List.mem_filter] at hb
      simp [same] at hb
termination_by as => as.length
decreasing_by exact Nat.lt_succ_of_le (List.length_filter_le _ as)

/-- Where only the part of one value has an element, it is there as often as the value. -/
lemma count_flatMap_of_own {α β : Type} [BEq α] [LawfulBEq α] [BEq β] [LawfulBEq β]
    {f : β → List α} {a : α} {own : β} {n : Nat}
    (count : ∀ b, (f b).count a = if own == b then n else 0) :
    ∀ l : List β, (l.flatMap f).count a = l.count own * n
  | [] => by simp
  | b :: l => by
      rw [List.flatMap_cons, List.count_append, count b, count_flatMap_of_own count l,
        List.count_cons, Nat.add_mul]
      by_cases same : own = b
      · simp [same, Nat.add_comm]
      · simp [same, Ne.symm same]

/-- Values that stand beside keys without duplicates are a function of them. -/
lemma exists_eq_map {γ κ β : Type} [Inhabited β] (key : γ → κ) : ∀ {told : List (γ × β)},
    ((told.map Prod.fst).map key).Nodup →
    ∃ f : κ → β, told = (told.map Prod.fst).map fun a => (a, f (key a))
  | [], _ => ⟨fun _ => default, rfl⟩
  | (a, b) :: told, distinct => by
      classical
      obtain ⟨fresh, distinct'⟩ := List.nodup_cons.1 distinct
      obtain ⟨f, same⟩ := exists_eq_map key distinct'
      refine ⟨Function.update f (key a) b, ?_⟩
      rw [List.map_cons, List.map_cons, Function.update_self]
      congr 1
      refine same.trans (List.map_congr_left fun a' mem => ?_)
      have other : key a' ≠ key a := fun h => fresh (h ▸ List.mem_map_of_mem mem)
      rw [Function.update_of_ne other]

/-! ## One element for each key -/

/-- For each key that is in question the list has exactly one element, and it has no other. -/
def OneEach {κ β : Type} (inQuestion : κ → Prop) (P : κ → β → Prop) (xs : List β) : Prop :=
  ∃ keys : List κ, keys.Nodup ∧ (∀ k, k ∈ keys ↔ inQuestion k) ∧ List.Forall₂ P keys xs

section

variable {κ β : Type} {C D : κ → Prop} {P : κ → β → Prop} {xs ys : List β}

lemma OneEach.perm (each : OneEach C P xs) (perm : ys.Perm xs) : OneEach C P ys := by
  obtain ⟨keys, distinct, complete, along⟩ := each
  obtain ⟨keys', along', same⟩ := List.perm_comp_forall₂ (r := flip P) perm along.flip
  exact ⟨keys', same.nodup_iff.2 distinct, fun k => same.mem_iff.trans (complete k), along'.flip⟩

lemma OneEach.congr (each : OneEach C P xs) (same : ∀ k, C k ↔ D k) : OneEach D P xs := by
  obtain ⟨keys, distinct, complete, along⟩ := each
  exact ⟨keys, distinct, fun k => (complete k).trans (same k), along⟩

/-- Where each key of a list contributes one element or none, there is one for each key that does
so. -/
lemma oneEach_flatMap {f : κ → List β} {keys : List κ} (distinct : keys.Nodup)
    (one : ∀ k ∈ keys, (∃ x, f k = [x] ∧ P k x) ∨ f k = [] ∧ ∀ x, ¬ P k x) :
    OneEach (fun k => k ∈ keys ∧ ∃ x, P k x) P (keys.flatMap f) := by
  induction keys with
  | nil => exact ⟨[], List.nodup_nil, by simp, .nil⟩
  | cons k keys ih =>
      obtain ⟨fresh, distinct'⟩ := List.nodup_cons.1 distinct
      obtain ⟨here, later⟩ := List.forall_mem_cons.1 one
      obtain ⟨keys', nodup, complete, along⟩ := ih distinct' later
      rw [List.flatMap_cons]
      rcases here with ⟨x, single, holds⟩ | ⟨none, fails⟩
      · refine ⟨k :: keys', List.nodup_cons.2 ⟨fun mem => fresh ((complete k).1 mem).1, nodup⟩,
          fun k' => ?_, ?_⟩
        · simp only [List.mem_cons, complete k']
          constructor
          · rintro (rfl | ⟨mem, some⟩)
            · exact ⟨.inl rfl, x, holds⟩
            · exact ⟨.inr mem, some⟩
          · rintro ⟨rfl | mem, some⟩
            · exact .inl rfl
            · exact .inr ⟨mem, some⟩
        · rw [single]
          exact .cons holds along
      · refine ⟨keys', nodup, fun k' => ?_, by rwa [none]⟩
        simp only [complete k', List.mem_cons]
        refine and_congr_left fun ⟨x, holds⟩ => (or_iff_right ?_).symm
        rintro rfl
        exact fails x holds

end

end PoolExit
