import PoolExit.Exit.Order
import PoolExit.Proofs.Basic
import Mathlib.Data.List.Induction

/-!
# Tasks gathered by pool

`claimsFirst` goes through the tasks once, with a slot for each pool.  What stands in a slot at the
end is what the list has for its pool, so the result is the groups of all pools, one after the other
(`claimsFirst_eq`).  From this it follows that no task is left out (`perm_claimsFirst`), and that no
claim comes after a withdrawal from the same pool (`claimsLead_claimsFirst`).
-/

namespace PoolExit

namespace Planning

/-! ## Slots -/

lemma nodup_keys (tasks : List Task) : (tasks.map Task.poolKey).eraseDups.Nodup :=
  pairwise_ne_eraseDups _

/-- The slot of a pool. -/
def slotOf (tasks : List Task) (key : Venue × Pubkey) : Slot where
  key
  claims := tasks.filter fun t => t.poolKey = key ∧ t.kind = .claim
  withdrawals := tasks.filter fun t => t.poolKey = key ∧ t.kind = .withdraw

/-- The next task changes the slot of its pool only. -/
lemma slotOf_append (tasks : List Task) (t : Task) (key : Venue × Pubkey) :
    slotOf (tasks ++ [t]) key =
      if t.poolKey = key then (slotOf tasks key).put t else slotOf tasks key := by
  by_cases own : t.poolKey = key
  · cases kind : t.kind <;> simp [slotOf, Slot.put, own, kind]
  · simp [slotOf, own]

/-- Where something is changed at the place of a key, it is changed for that key. -/
lemma modify_map_of_findIdx? {κ β : Type} [DecidableEq κ] {ks : List κ} (distinct : ks.Nodup)
    {k : κ} {index : Nat} (found : ks.findIdx? (· = k) = some index) (g : κ → β) (change : β → β) :
    (ks.map g).modify index change = ks.map fun k' => if k' = k then change (g k') else g k' := by
  obtain ⟨inside, own, -⟩ := List.findIdx?_eq_some_iff_getElem.1 found
  have here : ks[index]? = some k :=
    (List.getElem?_eq_getElem inside).trans (congrArg some (of_decide_eq_true own))
  refine List.ext_getElem? fun j => ?_
  rw [List.getElem?_modify, List.getElem?_map, List.getElem?_map]
  cases there : ks[j]? with
  | none => rfl
  | some k' =>
    have place : index = j ↔ k' = k := by
      refine ⟨fun same => ?_, fun same => ?_⟩
      · exact Option.some.inj (there.symm.trans (same ▸ here))
      · exact (List.getElem?_inj inside distinct).1 (here.trans (same ▸ there.symm))
    simp [place]

/-- The next task keeps the slots as they are to be: one for each pool, in the order in which they
first appear. -/
lemma putIn_slots (tasks : List Task) (t : Task) :
    putIn ((tasks.map Task.poolKey).eraseDups.map (slotOf tasks)) t =
      ((tasks ++ [t]).map Task.poolKey).eraseDups.map (slotOf (tasks ++ [t])) := by
  have here : (fun slot : Slot => decide (slot.key = t.poolKey)) ∘ slotOf tasks =
      fun key => decide (key = t.poolKey) := rfl
  rw [List.map_append, List.map_singleton, List.eraseDups_append, putIn, List.findIdx?_map, here]
  split
  next index found =>
    obtain ⟨inside, own, -⟩ := List.findIdx?_eq_some_iff_getElem.1 found
    have seen : t.poolKey ∈ tasks.map Task.poolKey :=
      List.mem_eraseDups.1 (of_decide_eq_true own ▸ List.getElem_mem inside)
    have none : [t.poolKey].removeAll (tasks.map Task.poolKey) = [] := by
      rw [List.removeAll, List.filter_cons_of_neg (by simpa using seen), List.filter_nil]
    rw [none, List.eraseDups_nil, List.append_nil, modify_map_of_findIdx? (nodup_keys tasks) found]
    refine List.map_congr_left fun key _ => ?_
    simp only [slotOf_append, eq_comm]
  next absent =>
    have fresh : ∀ key ∈ (tasks.map Task.poolKey).eraseDups, t.poolKey ≠ key := fun key mem same =>
      of_decide_eq_false (List.findIdx?_eq_none_iff.1 absent key mem) same.symm
    have unseen : t.poolKey ∉ tasks.map Task.poolKey := fun mem =>
      fresh _ (List.mem_eraseDups.2 mem) rfl
    have last : [t.poolKey].removeAll (tasks.map Task.poolKey) = [t.poolKey] := by
      rw [List.removeAll, List.filter_cons_of_pos (by simpa using unseen), List.filter_nil]
    have empty : slotOf tasks t.poolKey = { key := t.poolKey } := by
      have none : ∀ kind, tasks.filter (fun u => u.poolKey = t.poolKey ∧ u.kind = kind) = [] :=
        fun kind => List.filter_eq_nil_iff.2 fun u mem found =>
          unseen ((of_decide_eq_true found).1 ▸ List.mem_map_of_mem mem)
      rw [slotOf, none, none]
    have alone : [t.poolKey].eraseDups = [t.poolKey] := rfl
    rw [last, alone, List.map_append, List.map_singleton, slotOf_append, if_pos rfl, empty]
    refine congrArg (· ++ _) (List.map_congr_left fun key mem => ?_)
    rw [slotOf_append, if_neg (fresh key mem)]

lemma gathered_eq (tasks : List Task) :
    gathered tasks = (tasks.map Task.poolKey).eraseDups.map (slotOf tasks) := by
  induction tasks using List.reverseRecOn with
  | nil => rfl
  | append_singleton tasks t ih =>
    rw [gathered, List.foldl_append, ← gathered, ih]
    exact putIn_slots tasks t

/-! ## Groups -/

/-- The tasks of one pool, claims first. -/
def poolGroup (tasks : List Task) (key : Venue × Pubkey) : List Task :=
  let group := tasks.filter fun t => t.poolKey = key
  group.filter (fun t => t.kind = .claim) ++ group.filter (fun t => t.kind = .withdraw)

lemma poolGroup_eq (tasks : List Task) (key : Venue × Pubkey) :
    poolGroup tasks key =
      tasks.filter (fun t => t.poolKey = key ∧ t.kind = .claim) ++
        tasks.filter fun t => t.poolKey = key ∧ t.kind = .withdraw := by
  simp only [poolGroup, List.filter_filter, Bool.decide_and, Bool.and_comm]

/-- The groups of all pools come one after the other. -/
theorem claimsFirst_eq (tasks : List Task) :
    claimsFirst tasks = (tasks.map Task.poolKey).eraseDups.flatMap (poolGroup tasks) := by
  rw [claimsFirst, gathered_eq, List.flatMap_map]
  exact List.flatMap_congr fun key _ => (poolGroup_eq tasks key).symm

lemma poolKey_of_mem_poolGroup {tasks : List Task} {key : Venue × Pubkey} {t : Task}
    (mem : t ∈ poolGroup tasks key) : t.poolKey = key := by
  simp only [poolGroup, List.mem_append, List.mem_filter, decide_eq_true_eq] at mem
  rcases mem with ⟨⟨-, same⟩, -⟩ | ⟨⟨-, same⟩, -⟩ <;> exact same

/-- A task is in the group of its own pool only. -/
lemma count_poolGroup (tasks : List Task) (key : Venue × Pubkey) (t : Task) :
    (poolGroup tasks key).count t = if t.poolKey == key then tasks.count t else 0 := by
  by_cases here : t.poolKey = key
  · rw [if_pos (beq_iff_eq.2 here), poolGroup, List.count_append]
    cases kind : t.kind <;> simp [List.count_filter, List.count_eq_zero, here, kind]
  · rw [if_neg (mt beq_iff_eq.1 here)]
    exact List.count_eq_zero.2 fun mem => here (poolKey_of_mem_poolGroup mem)

/-- Sorting the tasks leaves none out and adds none. -/
theorem perm_claimsFirst (tasks : List Task) : (claimsFirst tasks).Perm tasks := by
  refine List.perm_iff_count.2 fun t => ?_
  rw [claimsFirst_eq, count_flatMap_of_own fun key => count_poolGroup tasks key t,
    (nodup_keys tasks).count]
  by_cases listed : t ∈ tasks
  · have found : t.poolKey ∈ (tasks.map Task.poolKey).eraseDups :=
      List.mem_eraseDups.2 (List.mem_map_of_mem listed)
    rw [if_pos found, Nat.one_mul]
  · rw [List.count_eq_zero.2 listed, Nat.mul_zero]

/-! ## Claims and withdrawals -/

/-- No claim comes after a withdrawal from the same pool. -/
def ClaimsLead (tasks : List Task) : Prop :=
  tasks.Pairwise fun t u => t.poolKey = u.poolKey → ¬ (t.kind = .withdraw ∧ u.kind = .claim)

lemma claimsLead_poolGroup (tasks : List Task) (key : Venue × Pubkey) :
    ClaimsLead (poolGroup tasks key) := by
  refine List.pairwise_append.2 ⟨?_, ?_, ?_⟩
  · refine List.pairwise_of_forall_mem_list fun t ht u _ _ h => ?_
    simp [h.1] at ht
  · refine List.pairwise_of_forall_mem_list fun t _ u hu _ h => ?_
    simp [h.2] at hu
  · intro t ht u _ _ h
    simp [h.1] at ht

/-- Pool by pool, the claims come first. -/
theorem claimsLead_claimsFirst (tasks : List Task) : ClaimsLead (claimsFirst tasks) := by
  rw [claimsFirst_eq]
  refine List.pairwise_flatMap.2 ⟨fun key _ => claimsLead_poolGroup tasks key, ?_⟩
  refine (pairwise_ne_eraseDups (tasks.map Task.poolKey)).imp ?_
  intro key key' ne t ht u hu same
  rw [poolKey_of_mem_poolGroup ht, poolKey_of_mem_poolGroup hu] at same
  exact absurd same ne

end Planning

end PoolExit
