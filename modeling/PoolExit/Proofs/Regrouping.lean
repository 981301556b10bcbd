import PoolExit.Proofs.Planning
import Mathlib.Data.List.Sort
import Mathlib.Data.Prod.Lex

/-!
# The order of tasks as a stable sort

`claimsFirst` gathers the tasks in slots, and so brings together the tasks of each pool.  The same
is obtained by a stable sort: by where the pool first appears in the list, and then claims before
withdrawals (`claimsFirst_eq_mergeSort`).  A list that is sorted by a key is determined by the
elements that it has for each key, in their order (`eq_of_filter_eq`), so it is enough to know what
`claimsFirst` has for a pool and a kind: what the list has, in the order of the list.
-/

namespace PoolExit

/-! ## Lists sorted by a key -/

section

variable {α κ : Type} [LinearOrder κ] {key : α → κ} {a b : α} {as bs : List α}

/-- Where two lists have the same for the key of the first element of the one, and the other is
sorted, its first element is not above that key. -/
lemma le_of_filter_eq (sorted : (b :: bs).Pairwise fun a b => key a ≤ key b)
    (same : (a :: as).filter (key · = key a) = (b :: bs).filter (key · = key a)) :
    key b ≤ key a := by
  have mem : a ∈ (b :: bs).filter (key · = key a) := by simp [← same]
  rcases List.mem_cons.1 (List.mem_filter.1 mem).1 with rfl | later
  · exact le_refl _
  · exact (List.pairwise_cons.1 sorted).1 a later

/-- A list that is sorted by a key is determined by what it has for each key. -/
theorem eq_of_filter_eq (sorted : as.Pairwise fun a b => key a ≤ key b)
    (sorted' : bs.Pairwise fun a b => key a ≤ key b)
    (same : ∀ k, as.filter (key · = k) = bs.filter (key · = k)) : as = bs := by
  induction as generalizing bs with
  | nil =>
    cases bs with
    | nil => rfl
    | cons b bs => simpa using same (key b)
  | cons a as ih =>
    cases bs with
    | nil => simpa using same (key a)
    | cons b bs =>
      have level : key a = key b :=
        le_antisymm (le_of_filter_eq sorted (same (key b)).symm)
          (le_of_filter_eq sorted' (same (key a)))
      have here := same (key a)
      simp only [List.filter_cons, level, decide_true, if_true, List.cons.injEq] at here
      obtain ⟨rfl, -⟩ := here
      refine congrArg _ (ih sorted.of_cons sorted'.of_cons fun k => ?_)
      have further := same k
      by_cases own : key a = k
      · simpa only [List.filter_cons, own, decide_true, if_true, List.cons.injEq, true_and]
          using further
      · simpa only [List.filter_cons, own, decide_false, Bool.false_eq_true, if_false] using further

lemma pairwise_mergeSort_key (as : List α) :
    (as.mergeSort fun a b => decide (key a ≤ key b)).Pairwise fun a b => key a ≤ key b := by
  have sorted : (as.mergeSort fun a b => decide (key a ≤ key b)).Pairwise
      fun a b => decide (key a ≤ key b) = true :=
    List.pairwise_mergeSort (by simpa using fun a b c => le_trans)
      (by simpa using fun a b => le_total (key a) (key b)) as
  simpa using sorted

/-- Sorting by a key leaves what a list has for one key in its order. -/
lemma filter_mergeSort (as : List α) (k : κ) :
    (as.mergeSort fun a b => decide (key a ≤ key b)).filter (key · = k) =
      as.filter (key · = k) := by
  have level : (as.filter (key · = k)).Pairwise fun a b => decide (key a ≤ key b) = true := by
    refine List.pairwise_filter.2 (List.pairwise_of_forall fun a b => ?_)
    simp only [decide_eq_true_eq]
    rintro rfl same
    exact le_of_eq same.symm
  have kept : (as.filter (key · = k)).Sublist (as.mergeSort fun a b => decide (key a ≤ key b)) :=
    List.sublist_mergeSort (by simpa using fun a b c => le_trans)
      (by simpa using fun a b => le_total (key a) (key b)) level List.filter_sublist
  have kept' : (as.filter (key · = k)).Sublist
      ((as.mergeSort fun a b => decide (key a ≤ key b)).filter (key · = k)) := by
    simpa only [List.filter_filter, Bool.and_self] using kept.filter (key · = k)
  exact (kept'.eq_of_length ((List.mergeSort_perm as _).filter _).symm.length_eq).symm

/-- A list is sorted stably if it is sorted and has for each key what the other list has. -/
lemma eq_mergeSort (sorted : as.Pairwise fun a b => key a ≤ key b)
    (same : ∀ k, as.filter (key · = k) = bs.filter (key · = k)) :
    as = bs.mergeSort fun a b => decide (key a ≤ key b) :=
  eq_of_filter_eq sorted (pairwise_mergeSort_key bs)
    fun k => (same k).trans (filter_mergeSort bs k).symm

end

/-! ## Keys in the order in which they first appear -/

section

variable {α κ : Type} [BEq κ] [LawfulBEq κ] {key : α → κ} {f : κ → List α}

/-- Values without their repetitions stand in the order in which they first appear. -/
lemma pairwise_idxOf_eraseDups (ks : List κ) :
    ks.eraseDups.Pairwise fun a b => ks.idxOf a < ks.idxOf b := by
  induction ks using List.reverseRecOn with
  | nil => simp
  | append_singleton ks k ih =>
    have earlier : ks.eraseDups.Pairwise fun a b =>
        (ks ++ [k]).idxOf a < (ks ++ [k]).idxOf b := by
      refine ih.imp_of_mem fun {a b} ha hb before => ?_
      rw [List.mem_eraseDups] at ha hb
      rwa [List.idxOf_append_of_mem ha, List.idxOf_append_of_mem hb]
    rw [List.eraseDups_append]
    by_cases seen : k ∈ ks
    · simpa [List.removeAll, seen] using earlier
    · have last : [k].removeAll ks = [k] := by simp [List.removeAll, seen]
      rw [last]
      refine List.pairwise_append.2 ⟨earlier, List.pairwise_singleton _ _, fun a ha b hb => ?_⟩
      obtain rfl : b = k := by simpa using hb
      rw [List.mem_eraseDups] at ha
      rw [List.idxOf_append_of_mem ha, List.idxOf_append_of_notMem seen]
      exact Nat.lt_of_lt_of_le (List.idxOf_lt_length_of_mem ha) (Nat.le_add_right _ _)

/-- Of parts that each have one key, one is what the whole has for its key. -/
lemma filter_flatMap_of_own [DecidableEq κ] (own : ∀ k, ∀ a ∈ f k, key a = k) (k : κ) :
    ∀ {ks : List κ}, ks.Nodup →
      (ks.flatMap f).filter (key · = k) = if k ∈ ks then f k else []
  | [], _ => rfl
  | k' :: ks, distinct => by
      obtain ⟨fresh, distinct'⟩ := List.nodup_cons.1 distinct
      rw [List.flatMap_cons, List.filter_append, filter_flatMap_of_own own k distinct']
      by_cases same : k' = k
      · subst same
        have all : (f k').filter (key · = k') = f k' :=
          List.filter_eq_self.2 fun a mem => decide_eq_true (own k' a mem)
        simp [all, fresh]
      · have none : (f k').filter (key · = k) = [] := by
          refine List.filter_eq_nil_iff.2 fun a mem found => same ?_
          rw [← own k' a mem]
          exact of_decide_eq_true found
        simp [none, Ne.symm same]

/-- What has one of these keys stands together. -/
lemma filter_flatMap_infix [DecidableEq κ] (own : ∀ k, ∀ a ∈ f k, key a = k) (k : κ) {ks : List κ}
    (distinct : ks.Nodup) : (ks.flatMap f).filter (key · = k) <:+: ks.flatMap f := by
  rw [filter_flatMap_of_own own k distinct]
  split
  next mem =>
    obtain ⟨before, after, rfl⟩ := List.append_of_mem mem
    refine ⟨before.flatMap f, after.flatMap f, ?_⟩
    simp
  next => exact List.nil_infix

/-- The keys of parts that are not empty come in the order of the parts. -/
lemma eraseDups_map_flatMap (own : ∀ k, ∀ a ∈ f k, key a = k) :
    ∀ {ks : List κ}, ks.Nodup → (∀ k ∈ ks, f k ≠ []) →
      ((ks.flatMap f).map key).eraseDups = ks
  | [], _, _ => rfl
  | k :: ks, distinct, full => by
      obtain ⟨fresh, distinct'⟩ := List.nodup_cons.1 distinct
      have further := eraseDups_map_flatMap own distinct' fun k mem => full k (.tail _ mem)
      obtain ⟨a, as, part⟩ := List.exists_cons_of_ne_nil (full k List.mem_cons_self)
      have constant : (f k).map key = List.replicate (as.length + 1) k := by
        refine List.eq_replicate_iff.2 ⟨by simp [part], fun k' mem => ?_⟩
        obtain ⟨a, here, rfl⟩ := List.mem_map.1 mem
        exact own k a here
      have others : ((ks.flatMap f).map key).filter (fun k' => !k' == k) =
          (ks.flatMap f).map key := by
        refine List.filter_eq_self.2 fun k' mem => ?_
        obtain ⟨a, inside, rfl⟩ := List.mem_map.1 mem
        obtain ⟨k', later, here⟩ := List.mem_flatMap.1 inside
        have other : key a ≠ k := fun same => fresh (same ▸ own k' a here ▸ later)
        simp [other]
      rw [List.flatMap_cons, List.map_append, constant, List.replicate_succ, List.cons_append,
        List.eraseDups_cons, List.filter_append, others]
      simp [further]

end

/-! ## Where a task belongs -/

/-- Claims are done before withdrawals. -/
def ActionKind.rank : ActionKind → Nat
  | .claim => 0
  | .withdraw => 1

lemma ActionKind.rank_inj {a b : ActionKind} : a.rank = b.rank ↔ a = b := by
  cases a <;> cases b <;> simp [rank]

lemma ActionKind.rank_le_rank {a b : ActionKind} (lead : ¬ (a = .withdraw ∧ b = .claim)) :
    a.rank ≤ b.rank := by
  cases a <;> cases b <;> simp [rank] at lead ⊢

namespace Planning

/-- Where a task of a list belongs: where its pool first appears, and then by its kind. -/
def place (tasks : List Task) (t : Task) : Nat ×ₗ Nat :=
  toLex ((tasks.map Task.poolKey).idxOf t.poolKey, t.kind.rank)

variable {tasks : List Task} {t u : Task}

/-- Tasks belong to the same place if they have the same pool at the same venue, and the same
kind. -/
lemma place_eq_iff (mem : t ∈ tasks) :
    place tasks t = place tasks u ↔ t.poolKey = u.poolKey ∧ t.kind = u.kind := by
  rw [place, place, toLex_inj, Prod.mk.injEq, List.idxOf_inj (List.mem_map_of_mem mem),
    ActionKind.rank_inj]

/-! ## What the order leaves as it is -/

lemma filter_kind_poolGroup (tasks : List Task) (key : Venue × Pubkey) (kind : ActionKind) :
    (poolGroup tasks key).filter (·.kind = kind) =
      tasks.filter fun t => t.poolKey = key ∧ t.kind = kind := by
  rw [poolGroup_eq, List.filter_append, List.filter_filter, List.filter_filter]
  cases kind with
  | claim =>
    have none : tasks.filter (fun t => decide (t.kind = .claim) &&
        decide (t.poolKey = key ∧ t.kind = .withdraw)) = [] :=
      List.filter_eq_nil_iff.2 fun t _ => by cases kind : t.kind <;> simp
    rw [none, List.append_nil]
    exact List.filter_congr fun t _ => by cases kind : t.kind <;> simp
  | withdraw =>
    have none : tasks.filter (fun t => decide (t.kind = .withdraw) &&
        decide (t.poolKey = key ∧ t.kind = .claim)) = [] :=
      List.filter_eq_nil_iff.2 fun t _ => by cases kind : t.kind <;> simp
    rw [none, List.nil_append]
    exact List.filter_congr fun t _ => by cases kind : t.kind <;> simp

/-- The tasks of a pool are its group. -/
lemma filter_poolKey_claimsFirst (tasks : List Task) (key : Venue × Pubkey) :
    (claimsFirst tasks).filter (·.poolKey = key) = poolGroup tasks key := by
  rw [claimsFirst_eq, filter_flatMap_of_own (fun _ _ => poolKey_of_mem_poolGroup) key
    (nodup_keys tasks)]
  split
  · rfl
  next absent =>
    refine (List.eq_nil_iff_forall_not_mem.2 fun t mem => absent ?_).symm
    have found := poolKey_of_mem_poolGroup mem
    rw [List.mem_eraseDups, ← found]
    refine List.mem_map_of_mem ?_
    simp only [poolGroup_eq, List.mem_append, List.mem_filter] at mem
    exact mem.elim And.left And.left

/-- The tasks of a pool and a kind stay in their order. -/
lemma filter_claimsFirst (tasks : List Task) (key : Venue × Pubkey) (kind : ActionKind) :
    (claimsFirst tasks).filter (fun t => t.poolKey = key ∧ t.kind = kind) =
      tasks.filter fun t => t.poolKey = key ∧ t.kind = kind := by
  calc (claimsFirst tasks).filter (fun t => t.poolKey = key ∧ t.kind = kind)
    _ = ((claimsFirst tasks).filter (·.poolKey = key)).filter (·.kind = kind) := by
        simp only [List.filter_filter, Bool.decide_and, Bool.and_comm]
    _ = tasks.filter fun t => t.poolKey = key ∧ t.kind = kind := by
        rw [filter_poolKey_claimsFirst, filter_kind_poolGroup]

lemma poolGroup_ne_nil {key : Venue × Pubkey} (mem : key ∈ (tasks.map Task.poolKey).eraseDups) :
    poolGroup tasks key ≠ [] := by
  rw [List.mem_eraseDups, List.mem_map] at mem
  obtain ⟨t, listed, rfl⟩ := mem
  rw [← filter_poolKey_claimsFirst]
  have there : t ∈ claimsFirst tasks := (perm_claimsFirst tasks).mem_iff.2 listed
  exact List.ne_nil_of_mem (List.mem_filter.2 ⟨there, decide_eq_true rfl⟩)

/-- The pools stay in the order in which they first appear. -/
lemma keys_claimsFirst (tasks : List Task) :
    ((claimsFirst tasks).map Task.poolKey).eraseDups = (tasks.map Task.poolKey).eraseDups := by
  rw [claimsFirst_eq]
  exact eraseDups_map_flatMap (fun _ _ => poolKey_of_mem_poolGroup) (nodup_keys tasks)
    fun _ => poolGroup_ne_nil

/-! ## The order is a stable sort -/

/-- Of two tasks the first one is of the same pool or of a pool that appears before. -/
lemma pairwise_poolKey_claimsFirst (tasks : List Task) :
    (claimsFirst tasks).Pairwise fun t u => t.poolKey = u.poolKey ∨
      (tasks.map Task.poolKey).idxOf t.poolKey < (tasks.map Task.poolKey).idxOf u.poolKey := by
  rw [claimsFirst_eq]
  refine List.pairwise_flatMap.2 ⟨fun key _ => ?_, ?_⟩
  · refine List.pairwise_of_forall_mem_list fun t ht u hu => .inl ?_
    rw [poolKey_of_mem_poolGroup ht, poolKey_of_mem_poolGroup hu]
  · refine (pairwise_idxOf_eraseDups _).imp fun {key key'} before t ht u hu => .inr ?_
    rwa [poolKey_of_mem_poolGroup ht, poolKey_of_mem_poolGroup hu]

lemma pairwise_place_claimsFirst (tasks : List Task) :
    (claimsFirst tasks).Pairwise fun t u => place tasks t ≤ place tasks u := by
  refine ((pairwise_poolKey_claimsFirst tasks).and (claimsLead_claimsFirst tasks)).imp ?_
  rintro t u ⟨same | before, lead⟩
  · have pool := congrArg (List.idxOf · (tasks.map Task.poolKey)) same
    exact Prod.Lex.toLex_le_toLex.2 (.inr ⟨pool, ActionKind.rank_le_rank (lead same)⟩)
  · exact Prod.Lex.toLex_le_toLex.2 (.inl before)

lemma filter_place_claimsFirst (tasks : List Task) (p : Nat ×ₗ Nat) :
    (claimsFirst tasks).filter (place tasks · = p) = tasks.filter (place tasks · = p) := by
  have perm := perm_claimsFirst tasks
  by_cases taken : ∃ t ∈ tasks, place tasks t = p
  · obtain ⟨t, mem, rfl⟩ := taken
    have own : ∀ u ∈ tasks, decide (place tasks u = place tasks t) =
        decide (u.poolKey = t.poolKey ∧ u.kind = t.kind) :=
      fun u mem => decide_eq_decide.2 (place_eq_iff mem)
    rw [List.filter_congr own, List.filter_congr fun u mem => own u (perm.mem_iff.1 mem)]
    exact filter_claimsFirst tasks t.poolKey t.kind
  · have free : ∀ u ∈ tasks, ¬ decide (place tasks u = p) = true :=
      fun u mem found => taken ⟨u, mem, of_decide_eq_true found⟩
    rw [List.filter_eq_nil_iff.2 free,
      List.filter_eq_nil_iff.2 fun u mem => free u (perm.mem_iff.1 mem)]

/-- The order is the stable sort by where the tasks belong. -/
theorem claimsFirst_eq_mergeSort (tasks : List Task) :
    claimsFirst tasks = tasks.mergeSort fun t u => decide (place tasks t ≤ place tasks u) :=
  eq_mergeSort (pairwise_place_claimsFirst tasks) (filter_place_claimsFirst tasks)

/-- Tasks that are in order stay as they are. -/
lemma claimsFirst_claimsFirst (tasks : List Task) :
    claimsFirst (claimsFirst tasks) = claimsFirst tasks := by
  have groups : poolGroup (claimsFirst tasks) = poolGroup tasks := by
    funext key
    rw [poolGroup_eq, poolGroup_eq, filter_claimsFirst, filter_claimsFirst]
  rw [claimsFirst_eq, keys_claimsFirst, groups, ← claimsFirst_eq]

/-! ## The law -/

/-- A list is another one with its tasks brought together by pool. -/
structure Regrouped (tasks out : List Task) : Prop where
  perm : out.Perm tasks
  sorted : out = tasks.mergeSort fun t u => decide (place tasks t ≤ place tasks u)
  together : ∀ key, out.filter (·.poolKey = key) <:+: out
  pools : (out.map Task.poolKey).eraseDups = (tasks.map Task.poolKey).eraseDups
  claims : ClaimsLead out
  stable : ∀ key kind, out.filter (fun t => t.poolKey = key ∧ t.kind = kind) =
    tasks.filter fun t => t.poolKey = key ∧ t.kind = kind
  /-- The same address at two venues is two pools. -/
  apart : ∀ t ∈ tasks, ∀ u, place tasks t = place tasks u ↔
    t.venue = u.venue ∧ t.pool = u.pool ∧ t.kind = u.kind

/-- **The order of tasks is a stable sort**: by where the pool of a task first appears, and then
claims before withdrawals.  The groups of all pools come one after the other, and a list that is in
order stays as it is. -/
theorem regrouped_claimsFirst (tasks : List Task) :
    Regrouped tasks (claimsFirst tasks) ∧
      claimsFirst tasks = (tasks.map Task.poolKey).eraseDups.flatMap (poolGroup tasks) ∧
      claimsFirst (claimsFirst tasks) = claimsFirst tasks := by
  refine ⟨?_, claimsFirst_eq tasks, claimsFirst_claimsFirst tasks⟩
  constructor
  case perm => exact perm_claimsFirst tasks
  case sorted => exact claimsFirst_eq_mergeSort tasks
  case together =>
    intro key
    rw [claimsFirst_eq]
    exact filter_flatMap_infix (fun _ _ => poolKey_of_mem_poolGroup) key (nodup_keys tasks)
  case pools => exact keys_claimsFirst tasks
  case claims => exact claimsLead_claimsFirst tasks
  case stable => exact filter_claimsFirst tasks
  case apart =>
    intro t mem u
    rw [place_eq_iff mem, Task.poolKey, Task.poolKey, Prod.mk.injEq, and_assoc]

end Planning

end PoolExit
