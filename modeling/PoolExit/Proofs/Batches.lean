import PoolExit.Proofs.Play
import PoolExit.Proofs.Stages

/-!
# What a batch keeps

A wallet can fail a batch in every way at once: by the number of the transactions it returns, by
their order and by what they hold.  Whatever it does, the batch ends with one slot for each draft,
in the order of the drafts, and a failure stays in its own slot (`batch_kept`).

The slots of the second way are read off the requests: a request for one signature alone, with its
answer, says what the slot of its draft is filled with (`Fills`).
-/

namespace PoolExit

/-- The transaction that the wallet was asked to sign alone, and its answer; there is none where
the request was given up. -/
def Turn.alone? : Turn → Option (Transaction × Option (Except SignerError Transaction))
  | ⟨.call (.signOne t), answer, _⟩ => some (t, some answer)
  | ⟨.race (.signOne t), answer, _⟩ => some (t, answer)
  | _ => none

namespace Signing

open Talk

/-- The slot that a request for one signature alone fills. -/
structure Fills (request : Transaction × Option (Except SignerError Transaction))
    (slot : Transaction × Option SignerError) : Prop where
  signs : slot.2 = none ↔ ∃ t, request.2 = some (.ok t) ∧ t.message = request.1.message
  taken : slot.2 = none → request.2 = some (.ok slot.1)
  unchanged : slot.2 ≠ none → slot.1 = request.1

/-- What a batch keeps that made requests for one signature after the other. -/
structure KeptInTurn (drafts : List Transaction)
    (requests : List (Transaction × Option (Except SignerError Transaction))) (s : Signatures) :
    Prop where
  asked : requests.map Prod.fst = drafts
  signs : ∀ {i : Nat} {draft answer}, requests[i]? = some (draft, answer) →
    (s.errors[i]? = some none ↔ ∃ t, answer = some (.ok t) ∧ t.message = draft.message)
  taken : ∀ {i : Nat} {draft answer}, requests[i]? = some (draft, answer) →
    s.errors[i]? = some none → ∃ t, answer = some (.ok t) ∧ s.transactions[i]? = some t

/-- What a batch keeps that was asked for in the turns. -/
structure Kept (drafts : List Transaction) (ts : List Turn) (s : Signatures) : Prop where
  transactions : s.transactions.length = drafts.length
  errors : s.errors.length = drafts.length
  message : ∀ {i : Nat} {draft t : Transaction}, drafts[i]? = some draft →
    s.transactions[i]? = some t → t.message = draft.message
  unchanged : ∀ {i : Nat} {e}, s.errors[i]? = some (some e) → s.transactions[i]? = drafts[i]?
  bulk : s.path = .bulk → (∀ e ∈ s.errors, e = none) ∧ ts.filterMap Turn.alone? = []
  sequential : s.path = .sequential → KeptInTurn drafts (ts.filterMap Turn.alone?) s

section

variable {bulk : Bool} {drafts : List Transaction} {ts : List Turn} {s : Signatures}

/-! ## One after the other -/

lemma Slotted.request {index : Nat} {draft : Transaction}
    {slot : Transaction × Option SignerError} (slotted : Slotted index draft ts slot) :
    ∃ answer, ts.filterMap Turn.alone? = [(draft, answer)] ∧ Fills (draft, answer) slot := by
  cases slotted with
  | signed x t same => exact ⟨some (.ok t), rfl, by simp [same], fun _ => rfl, by simp⟩
  | changed x t other => exact ⟨some (.ok t), rfl, by simp [other], by simp, fun _ => rfl⟩
  | refused x y e => exact ⟨some (.error e), rfl, by simp, by simp, fun _ => rfl⟩

/-- Each draft is asked for once, and its slot is filled by the answer. -/
lemma SlottedAll.requests {index : Nat} {slots : List (Transaction × Option SignerError)}
    (went : SlottedAll index drafts ts slots) :
    (ts.filterMap Turn.alone?).map Prod.fst = drafts ∧
      List.Forall₂ Fills (ts.filterMap Turn.alone?) slots := by
  induction went with
  | nil index => exact ⟨rfl, .nil⟩
  | cons first rest ih =>
      obtain ⟨answer, request, fills⟩ := first.request
      rw [List.filterMap_append, request]
      exact ⟨congrArg (List.cons _) ih.1, .cons fills ih.2⟩

/-- Asking for all signatures at once asks for none alone. -/
lemma Asked.requests {r : Except SignerError (List Transaction)}
    (asked : Asked drafts bulk ts r) : ts.filterMap Turn.alone? = [] := by
  cases asked <;> rfl

/-! ## Whole batches -/

/-- Requests that fill the slots keep the batch. -/
lemma keptInTurn_of_fills {slots : List (Transaction × Option SignerError)}
    {requests : List (Transaction × Option (Except SignerError Transaction))}
    (asked : requests.map Prod.fst = drafts) (fills : List.Forall₂ Fills requests slots) :
    KeptInTurn drafts requests ⟨slots.map Prod.fst, slots.map Prod.snd, .sequential⟩ := by
  -- A request and the slot that it fills stand at the same place.
  have filled : ∀ {i : Nat} {request}, requests[i]? = some request →
      ∃ slot, slots[i]? = some slot ∧ Fills request slot := by
    intro i request here
    obtain ⟨hi, rfl⟩ := List.getElem?_eq_some_iff.1 here
    have hj : i < slots.length := by rwa [← fills.length_eq]
    exact ⟨_, List.getElem?_eq_getElem hj, fills.get hi hj⟩
  refine ⟨asked, ?_, ?_⟩
  · intro i draft answer here
    obtain ⟨slot, there, fill⟩ := filled here
    simpa [there] using fill.signs
  · intro i draft answer here signed
    obtain ⟨slot, there, fill⟩ := filled here
    have unfailed : slot.2 = none := by simpa [there] using signed
    exact ⟨slot.1, fill.taken unfailed, by simp [there]⟩

lemma kept_of_slottedAll {us vs : List Turn} {slots : List (Transaction × Option SignerError)}
    (silent : us.filterMap Turn.alone? = []) (went : SlottedAll 0 drafts vs slots) :
    Kept drafts (us ++ vs) ⟨slots.map Prod.fst, slots.map Prod.snd, .sequential⟩ := by
  obtain ⟨asked, fills⟩ := went.requests
  have messages := went.messages
  have lengths : slots.length = drafts.length := messages.length_eq.symm
  refine ⟨by simpa using lengths, by simpa using lengths, ?_, ?_, nofun, fun _ => ?_⟩
  · intro i draft t here there
    obtain ⟨hi, rfl⟩ := List.getElem?_eq_some_iff.1 here
    have hj : i < slots.length := by omega
    obtain rfl : slots[i].1 = t := by simpa [List.getElem?_eq_getElem hj] using there
    exact messages.get hi hj
  · intro i e failed
    have hj : i < slots.length := by simpa using (List.getElem?_eq_some_iff.1 failed).1
    have hi : i < (vs.filterMap Turn.alone?).length := by rwa [fills.length_eq]
    have error : slots[i].2 = some e := by simpa [List.getElem?_eq_getElem hj] using failed
    have same : slots[i].1 = (vs.filterMap Turn.alone?)[i].1 :=
      (fills.get hi hj).unchanged (by simp [error])
    simp [← asked, List.getElem?_eq_getElem hj, List.getElem?_eq_getElem hi, same]
  · rw [List.filterMap_append, silent, List.nil_append]
    exact keptInTurn_of_fills asked fills

lemma kept_of_asked {signed : List Transaction} (asked : Asked drafts bulk ts (.ok signed)) :
    Kept drafts ts ⟨signed, signed.map fun _ => none, .bulk⟩ := by
  have requests := asked.requests
  cases asked with
  | signed x _ same =>
      have lengths : signed.length = drafts.length := same.length_eq.symm
      refine ⟨lengths, by simpa using lengths, ?_, ?_, fun _ => ⟨by simp, requests⟩, nofun⟩
      · intro i draft t here there
        obtain ⟨hi, rfl⟩ := List.getElem?_eq_some_iff.1 here
        obtain ⟨hj, rfl⟩ := List.getElem?_eq_some_iff.1 there
        exact same.get hi hj
      · intro i e failed
        obtain ⟨hi, error⟩ := List.getElem?_eq_some_iff.1 failed
        simp at error

lemma kept_of_goes_batch (go : Goes (batch bulk drafts) ts s) : Kept drafts ts s := by
  cases batched_of_goes go with
  | nothing empty =>
      subst empty
      exact ⟨rfl, rfl, by simp, by simp, fun _ => ⟨by simp, rfl⟩, nofun⟩
  | together asked => exact kept_of_asked asked
  | oneByOne asked went => exact kept_of_slottedAll asked.requests went

/-- What a run takes over from a batch has a place for each task. -/
lemma length_of_goes_settle {tasks : List Task} {b b' : Board} {us : List Turn}
    {slots : List (Option Transaction)}
    (transactions : s.transactions.length = tasks.length) (errors : s.errors.length = tasks.length)
    (go : Run.Goes (Run.settle (tasks.zip (s.transactions.zip s.errors)).zipIdx) b us slots b') :
    slots.length = tasks.length := by
  rw [← (Run.settled_of_goes go).filled.length_eq]
  simp [transactions, errors]

/-- **What a batch keeps.**  Whatever the wallet answers, the batch has one slot for each draft, in
order.  A slot holds the message of its draft, and where signing failed, the draft itself.  All at
once, nothing failed and nothing was asked for alone.  One after the other, each draft was asked for
once, in order, and its slot is without an error exactly where the wallet returned a transaction
with its message.  So a run finds a place for each of its tasks in what it takes over. -/
theorem batch_kept (go : Goes (batch bulk drafts) ts s) :
    Kept drafts ts s ∧
      ∀ {tasks : List Task} {b b' : Board} {us : List Turn} {slots : List (Option Transaction)},
        drafts = tasks.map (fun t => t.primary.transaction) →
        Run.Goes (Run.settle (tasks.zip (s.transactions.zip s.errors)).zipIdx) b us slots b' →
        slots.length = tasks.length := by
  have kept := kept_of_goes_batch go
  refine ⟨kept, ?_⟩
  rintro tasks b b' us slots rfl settling
  refine length_of_goes_settle ?_ ?_ settling
  · simpa using kept.transactions
  · simpa using kept.errors

/-- A wallet that alters what it signs fails the batch, and then the one draft that it alters. -/
theorem batch_kept_altered :
    let drafts := [Sample.transaction [Sample.owner] 0, Sample.transaction [Sample.owner] 1]
    let sign := fun tx => if tx = Sample.transaction [Sample.owner] 1 then
      Sample.transaction [Sample.owner] 9 else tx
    let w := Sample.world (fun _ => ⟨Sample.transaction [Sample.owner] 0, 10⟩) sign
    let turns := w.play {} [] (batch true drafts)
    turns.2 = ⟨drafts, [none, some (.messageChanged 1)], .sequential⟩ ∧
      Kept drafts turns.1 turns.2 := by
  intro drafts sign w turns
  exact ⟨by decide +kernel, (batch_kept (World.goes_play (batch true drafts) {} [])).1⟩

end

end Signing

end PoolExit
