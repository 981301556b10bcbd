import PoolExit.Proofs.Verdict

/-!
# Dry runs

A dry run plans, passes the guard and has its batch signed as every run does.  Then it has simulated
what was signed, one item after the other, and nothing else is asked of the ledger.  The simulations
go through the items in order, so each item has one of them at most (`Rehearsed.simulations`), and
the answers are all that the work makes of an item (`Rehearsed.item`).

So nothing is sent in a dry run, no draft is built anew, and no item ever shows an attempt.  Where
the run is not cancelled, an item fails exactly if its signature or its simulation did, and
otherwise it is skipped (`Desk.Ran.sends_nothing`).
-/

namespace PoolExit

/-! ## Simulations -/

/-- The transaction that the ledger is asked to simulate, and its answer; there is none where the
request was given up. -/
def Turn.simulated? : Turn → Option (Transaction × Option (Except LedgerError Unit))
  | ⟨.call (.simulate t), answer, _⟩ => some (t, some answer)
  | ⟨.race (.simulate t), answer, _⟩ => some (t, answer)
  | _ => none

/-- Where no simulation is called for, there is none. -/
lemma Turn.simulated?_eq_none {t : Turn} (other : ∀ tx, t.step.call? ≠ some (.simulate tx)) :
    t.simulated? = none := by
  unfold simulated?
  split
  next tx _ _ => exact absurd rfl (other tx)
  next tx _ _ => exact absurd rfl (other tx)
  next => rfl

/-- A simulation of the transaction of the item in work. -/
structure Simulation where
  item : Option Nat
  transaction : Transaction
  answer : Option (Except LedgerError Unit)

/-- The ledger answered that the transaction would fail. -/
def Simulation.Failed (s : Simulation) : Prop := ∃ e, s.answer = some (.error e)

/-- The answers to the simulations of the item at a place. -/
def answersAt (k : Nat) (simulations : List Simulation) : List (Except LedgerError Unit) :=
  simulations.filterMap fun s => if s.item = some k then s.answer else none

section

variable {k : Nat} {simulations : List Simulation}

lemma mem_answersAt {answer : Except LedgerError Unit} : answer ∈ answersAt k simulations ↔
    ∃ s ∈ simulations, s.item = some k ∧ s.answer = some answer := by
  simp [answersAt, List.mem_filterMap, Option.ite_none_right_eq_some]

/-- Where no item is simulated twice, there is one answer at most. -/
lemma length_answersAt_le (distinct : (simulations.map Simulation.item).Nodup) :
    (answersAt k simulations).length ≤ 1 := by
  by_cases simulated : ∃ s ∈ simulations, s.item = some k
  · obtain ⟨s, mem, here⟩ := simulated
    obtain ⟨before, after, rfl⟩ := List.append_of_mem mem
    rw [List.map_append, List.map_cons, List.nodup_middle, List.nodup_cons, here,
      ← List.map_append] at distinct
    have elsewhere : ∀ l ⊆ before ++ after, answersAt k l = [] := by
      refine fun l sub => List.filterMap_eq_nil_iff.2 fun u mem => if_neg fun same => ?_
      exact distinct.1 (List.mem_map.2 ⟨u, sub mem, same⟩)
    have first := elsewhere before (List.subset_append_left ..)
    have later := elsewhere after (List.subset_append_right ..)
    unfold answersAt at first later ⊢
    rw [List.filterMap_append, first, List.filterMap_cons, later]
    cases s.answer <;> simp [here]
  · have none : answersAt k simulations = [] :=
      List.filterMap_eq_nil_iff.2 fun s mem => if_neg fun here => simulated ⟨s, mem, here⟩
    simp [none]

end

namespace Board

/-- The simulations in the turns, each of the item that is in work then. -/
def simulations : Board → List Turn → List Simulation :=
  gather fun b t => t.simulated?.map fun s => ⟨b.currentIndex, s.1, s.2⟩

variable {b : Board} {ts us : List Turn}

lemma simulations_append (b : Board) (ts us : List Turn) :
    b.simulations (ts ++ us) = b.simulations ts ++ (b.afterAll ts).simulations us :=
  gather_append ..

lemma simulations_of_unsimulated (unsimulated : ∀ t ∈ ts, t.simulated? = none) :
    b.simulations ts = [] := by
  refine gather_of_untold fun t ht c => ?_
  rw [unsimulated t ht, Option.map_none]

/-- Turns that show no board and simulate nothing leave the rest as it is. -/
lemma simulations_of_quiet {K : Call → Prop} (quiet : ∀ t ∈ ts, t.step.Quiet K)
    (other : ∀ tx, ¬ K (.simulate tx)) (us : List Turn) :
    b.simulations (ts ++ us) = b.simulations us := by
  have unsimulated : ∀ t ∈ ts, t.simulated? = none := fun t ht =>
    Turn.simulated?_eq_none fun tx calls => other tx ((quiet t ht).2 _ calls)
  rw [simulations_append, simulations_of_unsimulated unsimulated,
    afterAll_of_silent fun t ht => (quiet t ht).1, List.nil_append]

@[simp] lemma simulations_nil (b : Board) : b.simulations [] = [] := rfl

@[simp] lemma simulations_stopped (b : Board) (answer x : Bool) (ts : List Turn) :
    b.simulations (⟨.stopped, answer, x⟩ :: ts) = b.simulations ts := rfl

@[simp] lemma simulations_note (b : Board) (n : Notice) (x : Bool) (ts : List Turn) :
    b.simulations (⟨.note n, (), x⟩ :: ts) = b.simulations ts := rfl

@[simp] lemma simulations_publish (b c : Board) (x : Bool) (ts : List Turn) :
    b.simulations (⟨.publish c, (), x⟩ :: ts) = c.simulations ts := rfl

end Board

/-! ## Items -/

namespace Item

/-- What the answer to its simulation makes of an item. -/
def rehearsed (i : Item) : Except LedgerError Unit → Item
  | .ok _ => (i.skip Run.dryRunReason).2
  | .error e => (i.fail e.message).2

variable {i : Item}

lemma rehearsed_of_terminal (ended : i.status.isTerminal = true)
    (answer : Except LedgerError Unit) : i.rehearsed answer = i := by
  cases answer <;> exact stop_of_terminal ended _ _

/-- What has ended stays as it is, however often it is simulated. -/
lemma foldl_rehearsed_of_terminal (ended : i.status.isTerminal = true)
    (answers : List (Except LedgerError Unit)) : answers.foldl rehearsed i = i := by
  induction answers with
  | nil => rfl
  | cons answer answers ih => rw [List.foldl_cons, rehearsed_of_terminal ended, ih]

/-- The answer decides how a signed item ends. -/
lemma status_rehearsed_signed (task : Task) (answer : Except LedgerError Unit) :
    ((signed task).rehearsed answer).status = .error ∧ (∃ e, answer = .error e) ∨
      ((signed task).rehearsed answer).status = .skipped ∧ answer = .ok () := by
  cases answer with
  | ok u => exact .inr ⟨rfl, rfl⟩
  | error e => exact .inl ⟨rfl, e, rfl⟩

/-- Nothing was tried for the item, and nothing was sent. -/
structure Unsent (i : Item) : Prop where
  attempts : i.attempts = 0
  submissionId : i.submissionId = none
  feeLevel : i.feeLevel = none

lemma unsent_pending (task : Task) : (pending task).Unsent := ⟨rfl, rfl, rfl⟩

lemma Unsent.advance (unsent : i.Unsent) (next : Status) : (i.advance next).2.Unsent := by
  unfold Item.advance
  split
  · exact ⟨unsent.attempts, unsent.submissionId, unsent.feeLevel⟩
  · exact unsent

lemma Unsent.stop (unsent : i.Unsent) (next : Status) (reason : String) :
    (i.stop next reason).2.Unsent := by
  have advanced := unsent.advance next
  unfold Item.stop
  split
  next j moved =>
    rw [moved] at advanced
    exact ⟨advanced.attempts, advanced.submissionId, advanced.feeLevel⟩
  next j moved => rwa [moved] at advanced

end Item

namespace Board

/-- No item on the board shows that anything was tried or sent. -/
def Unsent (b : Board) : Prop := ∀ i ∈ b.items, i.Unsent

variable {b : Board}

lemma unsent_opened : Board.opened.Unsent := List.forall_mem_nil _

lemma unsent_planned (b : Board) (tasks : List Task) : (b.planned tasks).Unsent :=
  List.forall_mem_map.2 fun task _ => Item.unsent_pending task

lemma Unsent.focus (unsent : b.Unsent) (index : Nat) : (b.focus index).Unsent := unsent

lemma Unsent.update (unsent : b.Unsent) (index : Nat) {change : Item → Item}
    (keeps : ∀ {i : Item}, i.Unsent → (change i).Unsent) : (b.update index change).Unsent := by
  intro j mem
  obtain ⟨k, found⟩ := List.mem_iff_getElem?.1 mem
  rw [getElem?_update] at found
  split at found
  · obtain ⟨i, listed, rfl⟩ := Option.map_eq_some_iff.1 found
    exact keeps (unsent i (List.mem_of_getElem? listed))
  · exact unsent j (List.mem_of_getElem? found)

lemma Unsent.closed (unsent : b.Unsent) (error : Option String) (cancelled : Bool) :
    (b.closed error cancelled).Unsent := by
  cases cancelled with
  | false => exact unsent
  | true => exact List.forall_mem_map.2 fun i mem => (unsent i mem).stop _ _

end Board

namespace Run

/-! ## The work of a dry run -/

section

variable {primary : Transaction} {index : Nat} {task : Task} {b b' : Board} {ts : List Turn}

lemma Rehearsal.board (rehearsal : Rehearsal primary index task b ts b') :
    b.afterAll ts = b' := by
  cases rehearsal <;> rfl

/-- The answer to its simulation is all that becomes of an item. -/
lemma Rehearsal.answered (rehearsal : Rehearsal primary index task b ts b') : ∃ answer,
    b.simulations ts = [⟨b.currentIndex, primary, some answer⟩] ∧
      b' = b.update index fun i => i.rehearsed answer := by
  cases rehearsal with
  | passed x y => exact ⟨.ok (), rfl, rfl⟩
  | failed e x y z => exact ⟨.error e, rfl, rfl⟩

/-- When its turn comes, an item is simulated once. -/
lemma Rehearsal.round (rehearsal : Rehearsal primary index task (b.focus index) ts b')
    (x y : Bool) (us : List Turn) : ∃ answer,
    b.simulations (⟨.stopped, false, x⟩ :: ⟨.publish (b.focus index), (), y⟩ :: (ts ++ us)) =
        ⟨some index, primary, some answer⟩ :: b'.simulations us ∧
      b'.items = (b.update index fun i => i.rehearsed answer).items := by
  obtain ⟨answer, simulated, rfl⟩ := rehearsal.answered
  refine ⟨answer, ?_, rfl⟩
  rw [Board.simulations_stopped, Board.simulations_publish, Board.simulations_append, simulated,
    rehearsal.board]
  rfl

lemma Rehearsal.unsent (rehearsal : Rehearsal primary index task b ts b') (unsent : b.Unsent) :
    Shows Board.Unsent ts ∧ b'.Unsent := by
  cases rehearsal with
  | passed x y =>
      have skipped : (b.update index fun i => (i.skip dryRunReason).2).Unsent :=
        unsent.update index fun here => here.stop .skipped dryRunReason
      exact ⟨by simpa [Step.board?] using skipped, skipped⟩
  | failed e x y z =>
      have failed : (b.update index fun i => (i.fail e.message).2).Unsent :=
        unsent.update index fun here => here.stop .error e.message
      exact ⟨by simpa [Step.board?] using failed, failed⟩

end

section

variable {work : List ((Task × Option Transaction) × Nat)} {b b' : Board} {ts : List Turn}

/-- The simulations go through the work in order. -/
theorem Rehearsed.simulations (rehearsed : Rehearsed work b ts b') :
    ((b.simulations ts).map fun s => (s.item, some s.transaction)).Sublist
      (work.map fun w => (some w.2, w.1.2)) := by
  induction rehearsed with
  | done => exact List.nil_sublist _
  | unsigned rest ih => exact ih.cons _
  | stopped => exact List.nil_sublist _
  | @simulated task primary index work b ts b₁ us b' x y rehearsal rest ih =>
      obtain ⟨answer, round, -⟩ := rehearsal.round x y us
      rw [round]
      exact ih.cons_cons _

/-- What the work of a dry run makes of an item is what the answers to its simulations make of
it. -/
theorem Rehearsed.item (rehearsed : Rehearsed work b ts b') (k : Nat) :
    b'.items[k]? = b.items[k]?.map fun i =>
      (answersAt k (b.simulations ts)).foldl Item.rehearsed i := by
  induction rehearsed with
  | done | stopped => exact Option.map_id'.symm
  | unsigned rest ih => exact ih
  | @simulated task primary index work b ts b₁ us b' x y rehearsal rest ih =>
      obtain ⟨answer, round, items⟩ := rehearsal.round x y us
      rw [round, ih, items, Board.getElem?_update]
      by_cases here : index = k
      · subst here
        simp [answersAt, Function.comp_def]
      · simp [answersAt, here]

lemma Rehearsed.unsent (rehearsed : Rehearsed work b ts b') (unsent : b.Unsent) :
    Shows Board.Unsent ts ∧ b'.Unsent := by
  induction rehearsed with
  | done => exact ⟨shows_nil, unsent⟩
  | unsigned rest ih => exact ih unsent
  | stopped => exact ⟨by simp [Step.board?], unsent⟩
  | @simulated task primary index work b ts b₁ us b' x y rehearsal rest ih =>
      have focused := unsent.focus index
      obtain ⟨shown, unsent'⟩ := rehearsal.unsent focused
      obtain ⟨later, unsent''⟩ := ih unsent'
      exact ⟨by simp [Step.board?, focused, shown, later], unsent''⟩

end

/-! ## The outcome of signing -/

section

variable {entries : List ((Task × Transaction × Option SignerError) × Nat)}
  {slots : List (Option Transaction)} {b b' : Board} {ts : List Turn}

lemma Settled.unsent (settled : Settled entries b ts slots b') (unsent : b.Unsent) :
    Shows Board.Unsent ts ∧ b'.Unsent := by
  induction settled with
  | done => exact ⟨shows_nil, unsent⟩
  | @signed task transaction index rest b ts slots b' x settled ih =>
      have signed : (b.update index fun i => (i.advance .signed).2).Unsent :=
        unsent.update index fun here => here.advance .signed
      obtain ⟨later, unsent'⟩ := ih signed
      exact ⟨by simp [Step.board?, signed, later], unsent'⟩
  | @refused task transaction e index rest b ts slots b' x y settled ih =>
      have refused : (b.update index fun i => (i.fail e.message).2).Unsent :=
        unsent.update index fun here => here.stop .error e.message
      obtain ⟨later, unsent'⟩ := ih refused
      exact ⟨by simp [Step.board?, refused, later], unsent'⟩

end

/-! ## The whole run -/

section

variable {setup : Setup} {o : Options} {plan : Plan} {b b' : Board} {ts : List Turn}

/-- Making the plan simulates nothing. -/
lemma simulations_planning {made : Option Plan} (go : Talk.Goes (planning setup o) ts made)
    (us : List Turn) : b.simulations (ts ++ us) = b.simulations us := by
  refine Board.simulations_of_quiet (quiet_of_goes_planning go) ?_ us
  rintro tx (⟨_, _, h⟩ | ⟨_, _, h⟩) <;> cases h

/-- Having the batch signed simulates nothing. -/
lemma simulations_signing {outcome : Option Signatures}
    (go : Talk.Goes (signing setup plan) ts outcome) (us : List Turn) :
    b.simulations (ts ++ us) = b.simulations us := by
  refine Board.simulations_of_quiet (quiet_of_goes_signing go) ?_ us
  rintro tx (h | ⟨_, _, h⟩) <;> cases h

/-- Taking in the signatures simulates nothing. -/
theorem Settled.simulations {entries : List ((Task × Transaction × Option SignerError) × Nat)}
    {slots : List (Option Transaction)} (settled : Settled entries b ts slots b')
    (us : List Turn) : b.simulations (ts ++ us) = b'.simulations us := by
  induction settled with
  | done => rfl
  | signed x settled ih | refused x y settled ih => exact ih

/-- A dry run that has come to its work, with the outcome of signing and what was made of it. -/
structure Simulating (setup : Setup) (o : Options) (ts : List Turn) (plan : Plan)
    (outcome : Signatures) (slots : List (Option Transaction)) (b : Board) (ws : List Turn)
    (b' : Board) : Prop where
  goes : ∃ us, Talk.Goes (signing setup plan) us (some outcome)
  signed : ∀ x vs, Signed setup o (⟨.publish Board.opened, (), x⟩ :: (ts ++ vs)) plan outcome
  refusal : ∀ x vs k e, SigningFailed setup o (⟨.publish Board.opened, (), x⟩ :: (ts ++ vs)) k e ↔
    refusal? (some outcome) k = some e
  settled : ∃ vs, Settled (entries plan outcome) (Board.opened.planned plan.tasks) vs slots b
  rehearsed : Rehearsed (plan.tasks.zip slots).zipIdx b ws b'
  simulations : Board.opened.simulations ts = b.simulations ws

/-- A dry run that does not come to its work simulates nothing. -/
lemma Executed.simulating {r : Except ExitError Unit}
    (executed : Executed setup o Board.opened ts r b') (dry : o.dryRun = true) :
    (Board.opened.simulations ts = [] ∧ (r = .ok () → b'.items = [])) ∨
      ∃ plan outcome slots b ws, Simulating setup o ts plan outcome slots b ws b' := by
  cases executed with
  | unplanned planned => exact .inl ⟨by simpa using simulations_planning planned [], nofun⟩
  | @planned ps plan us _ _ planned acted =>
      rw [simulations_planning planned]
      cases acted with
      | nothing empty x y =>
          refine .inl ⟨rfl, fun _ => ?_⟩
          rw [empty]
          rfl
      | refused refused x y => exact .inl ⟨rfl, nofun⟩
      | unsigned passed x signed => exact .inl ⟨by simpa using simulations_signing signed [], nofun⟩
      | @worked us outcome vs slots b ws _ passed x signed y settled worked =>
          cases worked with
          | submitted plain => simp [dry] at plain
          | rehearsed _ rehearsed =>
              refine .inr ⟨plan, outcome, slots, b, ws, ⟨us, signed⟩, fun z rest => ?_,
                fun z rest k e => ?_, ⟨vs, settled⟩, rehearsed, ?_⟩
              · refine ⟨z, ps, x, us, ⟨.note (.signed outcome.path plan.tasks.length
                  outcome.failed), (), y⟩ :: (vs ++ ws) ++ rest, ?_, planned, signed⟩
                simp
              · rw [← signingFailed_iff planned signed]
                simp only [List.append_assoc, List.cons_append]
                rfl
              · rw [simulations_planning planned, Board.simulations_publish,
                  simulations_signing signed, Board.simulations_note, settled.simulations]

/-- An item that one answer at most has ended failed for want of a signature, or for this answer. -/
lemma verdict_of_answers {task : Task} {refusal : Option SignerError}
    {answers : List (Except LedgerError Unit)} (once : answers.length ≤ 1)
    (ended : (answers.foldl Item.rehearsed (settledItem task refusal)).status.isTerminal = true) :
    ((answers.foldl Item.rehearsed (settledItem task refusal)).status = .error ↔
      refusal ≠ none ∨ ∃ e, .error e ∈ answers) ∧
    ((answers.foldl Item.rehearsed (settledItem task refusal)).status = .error ∨
      (answers.foldl Item.rehearsed (settledItem task refusal)).status = .skipped) := by
  cases refusal with
  | some e =>
      have failed : (settledItem task (some e)).status = .error := rfl
      rw [Item.foldl_rehearsed_of_terminal rfl]
      simp [failed]
  | none =>
      match answers, once with
      | [], _ => cases ended
      | [answer], _ =>
          rcases Item.status_rehearsed_signed task answer with ⟨failed, e, rfl⟩ | ⟨skipped, rfl⟩
          · simp [settledItem, failed]
          · simp [settledItem, skipped]

section

variable {outcome : Signatures} {slots : List (Option Transaction)} {ws : List Turn} {c : Board}

/-- The simulations are of different items, in their order. -/
lemma Simulating.inOrder (simulating : Simulating setup o ts plan outcome slots c ws b') :
    ∃ ks : List Nat, (Board.opened.simulations ts).map Simulation.item = ks.map some ∧
      ks.Pairwise (· < ·) := by
  have inWork := simulating.rehearsed.simulations.map Prod.fst
  rw [← simulating.simulations, List.map_map, List.map_map] at inWork
  have places : ((plan.tasks.zip slots).zipIdx.map Prod.snd).map some =
      (plan.tasks.zip slots).zipIdx.map (Prod.fst ∘ fun w => (some w.2, w.1.2)) :=
    List.map_map
  obtain ⟨ks, sub, items⟩ := List.sublist_map_iff.1 (places ▸ inWork)
  refine ⟨ks, items, ?_⟩
  rw [List.zipIdx_map_snd] at sub
  exact List.Pairwise.sublist sub List.pairwise_lt_range'

/-- What is simulated was signed in the batch. -/
lemma Simulating.signed_of_mem (simulating : Simulating setup o ts plan outcome slots c ws b')
    {s : Simulation} (mem : s ∈ Board.opened.simulations ts) : ∃ k, s.item = some k ∧
      outcome.errors[k]? = some none ∧ outcome.transactions[k]? = some s.transaction := by
  rw [simulating.simulations] at mem
  obtain ⟨⟨⟨task, slot⟩, k⟩, work, same⟩ :=
    List.mem_map.1 (simulating.rehearsed.simulations.subset (List.mem_map_of_mem mem))
  obtain ⟨here, rfl⟩ := Prod.mk.inj same
  obtain ⟨vs, settled⟩ := simulating.settled
  obtain ⟨-, slotted⟩ := List.getElem?_zip_eq_some.1 (List.mem_zipIdx_iff_getElem?.1 work)
  obtain ⟨task', t, error, found, filling⟩ := settled.slot_of_getElem? slotted
  obtain ⟨-, outcomes⟩ := List.getElem?_zip_eq_some.1 found
  obtain ⟨transactions, errors⟩ := List.getElem?_zip_eq_some.1 outcomes
  cases filling with
  | signed => exact ⟨k, here.symm, errors, transactions⟩

/-- An item that has ended failed if its signature or its simulation did, and otherwise it was
skipped. -/
lemma Simulating.failed_iff (simulating : Simulating setup o ts plan outcome slots c ws b')
    {k : Nat} {i : Item} (found : b'.items[k]? = some i) (ended : i.status.isTerminal = true) :
    (i.status = .error ↔ refusal? (some outcome) k ≠ none ∨
      ∃ s ∈ Board.opened.simulations ts, s.item = some k ∧ s.Failed) ∧
    (i.status = .error ∨ i.status = .skipped) := by
  obtain ⟨us, signed⟩ := simulating.goes
  obtain ⟨vs, settled⟩ := simulating.settled
  have tasks : b'.tasks = plan.tasks :=
    simulating.rehearsed.onward.tasks.trans (settled.onward.tasks.trans (tasks_planned _ _))
  have inside : k < plan.tasks.length := by
    rw [← tasks, Board.tasks, List.length_map]
    exact (List.getElem?_eq_some_iff.1 found).1
  obtain ⟨task, t, error, listed, refusal⟩ := exists_outcome_at signed inside
  have before : c.items[k]? = some (settledItem task error) := by
    simpa using (settled.settledFrom rfl (pendingFrom_planned plan _)).2 listed
  obtain ⟨ks, items, ascending⟩ := simulating.inOrder
  have distinct : ((Board.opened.simulations ts).map Simulation.item).Nodup := by
    rw [items]
    exact (ascending.imp Nat.ne_of_lt).map some fun _ _ => mt Option.some.inj
  -- The item is as the answers to its simulations make it.
  rw [simulating.rehearsed.item k, before, ← simulating.simulations] at found
  obtain rfl := Option.some.inj found
  obtain ⟨failed, settles⟩ := verdict_of_answers (length_answersAt_le distinct) ended
  refine ⟨failed.trans ?_, settles⟩
  rw [refusal]
  refine or_congr_right ⟨?_, ?_⟩
  · rintro ⟨e, mem⟩
    obtain ⟨s, mem, here, answer⟩ := mem_answersAt.1 mem
    exact ⟨s, mem, here, e, answer⟩
  · rintro ⟨s, mem, here, e, answer⟩
    exact ⟨e, mem_answersAt.2 ⟨s, mem, here, answer⟩⟩

end

lemma Acted.unsent {r : Except ExitError Unit} (acted : Acted setup o plan b ts r b')
    (dry : o.dryRun = true) : Shows Board.Unsent ts ∧ b'.Unsent := by
  have planned := b.unsent_planned plan.tasks
  cases acted with
  | nothing empty x y | refused refused x y => exact ⟨by simp [Step.board?, planned], planned⟩
  | unsigned passed x signed =>
      have silent : Shows Board.Unsent _ := shows_of_quiet (quiet_of_goes_signing signed)
      exact ⟨by simp [Step.board?, planned, silent], planned⟩
  | worked passed x signed y settled worked =>
      cases worked with
      | submitted plain => simp [dry] at plain
      | rehearsed _ rehearsed =>
          have silent : Shows Board.Unsent _ := shows_of_quiet (quiet_of_goes_signing signed)
          obtain ⟨settles, unsent⟩ := settled.unsent planned
          obtain ⟨works, unsent'⟩ := rehearsed.unsent unsent
          exact ⟨by simp [Step.board?, planned, silent, settles, works], unsent'⟩

lemma Executed.unsent {r : Except ExitError Unit} (executed : Executed setup o b ts r b')
    (dry : o.dryRun = true) (unsent : b.Unsent) : Shows Board.Unsent ts ∧ b'.Unsent := by
  cases executed with
  | unplanned planned => exact ⟨shows_of_quiet (quiet_of_goes_planning planned), unsent⟩
  | planned planned acted =>
      obtain ⟨shown, unsent'⟩ := acted.unsent dry
      exact ⟨shows_append.2 ⟨shows_of_quiet (quiet_of_goes_planning planned), shown⟩, unsent'⟩

lemma Concluded.unsent {outcome : Except ExitError Unit} {result : Except ExitError Board}
    (concluded : Concluded b outcome ts result b') (unsent : b.Unsent) : Shows Board.Unsent ts ∧
      ∀ board, result = .ok board → board.Unsent := by
  cases concluded with
  | finished harmless cancelled x y z =>
      have closed := unsent.closed none cancelled
      refine ⟨by simp [Step.board?, closed], ?_⟩
      rintro _ ⟨⟩
      exact closed
  | @givenUp e harmful cancelled x y z =>
      have closed := unsent.closed (some e.describe) cancelled
      refine ⟨by simp [Step.board?, closed], ?_⟩
      rintro _ ⟨⟩

/-- The end of a run simulates nothing. -/
theorem Concluded.simulations {outcome : Except ExitError Unit} {result : Except ExitError Board}
    (concluded : Concluded b outcome ts result b') (start : Board) (us : List Turn) :
    start.simulations (us ++ ts) = start.simulations us := by
  rw [Board.simulations_append]
  cases concluded <;> simp

end

end Run

namespace Desk.Ran

open Run

variable {d : Desk} {setup : Setup} {o : Options} {turns : List Turn}
  {result : Except ExitError Board}

/-- A dry run calls for drafts, for signatures and for simulations. -/
lemma calls_of_dry (ran : d.Ran setup o turns result) (dry : o.dryRun = true) {t : Turn}
    (mem : t ∈ turns) {c : Call} (calls : t.step.call? = some c) :
    Planning.ToVenue c ∨ (∃ drafts, Signing.Requests drafts c) ∨ ∃ tx, c = .simulate tx := by
  obtain ⟨before, after, split⟩ := List.append_of_mem mem
  cases (ran.placed calls split).1 with
  | planning quiet => exact .inl (quiet.2 c calls).toVenue
  | signing passed quiet => exact .inr (.inl ⟨_, quiet.2 c calls⟩)
  | attempting plain => simp [dry] at plain
  | rehearsing _ passed inLine rehearsing =>
      cases rehearsing with
      | intro => exact .inr (.inr ⟨_, (Option.some.inj calls).symm⟩)

/-- Once a dry run has made its plan, it orders no draft. -/
lemma unordered_of_dry (ran : d.Ran setup o turns result) (dry : o.dryRun = true) :
    ∃ x ps made us, turns = ⟨.publish Board.opened, (), x⟩ :: (ps ++ us) ∧
      Talk.Goes (planning setup o) ps made ∧
      ∀ t ∈ us, ∀ adapter order, t.step.call? ≠ some (.build adapter order) := by
  obtain ⟨x, us, outcome, b, vs, b', rfl, executed, concluded⟩ := ran.course
  have callless := callless_of_concluded concluded
  cases executed with
  | unplanned planned =>
      refine ⟨x, us, none, vs, rfl, planned, fun t mem adapter order => ?_⟩
      simp [callless t mem]
  | @planned ps plan us _ _ planned acted =>
      refine ⟨x, ps, some plan, us ++ vs, by rw [List.append_assoc], planned,
        fun t mem adapter order builds => ?_⟩
      rcases List.mem_append.1 mem with mem | mem
      · obtain ⟨before, after, split⟩ := List.append_of_mem mem
        obtain ⟨plain, -⟩ := acted.attempting_of_build builds split
        simp [dry] at plain
      · simp [callless t mem] at builds

/-- No board of a dry run shows an attempt. -/
lemma unsent_of_dry (ran : d.Ran setup o turns result) (dry : o.dryRun = true) {board : Board}
    (seen : result = .ok board ∨ ∃ before, d.Snapshot turns before board) : board.Unsent := by
  obtain ⟨x, us, outcome, b, vs, b', rfl, executed, concluded⟩ := ran.course
  obtain ⟨shown, unsent⟩ := executed.unsent dry Board.unsent_opened
  obtain ⟨later, returned⟩ := concluded.unsent unsent
  have shows : Shows Board.Unsent (us ++ vs) := shows_append.2 ⟨shown, later⟩
  rcases seen with ok | ⟨before, snapshot⟩
  · exact returned board ok
  cases snapshot with
  | @shown _ y after split =>
      have all : Shows Board.Unsent (⟨.publish Board.opened, (), x⟩ :: (us ++ vs)) := by
        simpa [Step.board?, Board.unsent_opened] using shows
      exact all ⟨.publish board, (), y⟩ (by simp [split]) board rfl
  | @dropped u c after split calls =>
      have here : (d.board.afterAll before).Unsent := by
        cases before with
        | nil =>
            obtain ⟨rfl, -⟩ := List.cons.inj split
            cases calls
        | cons w before =>
            obtain ⟨rfl, rest⟩ := List.cons.inj split
            rw [rest] at shows
            have later := Board.afterAll_of_shows (shows_append.1 shows).1 Board.unsent_opened
            exact later
      rw [← Desk.board_afterAll_eq] at here
      rcases board_drop (d.afterAll before) with same | same
      · rwa [same]
      · rw [same]
        exact here.closed _ _

/-- The simulations of a dry run are of different items, in their order, and what is simulated was
signed in the batch. -/
lemma simulations_of_dry (ran : d.Ran setup o turns result) (dry : o.dryRun = true) :
    (∃ ks : List Nat, (d.board.simulations turns).map Simulation.item = ks.map some ∧
      ks.Pairwise (· < ·)) ∧
    ∀ s ∈ d.board.simulations turns, ∃ k plan outcome, s.item = some k ∧
      Signed setup o turns plan outcome ∧ outcome.errors[k]? = some none ∧
      outcome.transactions[k]? = some s.transaction := by
  obtain ⟨x, us, outcome, b, vs, b', rfl, executed, concluded⟩ := ran.course
  rw [Board.simulations_publish, concluded.simulations]
  rcases executed.simulating dry with ⟨none, -⟩ | ⟨plan, outcome, slots, c, ws, simulating⟩
  · rw [none]
    exact ⟨⟨[], rfl, .nil⟩, List.forall_mem_nil _⟩
  · refine ⟨simulating.inOrder, fun s mem => ?_⟩
    obtain ⟨k, here, signed, transaction⟩ := simulating.signed_of_mem mem
    exact ⟨k, plan, outcome, here, simulating.signed x vs, signed, transaction⟩

/-- A dry run that was not cancelled shows where a signature or a simulation failed. -/
lemma verdict_of_dry {board : Board} (ran : d.Ran setup o turns (.ok board))
    (dry : o.dryRun = true) (complete : board.cancelled = false) {k : Nat} {i : Item}
    (found : board.items[k]? = some i) :
    (i.status = .error ↔ (∃ e, SigningFailed setup o turns k e) ∨
      ∃ s ∈ d.board.simulations turns, s.item = some k ∧ s.Failed) ∧
    (i.status = .error ∨ i.status = .skipped) := by
  have admits := ran.admits
  obtain ⟨x, us, outcome, b, vs, b', rfl, executed, concluded⟩ := ran.course
  rw [Board.simulations_publish, concluded.simulations]
  cases concluded with
  | finished harmless cancelled y z w =>
      obtain rfl : cancelled = false := complete
      rw [Board.getElem?_closed] at found
      have untold : ¬ ∃ t ∈ us, t.tellsStop = true := fun told =>
        Bool.false_ne_true (cancelled_of_tellsStop admits executed.showsActive told)
      obtain rfl : outcome = .ok () :=
        harmless.resolve_right fun h => untold (by subst h; exact executed.tellsStop)
      have ended := executed.ended.resolve_right untold k i found
      rcases executed.simulating dry with ⟨-, none⟩ | ⟨plan, outcome, slots, c, ws, simulating⟩
      · rw [none rfl] at found
        cases found
      · obtain ⟨failed, settles⟩ := simulating.failed_iff found ended
        refine ⟨failed.trans (or_congr_left ?_), settles⟩
        simp only [simulating.refusal, Option.ne_none_iff_exists']

/-- A run that nobody cancels is not shown as cancelled. -/
lemma uncancelled {board : Board} (ran : d.Ran setup o turns (.ok board)) (sound : d.Sound)
    (unaborted : ∀ t ∈ turns, t.aborted = false) : board.cancelled = false := by
  have told : ∀ t ∈ turns, t.tellsStop ≠ true := fun t mem tells => by
    obtain ⟨u, mem, aborted⟩ := ran.exists_aborted sound mem tells
    simp [unaborted u mem] at aborted
  obtain ⟨x, us, outcome, b, vs, b', rfl, executed, concluded⟩ := ran.course
  cases concluded with
  | finished harmless cancelled y z w =>
      cases cancelled with
      | false => rfl
      | true => exact absurd rfl (told ⟨.stopped, true, y⟩ (by simp))

/-- **A dry run sends nothing.**  Of the ledger it asks for no height, no submission and no
confirmation, and once the plan is made, no draft is ordered any more.  It has simulated what was
signed in the batch, each item once at most, in the order of the plan.  No board of the run shows an
attempt, a submission or its fee.  Where the run ends with a board and was not cancelled, an item
fails exactly if its signature or its simulation did, and otherwise it is skipped. -/
theorem sends_nothing (ran : d.Ran setup o turns result) (sound : d.Sound)
    (dry : o.dryRun = true) :
    (∀ t ∈ turns, t.step.call? ≠ some .blockHeight ∧ (∀ tx, t.step.call? ≠ some (.submit tx)) ∧
      ∀ signature height, t.step.call? ≠ some (.confirm signature height)) ∧
    (∃ x ps made us, turns = ⟨.publish Board.opened, (), x⟩ :: (ps ++ us) ∧
      Talk.Goes (planning setup o) ps made ∧
      ∀ t ∈ us, ∀ adapter order, t.step.call? ≠ some (.build adapter order)) ∧
    (∃ ks : List Nat, (d.board.simulations turns).map Simulation.item = ks.map some ∧
      ks.Pairwise (· < ·)) ∧
    (∀ s ∈ d.board.simulations turns, ∃ k plan outcome, s.item = some k ∧
      Signed setup o turns plan outcome ∧ outcome.errors[k]? = some none ∧
      outcome.transactions[k]? = some s.transaction) ∧
    (∀ board, (result = .ok board ∨ ∃ before, d.Snapshot turns before board) →
      ∀ i ∈ board.items, i.attempts = 0 ∧ i.submissionId = none ∧ i.feeLevel = none) ∧
    ∀ board, result = .ok board →
      ((∀ t ∈ turns, t.aborted = false) → board.cancelled = false) ∧
      (board.cancelled = false → ∀ (k : Nat) (i : Item), board.items[k]? = some i →
        (i.status = .error ↔ (∃ e, SigningFailed setup o turns k e) ∨
          ∃ s ∈ d.board.simulations turns, s.item = some k ∧ s.Failed) ∧
        (i.status = .error ∨ i.status = .skipped)) := by
  obtain ⟨ordered, signed⟩ := ran.simulations_of_dry dry
  refine ⟨fun t mem => ?_, ran.unordered_of_dry dry, ordered, signed,
    fun board seen i mem => ?_, ?_⟩
  · refine ⟨fun calls => ?_, fun tx calls => ?_, fun signature height calls => ?_⟩ <;>
      rcases ran.calls_of_dry dry mem calls with
        (⟨_, _, h⟩ | ⟨_, _, h⟩) | ⟨_, h | ⟨_, _, h⟩⟩ | ⟨_, h⟩ <;> cases h
  · have unsent := ran.unsent_of_dry dry seen i mem
    exact ⟨unsent.attempts, unsent.submissionId, unsent.feeLevel⟩
  · rintro board rfl
    exact ⟨ran.uncancelled sound, fun complete k i found => ran.verdict_of_dry dry complete found⟩

/-- Of the two transactions of a small exit the ledger would not take the second one. -/
theorem sends_nothing_refused :
    let claim := Sample.transaction [Sample.owner] 1
    let withdrawal := Sample.transaction [Sample.owner] 0
    let setup := { Sample.setup false with
      adapters := [⟨.feeVault, fun _ => .ok { Sample.position with liquidity := 1 }⟩] }
    let o := { Sample.options with includeWithdrawals := true, dryRun := true }
    let smooth := Sample.world (fun _ => ⟨claim, 100⟩) id
    let w : World := { smooth with
      answer := fun past c => match c with
        | .build _ order => .ok ⟨if order.action = .claim then claim else withdrawal, 100⟩
        | .simulate t => if t = withdrawal then .error (.simulation "slippage" []) else .ok ()
        | c => smooth.answer past c
      aborts := fun _ _ => false }
    ∃ turns board, w.play {} [] (whole setup o) = (turns, .ok board) ∧
      board.items.map Item.status = [.skipped, .error] ∧
      (∀ i ∈ board.items, i.attempts = 0 ∧ i.submissionId = none ∧ i.feeLevel = none) ∧
      (Board.simulations {} turns).map Simulation.transaction = [claim, withdrawal] ∧
      ((∃ e, SigningFailed setup o turns 1 e) ∨
        ∃ s ∈ Board.simulations {} turns, s.item = some 1 ∧ s.Failed) := by
  intro claim withdrawal setup o smooth w
  have statuses : ((w.play {} [] (whole setup o)).2.toOption.map
      fun b => (b.cancelled, b.items.map Item.status)) = some (false, [.skipped, .error]) := by
    decide +kernel
  have simulated : (Board.simulations {} (w.play {} [] (whole setup o)).1).map
      Simulation.transaction = [claim, withdrawal] := by
    decide +kernel
  have ran : ({} : Desk).Ran setup o _ _ := ran_play (o := o) rfl w
  obtain ⟨turns, result, played⟩ : ∃ turns result,
      w.play {} [] (whole setup o) = (turns, result) := ⟨_, _, rfl⟩
  rw [played] at statuses simulated ran
  cases result with
  | error e => cases statuses
  | ok board =>
      obtain ⟨complete, statuses⟩ := Prod.mk.inj (Option.some.inj statuses)
      obtain ⟨-, -, -, -, unsent, ends⟩ := sends_nothing ran sound_default rfl
      obtain ⟨i, found, failed⟩ : ∃ i, board.items[1]? = some i ∧ i.status = .error := by
        refine Option.map_eq_some_iff.1 ?_
        rw [← List.getElem?_map, statuses]
        rfl
      have reasons := (((ends board rfl).2 complete 1 i found).1).1 failed
      exact ⟨turns, board, played, statuses, unsent board (.inl rfl), simulated, reasons⟩

end Desk.Ran

end PoolExit
