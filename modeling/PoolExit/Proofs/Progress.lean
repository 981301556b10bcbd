import PoolExit.Proofs.Handing

/-!
# How items move on

An item only moves on: it stays the same task, and once it has ended its status stays.  Work on one
item changes the board at its place only (`Board.Touched`), so the plan stays, the item in work
stays in work, and what has ended stays ended.
-/

namespace PoolExit

/-! ## One item -/

namespace Item

/-- The item stays the same task, and an end that was reached stays. -/
structure Onward (i j : Item) : Prop where
  task : j.task = i.task
  ended : i.status.isTerminal = true → j.status = i.status

lemma Onward.refl (i : Item) : Onward i i := ⟨rfl, fun _ => rfl⟩

lemma Onward.trans {i j k : Item} (h : Onward i j) (h' : Onward j k) : Onward i k := by
  refine ⟨h'.task.trans h.task, fun ended => ?_⟩
  have same : j.status = i.status := h.ended ended
  rw [h'.ended (by rw [same, ended]), same]

lemma Onward.isTerminal {i j : Item} (h : Onward i j) (ended : i.status.isTerminal = true) :
    j.status.isTerminal = true := by rw [h.ended ended, ended]

lemma onward_advance (i : Item) (next : Status) : Onward i (i.advance next).2 := by
  unfold advance
  split
  next may =>
    refine ⟨rfl, fun ended => ?_⟩
    simp [Status.canAdvanceTo, ended] at may
  next => exact .refl i

lemma onward_stop (i : Item) (next : Status) (reason : String) :
    Onward i (i.stop next reason).2 := by
  have moved := onward_advance i next
  unfold stop
  split
  next j h => exact ⟨by simpa [h] using moved.task, by simpa [h] using moved.ended⟩
  next j h => simpa [h] using moved

lemma onward_attempted (i : Item) : Onward i i.attempted := ⟨rfl, fun _ => rfl⟩

lemma onward_submitted (i : Item) (id : String) (fee : UInt64) : Onward i (i.submitted id fee) :=
  ⟨(onward_advance i .sent).task, (onward_advance i .sent).ended⟩

lemma onward_landed (i : Item) (id : String) (fee : UInt64) : Onward i (i.landed id fee) :=
  have moved := onward_advance { i with submissionId := some id, feeLevel := some fee } .confirmed
  ⟨moved.task, moved.ended⟩

/-- Moving on to an end ends the item: if it may not, then it has ended before. -/
lemma isTerminal_advance (i : Item) {next : Status} (final : next.isTerminal = true) :
    (i.advance next).2.status.isTerminal = true := by
  unfold advance
  split
  next => exact final
  next stays =>
    cases next <;> cases final <;> cases h : i.status <;>
      simp [Status.canAdvanceTo, Status.isTerminal, Status.rank, h] at stays ⊢

lemma isTerminal_stop (i : Item) {next : Status} (final : next.isTerminal = true)
    (reason : String) : (i.stop next reason).2.status.isTerminal = true := by
  have ended := isTerminal_advance i final
  unfold stop
  split
  next j h => simpa [h] using ended
  next j h => simpa [h] using ended

lemma isTerminal_landed (i : Item) (id : String) (fee : UInt64) :
    (i.landed id fee).status.isTerminal = true := isTerminal_advance _ rfl

end Item

/-! ## The board -/

namespace Board

/-- Only the item at one place has changed, and it has moved on. -/
def Touched (index : Nat) (b b' : Board) : Prop :=
  ∃ change : Item → Item, (∀ i, Item.Onward i (change i)) ∧ b' = b.update index change

/-- The item at a place has ended. -/
def Ended (b : Board) (index : Nat) : Prop :=
  ∀ i, b.items[index]? = some i → i.status.isTerminal = true

/-- The tasks on the board. -/
def tasks (b : Board) : List Task := b.items.map Item.task

variable {index : Nat} {b b' b'' : Board}

lemma getElem?_update (b : Board) (index : Nat) (change : Item → Item) (k : Nat) :
    (b.update index change).items[k]? =
      if index = k then b.items[k]?.map change else b.items[k]? := by
  rw [update, List.getElem?_modify]
  split <;> simp

lemma touched_update {change : Item → Item} (onward : ∀ i, Item.Onward i (change i)) :
    b.Touched index (b.update index change) := ⟨change, onward, rfl⟩

lemma Touched.refl (index : Nat) (b : Board) : b.Touched index b := by
  refine ⟨id, Item.Onward.refl, ?_⟩
  rw [update, List.modify_id]

lemma Touched.trans (h : b.Touched index b') (h' : b'.Touched index b'') :
    b.Touched index b'' := by
  obtain ⟨change, onward, rfl⟩ := h
  obtain ⟨change', onward', rfl⟩ := h'
  refine ⟨change' ∘ change, fun i => (onward i).trans (onward' _), ?_⟩
  simp [update, List.modify_modify_eq]

lemma Touched.tasks (h : b.Touched index b') : b'.tasks = b.tasks := by
  obtain ⟨change, onward, rfl⟩ := h
  refine List.ext_getElem? fun k => ?_
  rw [Board.tasks, Board.tasks, List.getElem?_map, List.getElem?_map, getElem?_update]
  split
  · cases b.items[k]? with
    | none => rfl
    | some i => exact congrArg some (onward i).task
  · rfl

lemma Touched.currentIndex (h : b.Touched index b') : b'.currentIndex = b.currentIndex := by
  obtain ⟨change, -, rfl⟩ := h
  rfl

lemma Touched.getElem?_of_ne (h : b.Touched index b') {k : Nat} (ne : index ≠ k) :
    b'.items[k]? = b.items[k]? := by
  obtain ⟨change, -, rfl⟩ := h
  rw [getElem?_update, if_neg ne]

lemma Touched.isActive (h : b.Touched index b') : b'.isActive = b.isActive := by
  obtain ⟨change, -, rfl⟩ := h
  rfl

/-- What has ended stays ended. -/
lemma Touched.ended (h : b.Touched index b') {k : Nat} (ended : b.Ended k) : b'.Ended k := by
  obtain ⟨change, onward, rfl⟩ := h
  intro i hi
  rw [getElem?_update] at hi
  split at hi
  · obtain ⟨j, hj, rfl⟩ := Option.map_eq_some_iff.1 hi
    exact (onward j).isTerminal (ended j hj)
  · exact ended i hi

lemma ended_update {change : Item → Item} (ends : ∀ i, (change i).status.isTerminal = true) :
    (b.update index change).Ended index := by
  intro i hi
  rw [getElem?_update, if_pos rfl] at hi
  obtain ⟨j, -, rfl⟩ := Option.map_eq_some_iff.1 hi
  exact ends j

/-- The tasks stay, a run under way stays under way, and what has ended stays ended. -/
structure Onward (b b' : Board) : Prop where
  tasks : b'.tasks = b.tasks
  isActive : b'.isActive = b.isActive
  ended : ∀ {k}, b.Ended k → b'.Ended k

lemma Onward.refl (b : Board) : b.Onward b := ⟨rfl, rfl, fun h => h⟩

lemma Onward.trans (h : b.Onward b') (h' : b'.Onward b'') : b.Onward b'' :=
  ⟨h'.tasks.trans h.tasks, h'.isActive.trans h.isActive, fun ended => h'.ended (h.ended ended)⟩

lemma Touched.onward (h : b.Touched index b') : b.Onward b' := ⟨h.tasks, h.isActive, h.ended⟩

lemma onward_focus (b : Board) (index : Nat) : b.Onward (b.focus index) :=
  ⟨rfl, rfl, fun h => h⟩

lemma onward_update {change : Item → Item} (onward : ∀ i, Item.Onward i (change i)) :
    b.Onward (b.update index change) := (touched_update onward).onward

end Board

/-! ## An attempt -/

namespace Run

variable {setup : Setup} {s : PlanSettings} {primary : Transaction} {index : Nat} {task : Task}
  {number : Nat} {v : Variant} {b b' : Board} {ts : List Turn}

lemma Awaited.touched {fee expiry : UInt64} {answer : Except LedgerError Signature}
    {r : Except ExitError Signature} (awaited : Awaited index fee expiry b answer ts r b') :
    b.Touched index b' := by
  cases awaited with
  | refused e => exact .refl index b
  | unconfirmed signature | confirmed signature =>
      exact Board.touched_update fun i => i.onward_submitted _ fee

lemma Awaited.shows {fee expiry : UInt64} {answer : Except LedgerError Signature}
    {r : Except ExitError Signature} (awaited : Awaited index fee expiry b answer ts r b') :
    Shows (b.Touched index) ts := by
  have shown := awaited.touched
  cases awaited with
  | refused e => exact shows_nil
  | unconfirmed signature | confirmed signature => simpa [Step.board?] using shown

lemma Dispatched.touched {fee expiry : UInt64} {t : Transaction} {r : Except ExitError Signature}
    (sent : Dispatched setup index task number fee expiry t b ts r b') : b.Touched index b' := by
  cases sent with
  | unsimulated on e x => exact .refl index b
  | submitted simulated x y awaited => exact awaited.touched

lemma Dispatched.shows {fee expiry : UInt64} {t : Transaction} {r : Except ExitError Signature}
    (sent : Dispatched setup index task number fee expiry t b ts r b') :
    Shows (b.Touched index) ts := by
  cases sent with
  | unsimulated on e x => simp [Step.board?]
  | @submitted us _ _ _ _ simulated x y awaited =>
      have simulates : Shows (b.Touched index) us := by
        cases simulated <;> simp [Step.board?]
      simp [Step.board?, simulates, awaited.shows]

lemma Sent.touched {r : Except ExitError Signature}
    (sent : Sent setup s primary index task number v b ts r b') : b.Touched index b' := by
  cases sent with
  | undrafted | unsigned | cancelled => exact .refl index b
  | dispatched cleared sent => exact sent.touched

lemma Sent.shows {r : Except ExitError Signature}
    (sent : Sent setup s primary index task number v b ts r b') : Shows (b.Touched index) ts := by
  cases sent with
  | undrafted drafted => exact shows_of_quiet drafted.quiet
  | unsigned drafted provided =>
      exact shows_append.2 ⟨shows_of_quiet drafted.quiet, shows_of_quiet provided.quiet⟩
  | cancelled drafted provided x =>
      simp [Step.board?, shows_of_quiet drafted.quiet, shows_of_quiet provided.quiet]
  | dispatched cleared sent => exact shows_append.2 ⟨shows_of_quiet cleared.quiet, sent.shows⟩

lemma touched_attempted (b : Board) (index : Nat) :
    b.Touched index (b.update index Item.attempted) := Board.touched_update Item.onward_attempted

/-- An attempt changes its own item only. -/
lemma Attempted.touched {r : Except ExitError (Signature × UInt64)}
    (attempted : Attempted setup s primary index task number v b ts r b') : b.Touched index b' := by
  cases attempted with
  | landed x sent | failed x y sent => exact (touched_attempted b index).trans sent.touched

lemma Attempted.shows {r : Except ExitError (Signature × UInt64)}
    (attempted : Attempted setup s primary index task number v b ts r b') :
    Shows (b.Touched index) ts := by
  have counted := touched_attempted b index
  cases attempted with
  | landed x sent =>
      have sending := sent.shows.mono fun _ => counted.trans
      simp [Step.board?, counted, sending]
  | failed x y sent =>
      have sending := sent.shows.mono fun _ => counted.trans
      simp [Step.board?, counted, sending]

/-! ## Cancelled attempts -/

lemma Drafted.tellsStop (drafted : Drafted setup s index task v ts (.error .cancelled)) :
    ∃ t ∈ ts, t.tellsStop = true := by
  cases drafted with
  | stopped x => exact ⟨⟨.stopped, true, x⟩, by simp, rfl⟩
  | givenUp x y => exact ⟨⟨.race .blockHeight, none, y⟩, by simp [heightTurns], rfl⟩

/-- An attempt that failed as cancelled was told of the cancellation. -/
lemma Attempted.tellsStop
    (attempted : Attempted setup s primary index task number v b ts (.error .cancelled) b') :
    ∃ t ∈ ts, t.tellsStop = true := by
  cases attempted with
  | failed x y sent =>
      cases sent with
      | undrafted drafted =>
          obtain ⟨t, ht, tells⟩ := drafted.tellsStop
          exact ⟨t, by simp [ht], tells⟩
      | unsigned drafted provided => cases provided
      | cancelled drafted provided z => exact ⟨⟨.stopped, true, z⟩, by simp, rfl⟩
      | dispatched cleared sent =>
          cases sent with
          | submitted simulated z w awaited => cases awaited

end Run

end PoolExit
