import PoolExit.Proofs.Progress

/-!
# What the turns tell about an item

While an item is in work, three kinds of turns matter to it: the ledger takes a submission, the
ledger confirms one, or an attempt is reported to have failed.  A turn does not name the item, so it
is read against the board that is shown when the turn is taken.  `Board.gather` reads a transcript
in this way; `receipts`, `confirmations` and `failures` are what it gathers about one item.

All other turns are `Plain`: they neither show a board nor tell anything about an item.
-/

namespace PoolExit

/-! ## Boards along a transcript -/

namespace Board

/-- The board that is shown after a turn. -/
def next (b : Board) (t : Turn) : Board := t.step.board?.getD b

/-- The board that is shown after several turns. -/
def afterAll (b : Board) (ts : List Turn) : Board := ts.foldl next b

@[simp] lemma afterAll_nil (b : Board) : b.afterAll [] = b := rfl

@[simp] lemma afterAll_cons (b : Board) (t : Turn) (ts : List Turn) :
    b.afterAll (t :: ts) = (b.next t).afterAll ts := rfl

@[simp] lemma afterAll_append (b : Board) (ts us : List Turn) :
    b.afterAll (ts ++ us) = (b.afterAll ts).afterAll us := List.foldl_append

lemma next_of_silent {b : Board} {t : Turn} (silent : t.step.board? = none) : b.next t = b := by
  rw [next, silent]
  rfl

@[simp] lemma next_publish (b c : Board) (answer : (Step.publish c).Answer) (x : Bool) :
    b.next ⟨.publish c, answer, x⟩ = c := rfl

lemma afterAll_of_silent {b : Board} {ts : List Turn} (silent : ∀ t ∈ ts, t.step.board? = none) :
    b.afterAll ts = b := by
  induction ts with
  | nil => rfl
  | cons t ts ih =>
      obtain ⟨first, later⟩ := List.forall_mem_cons.1 silent
      rw [afterAll_cons, next_of_silent first, ih later]

/-- What holds of all boards that are shown holds of the last one. -/
lemma afterAll_of_shows {P : Board → Prop} {b : Board} {ts : List Turn} (shows : Shows P ts)
    (holds : P b) : P (b.afterAll ts) := by
  induction ts generalizing b with
  | nil => exact holds
  | cons t ts ih =>
      obtain ⟨shown, later⟩ := shows_cons.1 shows
      refine ih later ?_
      cases h : t.step.board? with
      | none => rwa [next_of_silent h]
      | some c =>
          rw [next, h]
          exact shown c h

end Board

/-- The board of a desk depends on what is shown to it only. -/
lemma Desk.board_afterAll_eq (d : Desk) (ts : List Turn) :
    (d.afterAll ts).board = d.board.afterAll ts := by
  induction ts generalizing d with
  | nil => rfl
  | cons t ts ih => rw [afterAll_cons, ih, board_after, Board.afterAll_cons, Board.next]

/-! ## Reading a transcript -/

namespace Board

variable {α : Type} {read : Board → Turn → Option α}

/-- What the turns tell, each read against the board that is shown when it is taken. -/
def gather (read : Board → Turn → Option α) : Board → List Turn → List α
  | _, [] => []
  | b, t :: ts => (read b t).toList ++ gather read (b.next t) ts

@[simp] lemma gather_nil (b : Board) : gather read b [] = [] := rfl

@[simp] lemma gather_cons (b : Board) (t : Turn) (ts : List Turn) :
    gather read b (t :: ts) = (read b t).toList ++ gather read (b.next t) ts := rfl

@[simp] lemma gather_append (b : Board) (ts us : List Turn) :
    gather read b (ts ++ us) = gather read b ts ++ gather read (b.afterAll ts) us := by
  induction ts generalizing b with
  | nil => rfl
  | cons t ts ih => simp [ih]

/-- Whatever is gathered was told by a turn. -/
lemma mem_gather {a : α} {b : Board} {ts : List Turn} : a ∈ gather read b ts ↔
    ∃ before t after, ts = before ++ t :: after ∧ read (b.afterAll before) t = some a := by
  induction ts generalizing b with
  | nil => simp
  | cons t ts ih =>
      rw [gather_cons, List.mem_append, Option.mem_toList, ih]
      constructor
      · rintro (told | ⟨before, u, after, rfl, told⟩)
        · exact ⟨[], t, ts, rfl, told⟩
        · exact ⟨t :: before, u, after, rfl, told⟩
      · rintro ⟨before, u, after, split, told⟩
        cases before with
        | nil =>
            obtain ⟨rfl, rfl⟩ := List.cons.inj split
            exact .inl told
        | cons _ before =>
            obtain ⟨rfl, rfl⟩ := List.cons.inj split
            exact .inr ⟨before, u, after, rfl, told⟩

/-- Turns that tell nothing on any board leave nothing to gather. -/
lemma gather_of_untold {b : Board} {ts : List Turn} (untold : ∀ t ∈ ts, ∀ c, read c t = none) :
    gather read b ts = [] := by
  refine List.eq_nil_iff_forall_not_mem.2 fun a mem => ?_
  obtain ⟨before, t, after, rfl, told⟩ := mem_gather.1 mem
  rw [untold t (by simp)] at told
  cases told

/-- A reading that counts only while the item at a place is in work. -/
def whileInWork (k : Nat) (tell : Board → Turn → Option α) (b : Board) (t : Turn) : Option α :=
  if b.currentIndex = some k then tell b t else none

lemma whileInWork_of_ne {k : Nat} {tell : Board → Turn → Option α} {b : Board}
    (elsewhere : b.currentIndex ≠ some k) (t : Turn) : whileInWork k tell b t = none :=
  if_neg elsewhere

/-- While another item is in work, nothing is told about this one. -/
lemma gather_elsewhere {k : Nat} {tell : Board → Turn → Option α} {b : Board} {ts : List Turn}
    (elsewhere : b.currentIndex ≠ some k) (shows : Shows (fun c => c.currentIndex ≠ some k) ts) :
    gather (whileInWork k tell) b ts = [] := by
  induction ts generalizing b with
  | nil => rfl
  | cons t ts ih =>
      obtain ⟨shown, later⟩ := shows_cons.1 shows
      have next : (b.next t).currentIndex ≠ some k := by
        cases h : t.step.board? with
        | none => rwa [next_of_silent h]
        | some c =>
            rw [Board.next, h]
            exact shown c h
      rw [gather_cons, whileInWork_of_ne elsewhere, ih next later]
      rfl

end Board

/-! ## What is told about an item -/

/-- Whether the answer to a call may tell something about an item. -/
def Call.telling : Call → Bool
  | .submit _ | .confirm .. => true
  | _ => false

namespace Turn

/-- The signature under which the ledger takes a submission. -/
def taken? : Turn → Option Signature
  | ⟨.call (.submit _), .ok signature, _⟩ => some signature
  | _ => none

/-- The signature that the ledger confirms. -/
def confirmed? : Turn → Option Signature
  | ⟨.call (.confirm signature _), .ok _, _⟩ => some signature
  | _ => none

/-- Why an attempt is reported to have failed. -/
def failure? : Turn → Option ExitError
  | ⟨.note (.attemptFailed _ _ _ _ e), _, _⟩ => some e
  | _ => none

/-- Only a submission is taken. -/
lemma eq_of_taken {t : Turn} {signature : Signature} (taken : t.taken? = some signature) :
    ∃ tx x, t = ⟨.call (.submit tx), .ok signature, x⟩ := by
  unfold taken? at taken
  split at taken
  · obtain rfl := Option.some.inj taken
    exact ⟨_, _, rfl⟩
  · cases taken

/-- A turn that shows no board and tells nothing about an item. -/
structure Plain (t : Turn) : Prop where
  silent : t.step.board? = none
  untaken : t.taken? = none
  unconfirmed : t.confirmed? = none
  unfailed : t.failure? = none

/-- Of a turn that shows a board nothing is told. -/
lemma untold_of_shown {t : Turn} {b : Board} (shows : t.step.board? = some b) :
    t.taken? = none ∧ t.confirmed? = none ∧ t.failure? = none := by
  obtain ⟨step, answer, x⟩ := t
  cases step with
  | publish b => exact ⟨rfl, rfl, rfl⟩
  | call | race | stopped | note => cases shows

@[simp] lemma plain_stopped (b x : Bool) : Plain ⟨.stopped, b, x⟩ := ⟨rfl, rfl, rfl, rfl⟩

@[simp] lemma plain_race (c : Call) (a : Option c.Answer) (x : Bool) : Plain ⟨.race c, a, x⟩ :=
  ⟨rfl, rfl, rfl, rfl⟩

/-- A call that is neither a submission nor the wait for one is plain. -/
lemma plain_call (c : Call) (untelling : c.telling = false) (a : c.Answer) (x : Bool) :
    Plain ⟨.call c, a, x⟩ := by
  cases c with
  | submit | confirm => cases untelling
  | discover | build | signAll | signOne | blockHeight | simulate => exact ⟨rfl, rfl, rfl, rfl⟩

@[simp] lemma plain_submit_error (t : Transaction) (e : LedgerError) (x : Bool) :
    Plain ⟨.call (.submit t), .error e, x⟩ := ⟨rfl, rfl, rfl, rfl⟩

@[simp] lemma plain_confirm_error (s : Signature) (h : UInt64) (e : LedgerError) (x : Bool) :
    Plain ⟨.call (.confirm s h), .error e, x⟩ := ⟨rfl, rfl, rfl, rfl⟩

/-- A report is plain unless it is that of a failed attempt. -/
lemma plain_note {n : Notice} {u : Unit} {x : Bool}
    (unfailed : failure? ⟨.note n, u, x⟩ = none) : Plain ⟨.note n, u, x⟩ :=
  ⟨rfl, rfl, rfl, unfailed⟩

end Turn

/-- The draft of the attempt that was begun last. -/
def Item.underWay? (i : Item) : Option Variant := i.task.attempts[i.attempts - 1]?

namespace Board

/-- The submissions of the item at a place that the ledger took, each with the fee of the attempt
under way. -/
def receipts (k : Nat) : Board → List Turn → List (Signature × UInt64) :=
  gather <| whileInWork k fun b t => do
    let i ← b.items[k]?
    let v ← i.underWay?
    return (← t.taken?, v.feeLevel)

/-- The signatures that the ledger confirmed for the item at a place. -/
def confirmations (k : Nat) : Board → List Turn → List Signature :=
  gather <| whileInWork k fun _ t => t.confirmed?

/-- Why attempts at the item at a place failed, in order. -/
def failures (k : Nat) : Board → List Turn → List ExitError :=
  gather <| whileInWork k fun _ t => t.failure?

section

variable {k : Nat} {b : Board} {ts : List Turn}

lemma receipts_of_untaken (untaken : ∀ t ∈ ts, t.taken? = none) : receipts k b ts = [] := by
  refine gather_of_untold fun t ht c => ?_
  rw [whileInWork, untaken t ht]
  cases c.items[k]? with
  | none => simp
  | some i => cases i.underWay? <;> simp

lemma confirmations_of_unconfirmed (unconfirmed : ∀ t ∈ ts, t.confirmed? = none) :
    confirmations k b ts = [] := by
  refine gather_of_untold fun t ht c => ?_
  rw [whileInWork, unconfirmed t ht, ite_self]

lemma failures_of_unfailed (unfailed : ∀ t ∈ ts, t.failure? = none) : failures k b ts = [] := by
  refine gather_of_untold fun t ht c => ?_
  rw [whileInWork, unfailed t ht, ite_self]

lemma receipts_append (b : Board) (ts us : List Turn) :
    receipts k b (ts ++ us) = receipts k b ts ++ receipts k (b.afterAll ts) us := gather_append ..

lemma confirmations_append (b : Board) (ts us : List Turn) :
    confirmations k b (ts ++ us) = confirmations k b ts ++ confirmations k (b.afterAll ts) us :=
  gather_append ..

lemma failures_append (b : Board) (ts us : List Turn) :
    failures k b (ts ++ us) = failures k b ts ++ failures k (b.afterAll ts) us := gather_append ..

end

end Board

end PoolExit
