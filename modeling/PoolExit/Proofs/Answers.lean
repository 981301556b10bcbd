import PoolExit.Proofs.Guarding
import PoolExit.Proofs.Moving

/-!
# The fate of an item

Suppose that each call of an exit is answered from its arguments alone, and nobody cancels.  Then
what becomes of a task is a function of the answers (`Answers.outcome`), in which neither the place
of the task in the plan nor the other tasks occur.

Part by part this is what a run does.  The wallet may be asked for all signatures at once or for one
after the other; as long as it signs several transactions only as it signs each of them, both ways
fill the slots of a batch alike.
-/

namespace PoolExit

/-! ## Answers -/

/-- Answers to the calls of an exit, each made from the arguments of the call alone. -/
structure Answers where
  build : Nat → BuildOrder → Except VenueError Draft
  sign : Transaction → Except SignerError Transaction
  height : Except LedgerError UInt64
  simulate : Transaction → Except LedgerError Unit
  submit : Transaction → Except LedgerError Signature
  confirm : Signature → UInt64 → Except LedgerError Unit

/-- How far an item has come, without the reason that it shows. -/
structure Outcome where
  status : Status
  submissionId : Option String
  feeLevel : Option UInt64
  attempts : Nat
deriving DecidableEq

/-- How far an item has come. -/
def Item.outcome (i : Item) : Outcome := ⟨i.status, i.submissionId, i.feeLevel, i.attempts⟩

/-- An attempt that submits an item in work shows the submission on it. -/
lemma Item.submitted_attempted {i : Item} (ongoing : i.Ongoing) (id : String) (fee : UInt64) :
    i.attempted.submitted id fee = { i with
      status := .sent
      submissionId := some id
      feeLevel := some fee
      attempts := i.attempts + 1 } :=
  submitted_of_ongoing (i := i.attempted) ongoing id fee

/-- What comes of an attempt: it is not submitted, or it is submitted and not confirmed, or it is
confirmed. -/
inductive Fate where
  | unsent
  | unconfirmed (signature : Signature)
  | confirmed (signature : Signature)

namespace Fate

/-- The signature that was confirmed. -/
def confirmed? : Fate → Option Signature
  | .confirmed signature => some signature
  | _ => none

/-- The board that is shown after the attempt. -/
def shown (k : Nat) (fee : UInt64) (b : Board) : Fate → Board
  | .unsent => b
  | .unconfirmed signature | .confirmed signature =>
      b.update k fun i => i.submitted signature.text fee

end Fate

namespace Answers

variable (A : Answers)

/-- Whether a call is answered so.  The wallet signs several transactions at once as it signs each
of them, or not at all.  About the listings of a venue nothing is said. -/
def Gives : (c : Call) → c.Answer → Prop
  | .discover .., _ => True
  | .build adapter order, answer => answer = A.build adapter order
  | .signAll ts, answer =>
      ∀ signed, answer = .ok signed → List.Forall₂ (fun t s => A.sign t = .ok s) ts signed
  | .signOne t, answer => answer = A.sign t
  | .blockHeight, answer => answer = A.height
  | .simulate t, answer => answer = A.simulate t
  | .submit t, answer => answer = A.submit t
  | .confirm signature expiry, answer => answer = A.confirm signature expiry

/-- Whether the call of a turn, if it has one, is answered so. -/
def Answered : Turn → Prop
  | ⟨.call c, answer, _⟩ => A.Gives c answer
  | ⟨.race c, some answer, _⟩ => A.Gives c answer
  | _ => True

/-- A turn in which nothing disturbs the answers: it tells of no cancellation. -/
structure Serves (t : Turn) : Prop where
  answered : A.Answered t
  goesOn : t.tellsStop = false

/-! ## What becomes of a task -/

section

variable (setup : Setup) (order : Position → Action → UInt64 → BuildOrder)

/-- The draft that is built anew for a fee. -/
def rebuilt (task : Task) (fee : UInt64) : Option Draft :=
  match setup.adapters.findIdx? fun a => a.venue = task.venue with
  | none => none
  | some adapter => (A.build adapter (order task.position task.action fee)).toOption

/-- The draft in time for an attempt. -/
def draft (task : Task) (v : Variant) : Option Draft :=
  match A.height with
  | .error _ => none
  | .ok height =>
    if height ≤ v.draft.expiryHeight then some v.draft
    else if setup.refreshExpired then
      (A.rebuilt setup order task v.feeLevel).filter fun draft =>
        setup.guard.offenders draft = [] ∧ ¬ draft.expiryHeight < height
    else none

/-- The signed transaction of a draft in the batch; one with another message does not count. -/
def signed (t : Transaction) : Option Transaction :=
  (A.sign t).toOption.filter fun u => u.message = t.message

/-- The signed transaction of a draft in an attempt. -/
def transaction (primary : Transaction) (draft : Draft) : Option Transaction :=
  if draft.sameMessage primary then some primary else (A.sign draft.transaction).toOption

/-- What the ledger makes of a signed transaction. -/
def dispatch (t : Transaction) (expiry : UInt64) : Fate :=
  if setup.simulateBeforeSend && (A.simulate t).toOption.isNone then .unsent
  else match A.submit t with
    | .error _ => .unsent
    | .ok signature => match A.confirm signature expiry with
      | .error _ => .unconfirmed signature
      | .ok _ => .confirmed signature

/-- What comes of an attempt. -/
def attempt (primary : Transaction) (task : Task) (v : Variant) : Fate :=
  match A.draft setup order task v with
  | none => .unsent
  | some draft => match A.transaction primary draft with
    | none => .unsent
    | some t => A.dispatch setup t draft.expiryHeight

/-- What comes of the attempts at an item, one after the other. -/
def pursue (primary : Transaction) (task : Task) : Outcome → List Variant → Outcome
  | o, [] => { o with status := .error }
  | o, v :: rest =>
    let begun := { o with attempts := o.attempts + 1 }
    match A.attempt setup order primary task v with
    | .unsent => pursue primary task begun rest
    | .unconfirmed signature => pursue primary task { begun with
        status := .sent, submissionId := some signature.text, feeLevel := some v.feeLevel } rest
    | .confirmed signature => { begun with
        status := .confirmed, submissionId := some signature.text, feeLevel := some v.feeLevel }

/-- What comes of the simulation in a dry run. -/
def rehearse (primary : Transaction) (o : Outcome) : Outcome :=
  { o with status := if (A.simulate primary).toOption.isSome then .skipped else .error }

/-- What becomes of a task. -/
def outcome (o : Options) (task : Task) : Outcome :=
  match A.signed task.primary.transaction with
  | none => { status := .error, submissionId := none, feeLevel := none, attempts := 0 }
  | some primary =>
    let signed := (Item.signed task).outcome
    if o.dryRun then A.rehearse primary signed
    else A.pursue setup (setup.planSettings o).order primary task signed task.attempts

end

/-! ## Turns -/

section

variable {A} {c : Call} {x : Bool}

@[simp] lemma serves_call {answer : c.Answer} :
    A.Serves ⟨.call c, answer, x⟩ ↔ A.Gives c answer :=
  ⟨fun serves => serves.answered, fun gives => ⟨gives, rfl⟩⟩

@[simp] lemma serves_race {answer : Option c.Answer} :
    A.Serves ⟨.race c, answer, x⟩ ↔ ∃ a, answer = some a ∧ A.Gives c a := by
  constructor
  · intro serves
    cases answer with
    | none => cases serves.goesOn
    | some a => exact ⟨a, rfl, serves.answered⟩
  · rintro ⟨a, rfl, gives⟩
    exact ⟨gives, rfl⟩

@[simp] lemma serves_stopped {answer : Bool} :
    A.Serves ⟨.stopped, answer, x⟩ ↔ answer = false :=
  ⟨fun serves => serves.goesOn, fun goesOn => ⟨trivial, goesOn⟩⟩

@[simp] lemma serves_raced {t : Turn} : A.Serves t.raced ↔ A.Serves t := by
  obtain ⟨step, answer, x⟩ := t
  cases step with
  | call c => simp [Turn.raced]
  | race | stopped | publish | note => rfl

end

end Answers

namespace Run

open Answers

section

variable {A : Answers} {setup : Setup} {s : PlanSettings} {primary : Transaction} {k number : Nat}
  {task : Task} {v : Variant} {b b' : Board} {ts : List Turn}

/-! ## An attempt -/

lemma rebuilt_of_goes {fee : UInt64} {r : Except VenueError Draft}
    (go : Talk.Goes (Planning.rebuild setup.adapters s task fee) ts r)
    (serves : ∀ t ∈ ts, A.Serves t) : r.toOption = A.rebuilt setup s.order task fee := by
  cases found : setup.adapters.findIdx? fun a => a.venue = task.venue with
  | none =>
      rw [Planning.rebuild, found] at go
      obtain ⟨rfl, rfl⟩ := Talk.goes_pure.1 go
      rw [rebuilt, found]
      rfl
  | some adapter =>
      rw [Planning.rebuild, found] at go
      obtain ⟨x, rfl⟩ := Talk.goes_call.1 go
      have gives : r = A.build adapter _ := serves_call.1 (serves _ List.mem_cons_self)
      rw [rebuilt, found, gives]

/-- The block height that an undisturbed attempt begins with. -/
lemma height_of_serves {answer : Option (Except LedgerError UInt64)} {x y : Bool}
    (serves : ∀ t ∈ heightTurns answer x y, A.Serves t) : answer = some A.height := by
  obtain ⟨-, ⟨a, rfl, gives⟩⟩ : A.Serves ⟨.stopped, false, x⟩ ∧
      ∃ a, answer = some a ∧ A.Gives .blockHeight a := by
    simpa [heightTurns] using serves
  rw [gives]

lemma Drafted.draft {r : Except ExitError Draft} (drafted : Drafted setup s k task v ts r)
    (serves : ∀ t ∈ ts, A.Serves t) : r.toOption = A.draft setup s.order task v := by
  -- The block height is known, and what was built anew beyond it.
  have known : ∀ {us : List Turn} {height : UInt64} {x y : Bool},
      (∀ t ∈ heightTurns (some (.ok height)) x y ++ us, A.Serves t) →
      A.height = .ok height ∧ ∀ t ∈ us, A.Serves t := by
    intro us height x y serves
    obtain ⟨first, later⟩ := List.forall_mem_append.1 serves
    exact ⟨(Option.some.inj (height_of_serves first)).symm, later⟩
  unfold Answers.draft
  cases drafted with
  | stopped x =>
      have goesOn := serves_stopped.1 (serves _ List.mem_cons_self)
      cases goesOn
  | givenUp x y => cases height_of_serves serves
  | unknown e x y =>
      rw [← Option.some.inj (height_of_serves serves)]
      rfl
  | planned inTime x y =>
      rw [← Option.some.inj (height_of_serves serves)]
      simp [inTime, Except.toOption]
  | expired late off x y =>
      rw [← Option.some.inj (height_of_serves serves)]
      simp [late, off, Except.toOption]
  | unbuilt late on x y built =>
      obtain ⟨height, later⟩ := known serves
      have made := rebuilt_of_goes built later
      simp [height, late, on, ← made, Except.toOption]
  | strange late on x y z built refused =>
      rw [List.append_assoc] at serves
      obtain ⟨height, later⟩ := known serves
      have made := rebuilt_of_goes built (List.forall_mem_append.1 later).1
      have strange := (Guard.check_eq_error.1 refused).1
      simp [height, late, on, ← made, strange, Except.toOption, Option.filter]
  | stale late on x y built passed again =>
      obtain ⟨height, later⟩ := known serves
      have made := rebuilt_of_goes built later
      simp [height, late, on, ← made, again, Except.toOption, Option.filter]
  | rebuilt late on x y built passed inTime =>
      obtain ⟨height, later⟩ := known serves
      have made := rebuilt_of_goes built later
      have unstrange := Guard.check_eq_ok.1 passed
      simp [height, late, on, ← made, unstrange, inTime, Except.toOption, Option.filter]

/-- Whichever way the wallet is asked, it signs a single draft as it signs it. -/
lemma answer_of_signedAlone {draft : Transaction} {bulk : Bool}
    {r : Except SignerError Transaction} (alone : Signing.SignedAlone draft bulk ts r)
    (serves : ∀ t ∈ ts, A.Serves t) : r = A.sign draft := by
  cases alone with
  | together x t same =>
      have gives := serves_call.1 (serves _ List.mem_cons_self)
      have signs : A.sign draft = .ok t := by simpa using gives [t] rfl
      exact signs.symm
  | direct asked answer x =>
      exact serves_call.1 (serves ⟨.call (.signOne draft), r, x⟩ (by simp))

lemma Provided.transaction {draft : Draft} {r : Except ExitError Transaction}
    (provided : Provided setup primary draft ts r) (serves : ∀ t ∈ ts, A.Serves t) :
    r.toOption = A.transaction primary draft := by
  unfold Answers.transaction
  cases provided with
  | again same => simp [Draft.sameMessage, same, Except.toOption]
  | signed other alone | refused other alone =>
      simp [Draft.sameMessage, other, ← answer_of_signedAlone alone serves, Except.toOption]

lemma Dispatched.fate {fee expiry : UInt64} {t : Transaction} {r : Except ExitError Signature}
    (sent : Dispatched setup k task number fee expiry t b ts r b') (serves : ∀ t ∈ ts, A.Serves t) :
    r.toOption = (A.dispatch setup t expiry).confirmed? ∧
      b' = (A.dispatch setup t expiry).shown k fee b := by
  unfold Answers.dispatch
  cases sent with
  | unsimulated on e x =>
      have gives : .error e = A.simulate t := serves_call.1 (serves _ List.mem_cons_self)
      simp [on, ← gives, Except.toOption, Fate.confirmed?, Fate.shown]
  | @submitted us vs answer _ _ simulated x y awaited =>
      have passes : (setup.simulateBeforeSend && (A.simulate t).toOption.isNone) = false := by
        cases simulated with
        | off off => simp [off]
        | passed on z =>
            have gives : .ok () = A.simulate t := serves_call.1 (serves _ List.mem_cons_self)
            simp [← gives, Except.toOption]
      have submits : answer = A.submit t :=
        serves_call.1 (serves ⟨.call (.submit t), answer, y⟩ (by simp))
      rw [passes, if_neg Bool.false_ne_true, ← submits]
      cases awaited with
      | refused e => exact ⟨rfl, rfl⟩
      | unconfirmed signature e z w =>
          have confirms : .error e = A.confirm signature expiry :=
            serves_call.1 (serves ⟨.call (.confirm signature expiry), .error e, w⟩ (by simp))
          simp [← confirms, Except.toOption, Fate.confirmed?, Fate.shown]
      | confirmed signature z w =>
          have confirms : .ok () = A.confirm signature expiry :=
            serves_call.1 (serves ⟨.call (.confirm signature expiry), .ok (), w⟩ (by simp))
          simp [← confirms, Except.toOption, Fate.confirmed?, Fate.shown]

lemma Sent.fate {r : Except ExitError Signature}
    (sent : Sent setup s primary k task number v b ts r b') (serves : ∀ t ∈ ts, A.Serves t) :
    r.toOption = (A.attempt setup s.order primary task v).confirmed? ∧
      b' = (A.attempt setup s.order primary task v).shown k v.feeLevel b := by
  unfold Answers.attempt
  cases sent with
  | undrafted drafted =>
      rw [← drafted.draft serves]
      exact ⟨rfl, rfl⟩
  | unsigned drafted provided =>
      obtain ⟨first, later⟩ := List.forall_mem_append.1 serves
      rw [← drafted.draft first]
      simp only [Except.toOption, ← provided.transaction later]
      exact ⟨rfl, rfl⟩
  | cancelled drafted provided x =>
      have goesOn := serves_stopped.1 (serves ⟨.stopped, true, x⟩ (by simp))
      cases goesOn
  | dispatched cleared sent =>
      obtain ⟨first, last⟩ := List.forall_mem_append.1 serves
      obtain ⟨drafted, provided, x⟩ := cleared
      simp only [List.forall_mem_append] at first
      obtain ⟨⟨first, later⟩, -⟩ := first
      rw [← drafted.draft first]
      simp only [Except.toOption, ← provided.transaction later]
      exact sent.fate last

lemma Attempted.fate {r : Except ExitError (Signature × UInt64)}
    (attempted : Attempted setup s primary k task number v b ts r b')
    (serves : ∀ t ∈ ts, A.Serves t) :
    r.toOption = (A.attempt setup s.order primary task v).confirmed?.map (·, v.feeLevel) ∧
      b' = (A.attempt setup s.order primary task v).shown k v.feeLevel
        (b.update k Item.attempted) := by
  cases attempted with
  | landed x sent =>
      obtain ⟨result, board⟩ := sent.fate fun t ht => serves t (by simp [ht])
      rw [← result]
      exact ⟨rfl, board⟩
  | failed x y sent =>
      obtain ⟨result, board⟩ := sent.fate fun t ht => serves t (by simp [ht])
      rw [← result]
      exact ⟨rfl, board⟩

/-! ## One item -/

/-- How far an item comes when the attempts at it have had the result. -/
def reached (r : Except (Exhausted ExitError) (Success (Signature × UInt64))) (i : Item) :
    Outcome :=
  match r with
  | .ok success => (i.landed success.value.1.text success.value.2).outcome
  | .error _ => { i.outcome with status := .error }

/-- The attempts at an item come out as the answers say. -/
lemma Tried.pursued {errors : List ExitError} {variants : List Variant}
    {r : Except (Exhausted ExitError) (Success (Signature × UInt64))} {i : Item}
    (tried : Tried setup s primary k task number errors variants b ts r b')
    (serves : ∀ t ∈ ts, A.Serves t) (found : b.items[k]? = some i) (ongoing : i.Ongoing) :
    ∃ j, b'.items[k]? = some j ∧ j.Ongoing ∧
      reached r j = A.pursue setup s.order primary task i.outcome variants := by
  induction tried generalizing i with
  | exhausted number errors b => exact ⟨i, found, ongoing, rfl⟩
  | stopped number errors v rest b x =>
      have goesOn := serves_stopped.1 (serves _ List.mem_cons_self)
      cases goesOn
  | @landed number errors v rest b us ts value b' looked went =>
      obtain ⟨result, rfl⟩ :=
        (attempted_of_goes went).fate (List.forall_mem_append.1 serves).2
      rw [pursue]
      cases fate : A.attempt setup s.order primary task v with
      | unsent | unconfirmed signature => simp [fate, Fate.confirmed?, Except.toOption] at result
      | confirmed signature =>
          obtain rfl : value = (signature, v.feeLevel) := by
            simpa [fate, Fate.confirmed?, Except.toOption] using result
          have sent := Item.submitted_attempted ongoing signature.text v.feeLevel
          refine ⟨i.attempted.submitted signature.text v.feeLevel, ?_, .inr (by rw [sent]), ?_⟩
          · simp [Fate.shown, Board.getElem?_update, found]
          · rw [reached, Item.landed_of_ongoing (.inr (by rw [sent])), sent]
            rfl
  | @failed number errors v rest b us ts e b₁ vs r b' looked went tried ih =>
      obtain ⟨first, last⟩ := List.forall_mem_append.1 serves
      obtain ⟨result, rfl⟩ :=
        (attempted_of_goes went).fate (List.forall_mem_append.1 first).2
      rw [pursue]
      cases fate : A.attempt setup s.order primary task v with
      | confirmed signature => simp [fate, Fate.confirmed?, Except.toOption] at result
      | unsent =>
          refine ih (i := i.attempted) last ?_ ongoing
          simp [fate, Fate.shown, Board.getElem?_update, found]
      | unconfirmed signature =>
          have sent := Item.submitted_attempted ongoing signature.text v.feeLevel
          obtain ⟨j, found', ongoing', out⟩ :=
            ih (i := i.attempted.submitted signature.text v.feeLevel) last
              (by simp [fate, Fate.shown, Board.getElem?_update, found]) (.inr (by rw [sent]))
          refine ⟨j, found', ongoing', out.trans ?_⟩
          rw [sent]
          rfl

/-- Work on an item comes out as the answers say. -/
lemma Handled.pursued {i : Item} (handled : Handled setup s primary k task b ts b')
    (serves : ∀ t ∈ ts, A.Serves t) (found : b.items[k]? = some i) (ongoing : i.Ongoing) :
    ∃ j, b'.items[k]? = some j ∧
      j.outcome = A.pursue setup s.order primary task i.outcome task.attempts := by
  cases handled with
  | confirmed tried x y =>
      obtain ⟨j, found', -, out⟩ :=
        tried.pursued (fun t ht => serves t (List.mem_append_left _ ht)) found ongoing
      exact ⟨_, by rw [Board.getElem?_update, if_pos rfl, found']; rfl, out⟩
  | left tried ended last =>
      obtain ⟨t, mem, tells⟩ := tried.tellsStop ended (by simp)
      rw [(serves t mem).goesOn] at tells
      cases tells
  | @failed _ _ _ reason tried failing x y =>
      obtain ⟨j, found', ongoing', out⟩ :=
        tried.pursued (fun t ht => serves t (List.mem_append_left _ ht)) found ongoing
      refine ⟨(j.fail reason).2, by rw [Board.getElem?_update, if_pos rfl, found']; rfl, ?_⟩
      rw [← out, Item.fail, Item.stop_of_not_terminal ongoing'.isTerminal rfl]
      rfl

/-- The rehearsal of an item comes out as the answers say. -/
lemma Rehearsal.rehearsed {i : Item} (rehearsal : Rehearsal primary k task b ts b')
    (serves : ∀ t ∈ ts, A.Serves t) (found : b.items[k]? = some i) (ongoing : i.Ongoing) :
    ∃ j, b'.items[k]? = some j ∧ j.outcome = A.rehearse primary i.outcome := by
  cases rehearsal with
  | passed x y =>
      have gives : .ok () = A.simulate primary := serves_call.1 (serves _ List.mem_cons_self)
      refine ⟨(i.skip dryRunReason).2, by rw [Board.getElem?_update, if_pos rfl, found]; rfl, ?_⟩
      rw [Item.skip, Item.stop_of_not_terminal ongoing.isTerminal rfl, rehearse, ← gives]
      rfl
  | failed e x y z =>
      have gives : .error e = A.simulate primary := serves_call.1 (serves _ List.mem_cons_self)
      refine ⟨(i.fail e.message).2, by rw [Board.getElem?_update, if_pos rfl, found]; rfl, ?_⟩
      rw [Item.fail, Item.stop_of_not_terminal ongoing.isTerminal rfl, rehearse, ← gives]
      rfl

end

end Run

/-! ## The batch -/

namespace Signing

open Talk Answers

/-- The signed transaction in a slot of a batch. -/
def filled (slot : Transaction × Option SignerError) : Option Transaction :=
  if slot.2 = none then some slot.1 else none

section

variable {A : Answers} {bulk : Bool} {drafts : List Transaction} {ts : List Turn}

lemma Slotted.filled {index : Nat} {d : Transaction} {slot : Transaction × Option SignerError}
    (slotted : Slotted index d ts slot) (serves : ∀ t ∈ ts, A.Serves t) :
    filled slot = A.signed d := by
  cases slotted with
  | signed x t same =>
      have gives : .ok t = A.sign d := serves_call.1 (serves _ List.mem_cons_self)
      simp [Signing.filled, Answers.signed, ← gives, same, Except.toOption, Option.filter]
  | changed x t other =>
      have gives : .ok t = A.sign d := serves_call.1 (serves _ List.mem_cons_self)
      simp [Signing.filled, Answers.signed, ← gives, other, Except.toOption, Option.filter]
  | refused x y e =>
      have gives : .error e = A.sign d := serves_call.1 (serves _ List.mem_cons_self)
      simp [Signing.filled, Answers.signed, ← gives, Except.toOption]

/-- One after the other, the slots are filled as the wallet signs. -/
lemma SlottedAll.filled {index : Nat} {slots : List (Transaction × Option SignerError)}
    (went : SlottedAll index drafts ts slots) (serves : ∀ t ∈ ts, A.Serves t) :
    List.Forall₂ (fun d slot => filled slot = A.signed d) drafts slots := by
  induction went with
  | nil index => exact .nil
  | cons first rest ih =>
      obtain ⟨here, later⟩ := List.forall_mem_append.1 serves
      exact .cons (first.filled here) (ih later)

/-- All at once, the wallet signs as it signs each. -/
lemma signed_of_asked {signed : List Transaction} (asked : Asked drafts bulk ts (.ok signed))
    (serves : ∀ t ∈ ts, A.Serves t) :
    List.Forall₂ (fun d t => A.signed d = some t) drafts signed := by
  cases asked with
  | signed x _ same =>
      have gives := serves_call.1 (serves _ List.mem_cons_self) signed rfl
      refine gives.mp (fun d t signs message => ?_) same
      simp [Answers.signed, signs, message, Except.toOption, Option.filter]

/-- Both ways of signing fill the slots of a batch alike. -/
lemma filled_of_goes_batch {s : Signatures} (go : Goes (batch bulk drafts) ts s)
    (serves : ∀ t ∈ ts, A.Serves t) :
    List.Forall₂ (fun d slot => filled slot = A.signed d) drafts
      (s.transactions.zip s.errors) := by
  cases batched_of_goes go with
  | nothing empty =>
      subst empty
      exact .nil
  | @together us signed asked =>
      have slots : signed.map (fun t => (t, (none : Option SignerError))) =
          signed.zip (signed.map fun _ => none) :=
        List.zip_of_prod (by simp [Function.comp_def]) (by simp [Function.comp_def])
      rw [← slots, List.forall₂_map_right_iff]
      exact (signed_of_asked asked serves).imp fun d t signs => signs.symm
  | oneByOne asked went =>
      rw [← List.zip_of_prod rfl rfl]
      exact went.filled (List.forall_mem_append.1 serves).2

end

end Signing

end PoolExit
