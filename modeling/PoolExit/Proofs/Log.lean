import PoolExit.Proofs.Stint

/-!
# What the log says about an item

The log of a run is the list of the events that it shows.  About the item at a place it can say four
things: that it failed and why, that it was confirmed and how, that an attempt at it begins, and
that an attempt failed.  `Told` reads all four off a list of turns, together with what is submitted
while the item is in work.

The log is read from the inside out.  Sending a draft either says nothing, or it says that an
attempt begins and then submits (`Spoken`).  So the attempts that are reported are as many as the
submissions, and what is left to count are the failed attempts.  An item that has been worked on
agrees with what was said about it (`WorkedOn.account`), and nothing was said about any other.
-/

namespace PoolExit

/-! ## Reading events -/

/-- A confirmation as it is reported: under which signature and for which fee, by which variant, and
how many variants failed before. -/
structure Confirmation where
  task : Task
  signature : Signature
  feeLevel : UInt64
  variant : Nat
  failedVariants : Nat

namespace Notice

/-- That the item at a place failed, and why. -/
def failure? (k : Nat) : Notice → Option (Task × String)
  | .failed index task reason => if index = k then some (task, reason) else none
  | _ => none

/-- That the item at a place was confirmed, and how. -/
def confirmation? (k : Nat) : Notice → Option Confirmation
  | .confirmed index task signature feeLevel variant failedVariants =>
      if index = k then some ⟨task, signature, feeLevel, variant, failedVariants⟩ else none
  | _ => none

/-- Whether an attempt at the item at a place begins. -/
def isAttempt (k : Nat) : Notice → Bool
  | .attempt index .. => index = k
  | _ => false

/-- Whether an attempt at the item at a place failed. -/
def isFailedAttempt (k : Nat) : Notice → Bool
  | .attemptFailed index .. => index = k
  | _ => false

/-- An event that is about another item, or about none, says nothing about this one. -/
lemma unsaid {k : Nat} {n : Notice} (other : n.index? ≠ some k) :
    n.failure? k = none ∧ n.confirmation? k = none ∧ n.isAttempt k = false ∧
      n.isFailedAttempt k = false := by
  cases n <;> simp_all [index?, failure?, confirmation?, isAttempt, isFailedAttempt]

end Notice

/-- The transaction that a call submits. -/
def Call.submitted? : Call → Option Transaction
  | .submit t => some t
  | _ => none

lemma Call.unsubmitted {c : Call} (untelling : c.telling = false) : c.submitted? = none := by
  cases c with
  | submit => cases untelling
  | _ => rfl

namespace Turn

/-- The event that a turn shows. -/
def notice? (t : Turn) : Option Notice := t.step.notice?

/-- The transaction that a turn submits. -/
def submitted? (t : Turn) : Option Transaction := t.step.call?.bind Call.submitted?

/-- A turn that submits nothing and shows no event about an item. -/
structure Mute (t : Turn) : Prop where
  aside : ∀ n, t.notice? = some n → n.Aside
  unsubmitted : t.submitted? = none

lemma mute_of_held {K : Call → Prop} (unlike : ∀ c, K c → c.submitted? = none) {t : Turn}
    (held : t.step.Held K Notice.Aside) : t.Mute where
  aside := held.notices
  unsubmitted := by
    unfold submitted?
    cases calls : t.step.call? with
    | none => rfl
    | some c => exact unlike c (held.quiet.2 c calls)

@[simp] lemma mute_stopped (b x : Bool) : Mute ⟨.stopped, b, x⟩ :=
  ⟨fun _ shown => (nomatch shown), rfl⟩

@[simp] lemma mute_publish (b : Board) (u : Unit) (x : Bool) : Mute ⟨.publish b, u, x⟩ :=
  ⟨fun _ shown => (nomatch shown), rfl⟩

lemma mute_call {c : Call} (other : c.submitted? = none) (a : c.Answer) (x : Bool) :
    Mute ⟨.call c, a, x⟩ := ⟨fun _ shown => (nomatch shown), other⟩

lemma mute_note {n : Notice} (aside : n.Aside) (u : Unit) (x : Bool) : Mute ⟨.note n, u, x⟩ := by
  refine ⟨fun n' shown => ?_, rfl⟩
  obtain rfl := Option.some.inj shown
  exact aside

/-- A turn that shows no event about another item than the one at a place. -/
def Speaks (k : Nat) (t : Turn) : Prop :=
  ∀ n, t.notice? = some n → n.index? = some k ∨ n.Aside

lemma Mute.speaks {t : Turn} (mute : t.Mute) (k : Nat) : t.Speaks k :=
  fun n shown => .inr (mute.aside n shown)

lemma speaks_call (k : Nat) (c : Call) (a : c.Answer) (x : Bool) : Speaks k ⟨.call c, a, x⟩ :=
  fun _ shown => (nomatch shown)

lemma speaks_note {k : Nat} {n : Notice} (about : n.index? = some k) (u : Unit) (x : Bool) :
    Speaks k ⟨.note n, u, x⟩ := by
  intro n' shown
  obtain rfl := Option.some.inj shown
  exact .inl about

end Turn

/-- The events that turns show. -/
def log (ts : List Turn) : List Notice := ts.filterMap Turn.notice?

@[simp] lemma log_append (ts us : List Turn) : log (ts ++ us) = log ts ++ log us :=
  List.filterMap_append

@[simp] lemma log_note (n : Notice) (u : Unit) (x : Bool) (ts : List Turn) :
    log (⟨.note n, u, x⟩ :: ts) = n :: log ts := rfl

@[simp] lemma log_publish (b : Board) (u : Unit) (x : Bool) (ts : List Turn) :
    log (⟨.publish b, u, x⟩ :: ts) = log ts := rfl

@[simp] lemma log_stopped (b x : Bool) (ts : List Turn) : log (⟨.stopped, b, x⟩ :: ts) = log ts :=
  rfl

@[simp] lemma log_call (c : Call) (a : c.Answer) (x : Bool) (ts : List Turn) :
    log (⟨.call c, a, x⟩ :: ts) = log ts := rfl

@[simp] lemma log_nil : log [] = [] := rfl

lemma mem_log {n : Notice} {ts : List Turn} :
    n ∈ log ts ↔ ∃ t ∈ ts, t.notice? = some n := List.mem_filterMap

/-- What is submitted while the item at a place is in work. -/
def Board.submissions (k : Nat) : Board → List Turn → List Transaction :=
  Board.gather <| Board.whileInWork k fun _ t => t.submitted?

/-! ## What turns tell about an item -/

/-- What the turns, which begin with the board `b`, tell about the item at the place `k`: its
failures, its confirmations and how many attempts failed.  The attempts that they report are as many
as the submissions. -/
structure Told (k : Nat) (b : Board) (ts : List Turn) (failures : List (Task × String))
    (confirmations : List Confirmation) (failed : Nat) : Prop where
  failures : (log ts).filterMap (Notice.failure? k) = failures
  confirmations : (log ts).filterMap (Notice.confirmation? k) = confirmations
  failed : (log ts).countP (Notice.isFailedAttempt k) = failed
  attempts : (log ts).countP (Notice.isAttempt k) = (b.submissions k ts).length

section

variable {k : Nat} {b : Board} {ts us : List Turn} {fs fs' : List (Task × String)}
  {cs cs' : List Confirmation} {n n' : Nat}

lemma Told.append (first : Told k b ts fs cs n) (second : Told k (b.afterAll ts) us fs' cs' n') :
    Told k b (ts ++ us) (fs ++ fs') (cs ++ cs') (n + n') where
  failures := by rw [log_append, List.filterMap_append, first.failures, second.failures]
  confirmations := by
    rw [log_append, List.filterMap_append, first.confirmations, second.confirmations]
  failed := by rw [log_append, List.countP_append, first.failed, second.failed]
  attempts := by
    have submits : b.submissions k (ts ++ us) =
        b.submissions k ts ++ (b.afterAll ts).submissions k us := Board.gather_append ..
    rw [log_append, List.countP_append, first.attempts, second.attempts, submits,
      List.length_append]

/-- Turns that submit nothing for an item and show no event about it tell nothing about it. -/
lemma told_of_unsaid (unsaid : ∀ m ∈ log ts, m.index? ≠ some k)
    (unsubmitted : b.submissions k ts = []) : Told k b ts [] [] 0 where
  failures := List.filterMap_eq_nil_iff.2 fun m hm => (Notice.unsaid (unsaid m hm)).1
  confirmations := List.filterMap_eq_nil_iff.2 fun m hm => (Notice.unsaid (unsaid m hm)).2.1
  failed := List.countP_eq_zero.2 fun m hm => by simp [(Notice.unsaid (unsaid m hm)).2.2.2]
  attempts := by
    rw [unsubmitted]
    exact List.countP_eq_zero.2 fun m hm => by simp [(Notice.unsaid (unsaid m hm)).2.2.1]

lemma submissions_of_unsubmitted (unsubmitted : ∀ t ∈ ts, t.submitted? = none) :
    b.submissions k ts = [] := by
  refine Board.gather_of_untold fun t ht c => ?_
  rw [Board.whileInWork, unsubmitted t ht, ite_self]

lemma told_of_mute (mute : ∀ t ∈ ts, t.Mute) (k : Nat) (b : Board) : Told k b ts [] [] 0 := by
  refine told_of_unsaid (fun m hm => ?_)
    (submissions_of_unsubmitted fun t ht => (mute t ht).unsubmitted)
  obtain ⟨t, ht, shown⟩ := mem_log.1 hm
  simp [((mute t ht).aside m shown).index]

lemma submissions_of_elsewhere (elsewhere : Run.Elsewhere k b ts) : b.submissions k ts = [] := by
  refine List.eq_nil_iff_forall_not_mem.2 fun tx mem => ?_
  obtain ⟨before, t, after, rfl, told⟩ := Board.mem_gather.1 mem
  obtain ⟨c, calls, -⟩ : ∃ c, t.step.call? = some c ∧ c.submitted? = some tx := by
    unfold Board.whileInWork at told
    split at told
    · exact Option.bind_eq_some_iff.1 told
    · cases told
  rw [Board.whileInWork_of_ne (elsewhere rfl (Turn.busy_of_call calls))] at told
  cases told

/-- Where another item is in work, nothing is told about this one. -/
lemma told_of_speaks {index : Nat} (speaks : ∀ t ∈ ts, t.Speaks index) (ne : k ≠ index)
    (elsewhere : Run.Elsewhere k b ts) : Told k b ts [] [] 0 := by
  refine told_of_unsaid (fun m hm => ?_) (submissions_of_elsewhere elsewhere)
  obtain ⟨t, ht, shown⟩ := mem_log.1 hm
  rcases speaks t ht m shown with about | aside
  · rw [about]
    exact fun h => ne (Option.some.inj h).symm
  · simp [aside.index]

/-- The end of an item with an error is reported and then shown. -/
lemma told_fail (k : Nat) (task : Task) (reason : String) (b c : Board) (x y : Bool) :
    Told k b [⟨.note (.failed k task reason), (), x⟩, ⟨.publish c, (), y⟩]
      [(task, reason)] [] 0 := by
  constructor <;>
    simp [Notice.failure?, Notice.confirmation?,
      Notice.isAttempt, Notice.isFailedAttempt, Board.submissions, Board.whileInWork,
      Turn.submitted?, Step.call?]

end

/-! ## An item and what is said about it -/

/-- The item agrees with what was said about it: it failed once, for the reason that it shows, or it
was confirmed once, as it shows, or neither.  Its attempts are those that failed and the one that
was confirmed. -/
structure Item.Account (i : Item) (failures : List (Task × String))
    (confirmations : List Confirmation) (failed : Nat) : Prop where
  error : i.status = .error → ∃ reason, i.error = some reason ∧ failures = [(i.task, reason)]
  unfailed : i.status ≠ .error → failures = []
  confirmed : i.status = .confirmed → ∃ (signature : Signature) (fee : UInt64),
    i.submissionId = some signature.text ∧ i.feeLevel = some fee ∧
      confirmations = [⟨i.task, signature, fee, failed, failed⟩]
  unconfirmed : i.status ≠ .confirmed → confirmations = []
  attempts : i.attempts = failed + if i.status = .confirmed then 1 else 0

namespace Item

variable {i : Item} {fs : List (Task × String)} {cs : List Confirmation} {n : Nat}

/-- About an item that has not ended only failed attempts were reported. -/
lemma account_of_not_terminal (goesOn : i.status.isTerminal = false) (count : i.attempts = n) :
    i.Account [] [] n := by
  cases h : i.status <;> rw [h] at goesOn <;> cases goesOn <;>
    exact ⟨by simp [h], fun _ => rfl, by simp [h], fun _ => rfl, by simp [h, count]⟩

lemma Account.of_not_terminal (account : i.Account fs cs n)
    (goesOn : i.status.isTerminal = false) : fs = [] ∧ cs = [] ∧ i.attempts = n := by
  have attempts := account.attempts
  cases h : i.status <;> rw [h] at goesOn <;> cases goesOn <;>
    exact ⟨account.unfailed (by simp [h]), account.unconfirmed (by simp [h]),
      by simpa [h] using attempts⟩

/-- An item that fails is reported with its reason. -/
lemma account_fail (goesOn : i.status.isTerminal = false) (count : i.attempts = n)
    (reason : String) : (i.fail reason).2.Account [(i.task, reason)] [] n := by
  rw [fail, stop_of_not_terminal goesOn rfl]
  exact ⟨fun _ => ⟨reason, rfl, rfl⟩, fun h => absurd rfl h, nofun, fun _ => rfl, count⟩

/-- Skipping an item is not reported. -/
lemma Account.skip (account : i.Account fs cs n) (reason : String) :
    (i.skip reason).2.Account fs cs n := by
  cases goesOn : i.status.isTerminal with
  | true => rwa [Item.skip, stop_of_terminal goesOn]
  | false =>
      obtain ⟨rfl, rfl, count⟩ := account.of_not_terminal goesOn
      rw [Item.skip, stop_of_not_terminal goesOn rfl]
      exact ⟨nofun, fun _ => rfl, nofun, fun _ => rfl, count⟩

/-- An item that lands is reported with its signature and its fee. -/
lemma account_landed (ongoing : i.Ongoing) (count : i.attempts = n + 1) (signature : Signature)
    (fee : UInt64) :
    (i.landed signature.text fee).Account [] [⟨i.task, signature, fee, n, n⟩] n := by
  rw [landed_of_ongoing ongoing]
  exact ⟨nofun, fun _ => rfl, fun _ => ⟨signature, fee, rfl, rfl, rfl⟩, fun h => absurd rfl h,
    count⟩

end Item

namespace Run

/-! ## Sending a draft -/

/-- What sending a draft says: nothing, or that an attempt begins, and then it submits. -/
inductive Spoken (index : Nat) : List Turn → Prop
  | nothing {ts} (mute : ∀ t ∈ ts, t.Mute) : Spoken index ts
  | attempt {us vs} (before : ∀ t ∈ us, t.Mute) (after : ∀ t ∈ vs, t.Mute) (task number fee x tx)
      (answer : (Step.call (.submit tx)).Answer) (y) : Spoken index
        (us ++ ([⟨.note (.attempt index task number fee), (), x⟩, ⟨.call (.submit tx), answer, y⟩] ++
          vs))

section

variable {setup : Setup} {s : PlanSettings} {primary : Transaction} {index number : Nat}
  {task : Task} {v : Variant} {b b' : Board} {ts us : List Turn} {fee : UInt64}

lemma Drafted.mute {r : Except ExitError Draft} (drafted : Drafted setup s index task v ts r) :
    ∀ t ∈ ts, t.Mute :=
  fun t ht => Turn.mute_of_held (fun _ h => Call.unsubmitted h.untelling) (drafted.held t ht)

lemma Provided.mute {draft : Draft} {r : Except ExitError Transaction}
    (provided : Provided setup primary draft ts r) : ∀ t ∈ ts, t.Mute :=
  fun t ht => Turn.mute_of_held (fun _ h => Call.unsubmitted h.untelling) (provided.held t ht)

lemma Cleared.mute {draft : Draft} {t : Transaction}
    (cleared : Cleared setup s primary index task v ts draft t) : ∀ u ∈ ts, u.Mute :=
  fun u hu => Turn.mute_of_held (fun _ h => Call.unsubmitted h.untelling) (cleared.held u hu)

lemma Simulated.mute {t : Transaction} (simulated : Simulated setup t ts) :
    ∀ u ∈ ts, u.Mute := by
  cases simulated with
  | off off => simp
  | passed on x => exact List.forall_mem_singleton.2 (Turn.mute_call rfl _ x)

lemma Awaited.mute {expiry : UInt64} {answer : Except LedgerError Signature}
    {r : Except ExitError Signature} (awaited : Awaited index fee expiry b answer ts r b') :
    ∀ t ∈ ts, t.Mute := by
  cases awaited with
  | refused e => simp
  | unconfirmed signature e x y | confirmed signature x y =>
      simp [Turn.mute_call (c := .confirm signature expiry) rfl]

lemma Looked.mute (looked : Looked number ts) : ∀ t ∈ ts, t.Mute := by
  cases looked <;> simp

lemma Spoken.append_left (mute : ∀ t ∈ us, t.Mute) (spoken : Spoken index ts) :
    Spoken index (us ++ ts) := by
  cases spoken with
  | nothing mute' => exact .nothing (List.forall_mem_append.2 ⟨mute, mute'⟩)
  | attempt before after task number fee x tx answer y =>
      rw [← List.append_assoc]
      exact .attempt (List.forall_mem_append.2 ⟨mute, before⟩) after task number fee x tx answer y

lemma Sent.spoken {r : Except ExitError Signature}
    (sent : Sent setup s primary index task number v b ts r b') : Spoken index ts := by
  cases sent with
  | undrafted drafted => exact .nothing drafted.mute
  | unsigned drafted provided =>
      exact .nothing (List.forall_mem_append.2 ⟨drafted.mute, provided.mute⟩)
  | cancelled drafted provided x =>
      refine .nothing (List.forall_mem_append.2
        ⟨List.forall_mem_append.2 ⟨drafted.mute, provided.mute⟩, ?_⟩)
      simp
  | dispatched cleared sent =>
      refine .append_left cleared.mute ?_
      cases sent with
      | unsimulated on e x =>
          exact .nothing (List.forall_mem_singleton.2 (Turn.mute_call rfl _ x))
      | submitted simulated x y awaited =>
          exact .attempt simulated.mute awaited.mute _ _ _ x _ _ y

lemma Spoken.speaks (spoken : Spoken index ts) : ∀ t ∈ ts, t.Speaks index := by
  cases spoken with
  | nothing mute => exact fun t ht => (mute t ht).speaks index
  | attempt before after task number fee x tx answer y =>
      have attempt : ∀ t ∈ [(⟨.note (.attempt index task number fee), (), x⟩ : Turn),
          ⟨.call (.submit tx), answer, y⟩], t.Speaks index :=
        List.forall_mem_cons.2 ⟨Turn.speaks_note rfl _ x,
          List.forall_mem_singleton.2 (Turn.speaks_call index (.submit tx) answer y)⟩
      exact List.forall_mem_append.2 ⟨fun t ht => (before t ht).speaks index,
        List.forall_mem_append.2 ⟨attempt, fun t ht => (after t ht).speaks index⟩⟩

/-- The attempts that sending a draft reports are as many as its submissions. -/
lemma Spoken.told (spoken : Spoken index ts) (focused : b.currentIndex = some index)
    (shows : Shows (fun c => c.currentIndex = some index) ts) : Told index b ts [] [] 0 := by
  cases spoken with
  | nothing mute => exact told_of_mute mute index b
  | @attempt us vs before after task number fee x tx answer y =>
      have inWork : (b.afterAll us).currentIndex = some index :=
        Board.afterAll_of_shows (shows_append.1 shows).1 focused
      have one : Told index (b.afterAll us)
          [⟨.note (.attempt index task number fee), (), x⟩, ⟨.call (.submit tx), answer, y⟩]
          [] [] 0 := by
        have later : ((b.afterAll us).next
            ⟨.note (.attempt index task number fee), (), x⟩).currentIndex = some index := inWork
        constructor <;>
          simp [Notice.failure?, Notice.confirmation?,
            Notice.isAttempt, Notice.isFailedAttempt, Board.submissions, Board.whileInWork,
            Turn.submitted?, Step.call?, Call.submitted?, later]
      exact (told_of_mute before index b).append (one.append (told_of_mute after index _))

end

/-! ## Attempts -/

section

variable {setup : Setup} {o : Options} {s : PlanSettings} {primary : Transaction} {k number : Nat}
  {task : Task} {v : Variant} {i : Item} {b b' : Board} {ts : List Turn}

/-- How many failed attempts an attempt counts for. -/
def failedAttempts : Except ExitError (Signature × UInt64) → Nat
  | .ok _ => 0
  | .error _ => 1

lemma Attempted.speaks {r : Except ExitError (Signature × UInt64)}
    (attempted : Attempted setup s primary k task number v b ts r b') :
    ∀ t ∈ ts, t.Speaks k := by
  cases attempted with
  | landed x sent =>
      exact List.forall_mem_cons.2 ⟨(Turn.mute_publish _ _ x).speaks k, sent.spoken.speaks⟩
  | failed x y sent =>
      refine List.forall_mem_cons.2 ⟨(Turn.mute_publish _ _ x).speaks k, ?_⟩
      exact List.forall_mem_append.2
        ⟨sent.spoken.speaks, List.forall_mem_singleton.2 (Turn.speaks_note rfl _ y)⟩

/-- An attempt is counted once.  If it fails, this is reported. -/
lemma Attempted.told {r : Except ExitError (Signature × UInt64)}
    (attempted : Attempted setup s primary k task number v b ts r b') (working : Working k b i) :
    Told k b ts [] [] (failedAttempts r) ∧
      ∃ j, Working k b' j ∧ j.task = i.task ∧ j.attempts = i.attempts + 1 := by
  have counted : Working k (b.update k Item.attempted) i.attempted :=
    working.update working.ongoing
  have focused : ∀ c, (b.update k Item.attempted).Touched k c → c.currentIndex = some k :=
    fun c touched => touched.currentIndex.trans counted.focused
  have counts : ∀ x, Told k b [⟨.publish (b.update k Item.attempted), (), x⟩] [] [] 0 :=
    fun x => told_of_mute (by simp) k b
  cases attempted with
  | landed x sent =>
      refine ⟨(counts x).append (sent.spoken.told counted.focused (sent.shows.mono focused)), ?_⟩
      exact sent.outlined.working counted
  | @failed us e _ x y sent =>
      have inWork : ((b.update k Item.attempted).afterAll us).currentIndex = some k :=
        Board.afterAll_of_shows (sent.shows.mono focused) counted.focused
      have reported : Told k ((b.update k Item.attempted).afterAll us)
          [⟨.note (.attemptFailed k task number v.feeLevel e), (), y⟩] [] [] 1 := by
        constructor <;>
          simp [Notice.failure?, Notice.confirmation?,
            Notice.isAttempt, Notice.isFailedAttempt, Board.submissions, Board.whileInWork,
            Turn.submitted?, Step.call?]
      refine ⟨(counts x).append
        ((sent.spoken.told counted.focused (sent.shows.mono focused)).append reported), ?_⟩
      exact sent.outlined.working counted

/-! ## One item -/

lemma Tried.speaks {errors : List ExitError} {variants : List Variant}
    {r : Except (Exhausted ExitError) (Success (Signature × UInt64))}
    (tried : Tried setup s primary k task number errors variants b ts r b') :
    ∀ t ∈ ts, t.Speaks k := by
  induction tried with
  | exhausted => simp
  | stopped number errors v rest b x =>
      exact List.forall_mem_singleton.2 ((Turn.mute_stopped true x).speaks k)
  | landed looked went =>
      exact List.forall_mem_append.2
        ⟨fun t ht => (looked.mute t ht).speaks k, (attempted_of_goes went).speaks⟩
  | failed looked went tried ih =>
      exact List.forall_mem_append.2 ⟨List.forall_mem_append.2
        ⟨fun t ht => (looked.mute t ht).speaks k, (attempted_of_goes went).speaks⟩, ih⟩

/-- Trying the drafts of an item reports each attempt that fails.  Where one lands, its number is
that of the attempts before it, all of which failed. -/
lemma Tried.told {errors : List ExitError} {variants : List Variant}
    {r : Except (Exhausted ExitError) (Success (Signature × UInt64))}
    (tried : Tried setup s primary k task number errors variants b ts r b')
    (working : Working k b i) :
    ∃ n j, Told k b ts [] [] n ∧ Working k b' j ∧ j.task = i.task ∧
      ((∃ exhausted, r = .error exhausted ∧ j.attempts = i.attempts + n) ∨
        ∃ success, r = .ok success ∧ j.attempts = i.attempts + n + 1 ∧
          success.index = number + n ∧ success.failures = errors.length + n) := by
  have looks : ∀ {us vs : List Turn} {b : Board} {number n : Nat}, Looked number us →
      Told k b vs [] [] n → Told k b (us ++ vs) [] [] n := by
    intro us vs b number n looked told
    rw [← Nat.zero_add n]
    exact (told_of_mute looked.mute k b).append (by rwa [afterAll_of_looked looked])
  induction tried generalizing i with
  | exhausted number errors b =>
      exact ⟨0, i, told_of_mute (by simp) k b, working, rfl, .inl ⟨_, rfl, rfl⟩⟩
  | stopped number errors v rest b x =>
      exact ⟨0, i, told_of_mute (by simp) k b, working, rfl, .inl ⟨_, rfl, rfl⟩⟩
  | landed looked went =>
      obtain ⟨told, j, working', same, count⟩ := (attempted_of_goes went).told working
      exact ⟨0, j, looks looked told, working', same, .inr ⟨_, rfl, count, rfl, rfl⟩⟩
  | @failed number errors v rest b us ts e b₁ vs r b' looked went tried ih =>
      have attempted := attempted_of_goes went
      obtain ⟨told, j, working', same, count⟩ := attempted.told working
      obtain ⟨n, j', later, working'', same', result⟩ := ih working'
      have ends : b.afterAll (us ++ ts) = b₁ := by
        rw [Board.afterAll_append, afterAll_of_looked looked]
        exact attempted.board
      refine ⟨1 + n, j', (looks looked told).append (ends ▸ later), working'', same'.trans same, ?_⟩
      rcases result with ⟨exhausted, rfl, count'⟩ | ⟨success, rfl, count', place, failures⟩
      · exact .inl ⟨exhausted, rfl, by omega⟩
      · refine .inr ⟨success, rfl, by omega, by omega, ?_⟩
        simp only [List.length_append, List.length_singleton] at failures
        omega

/-- What the turns tell about the item at the place `k` agrees with the item on the board `b'`. -/
def Accounted (k : Nat) (b : Board) (ts : List Turn) (b' : Board) : Prop :=
  ∃ j fs cs n, b'.items[k]? = some j ∧ Told k b ts fs cs n ∧ j.Account fs cs n

/-- The end of an item is reported where it is one of those to report. -/
lemma Handled.accounted (handled : Handled setup s primary k task b ts b')
    (working : Working k b (.signed task)) : Accounted k b ts b' := by
  have none : (Item.signed task).attempts = 0 := rfl
  cases handled with
  | left tried ended last =>
      obtain ⟨n, j, told, working', -, ⟨_, -, count⟩ | ⟨_, h, -⟩⟩ := tried.told working
      · refine ⟨j, [], [], n, working'.found, told, ?_⟩
        exact Item.account_of_not_terminal working'.ongoing.isTerminal (by omega)
      · cases h
  | @failed us exhausted b₁ reason tried failing x y =>
      obtain ⟨n, j, told, working', same, ⟨_, -, count⟩ | ⟨_, h, -⟩⟩ := tried.told working
      · have found : (b₁.update k fun i => (i.fail reason).2).items[k]? =
            some (j.fail reason).2 := by
          rw [Board.getElem?_update, if_pos rfl, working'.found, Option.map_some]
        obtain rfl : task = j.task := same.symm
        refine ⟨_, _, _, _, found, told.append (told_fail k _ reason _ _ x y), ?_⟩
        exact Item.account_fail working'.ongoing.isTerminal (by omega) reason
      · cases h
  | @confirmed us success b₁ tried x y =>
      obtain ⟨n, j, told, working', same, ⟨_, h, -⟩ | ⟨_, h, count, place, failures⟩⟩ :=
        tried.told working
      · cases h
      · obtain rfl := Except.ok.inj h
        obtain ⟨index, ⟨signature, fee⟩, failed⟩ := success
        have found : (b₁.update k fun i => i.landed signature.text fee).items[k]? =
            some (j.landed signature.text fee) := by
          rw [Board.getElem?_update, if_pos rfl, working'.found, Option.map_some]
        have reported : Told k (b.afterAll us)
            [⟨.note (.confirmed k task signature fee index failed), (), x⟩,
              ⟨.publish (b₁.update k fun i => i.landed signature.text fee), (), y⟩]
            [] [⟨task, signature, fee, index, failed⟩] 0 := by
          constructor <;>
            simp [Notice.failure?, Notice.confirmation?,
              Notice.isAttempt, Notice.isFailedAttempt, Board.submissions, Board.whileInWork,
              Turn.submitted?, Step.call?]
        obtain rfl : task = j.task := same.symm
        obtain rfl : index = n := by simpa using place
        obtain rfl : failed = index := by simpa using failures
        refine ⟨_, _, _, _, found, told.append reported, ?_⟩
        exact Item.account_landed working'.ongoing (by omega) signature fee

lemma Rehearsal.accounted (rehearsal : Rehearsal primary k task b ts b')
    (working : Working k b (.signed task)) : Accounted k b ts b' := by
  have found : ∀ change : Item → Item,
      (b.update k change).items[k]? = some (change (.signed task)) := by
    intro change
    rw [Board.getElem?_update, if_pos rfl, working.found, Option.map_some]
  have goesOn : (Item.signed task).status.isTerminal = false := rfl
  cases rehearsal with
  | passed x y =>
      refine ⟨_, [], [], 0, found _, told_of_mute ?_ k b, ?_⟩
      · simp [Turn.mute_call (c := .simulate primary) rfl]
      · exact (Item.account_of_not_terminal goesOn rfl).skip _
  | failed e x y z =>
      have simulated : Told k b [⟨.call (.simulate primary), .error e, x⟩] [] [] 0 :=
        told_of_mute (List.forall_mem_singleton.2 (Turn.mute_call rfl _ x)) k b
      exact ⟨_, _, _, _, found _, simulated.append (told_fail k task e.message _ _ y z),
        Item.account_fail goesOn rfl e.message⟩

lemma WorkedOn.accounted (workedOn : WorkedOn setup o primary k task b ts b')
    (working : Working k b (.signed task)) : Accounted k b ts b' := by
  cases workedOn with
  | handled plain handled => exact handled.accounted working
  | rehearsed dry rehearsal => exact rehearsal.accounted working

/-- The work on an item shows events about this item only. -/
lemma WorkedOn.speaks (workedOn : WorkedOn setup o primary k task b ts b') :
    ∀ t ∈ ts, t.Speaks k := by
  have shows : ∀ c y, Turn.Speaks k ⟨.publish c, (), y⟩ :=
    fun c y => (Turn.mute_publish c () y).speaks k
  cases workedOn with
  | handled plain handled =>
      cases handled with
      | left tried ended last => exact tried.speaks
      | confirmed tried x y | failed tried failing x y =>
          refine List.forall_mem_append.2 ⟨tried.speaks, ?_⟩
          exact List.forall_mem_cons.2
            ⟨Turn.speaks_note rfl _ x, List.forall_mem_singleton.2 (shows _ y)⟩
  | rehearsed dry rehearsal =>
      cases rehearsal with
      | passed x y =>
          exact List.forall_mem_cons.2
            ⟨Turn.speaks_call k (.simulate primary) _ x, List.forall_mem_singleton.2 (shows _ y)⟩
      | failed e x y z =>
          exact List.forall_mem_cons.2 ⟨Turn.speaks_call k (.simulate primary) _ x,
            List.forall_mem_cons.2
              ⟨Turn.speaks_note rfl _ y, List.forall_mem_singleton.2 (shows _ z)⟩⟩

end

end Run

end PoolExit
