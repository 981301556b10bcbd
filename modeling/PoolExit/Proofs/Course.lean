import PoolExit.Proofs.Progress

/-!
# How a run can go

The parts of a run around its attempts, turn by turn: trying the drafts of an item (`Tried`),
working on one item (`Handled`), on all of them (`Submitted`, or `Rehearsed` in a dry run), and
taking in the signatures before (`Settled`).  `Executed` puts them together to all that a run does
between its start and its end, and `Concluded` is its end.  As for attempts, each list says
everything that can happen, and laws about runs are inductions over these lists.
-/

namespace PoolExit

namespace Run

/-! ## The drafts of one item -/

/-- The look at the token between two attempts; there is none before the first one. -/
inductive Looked : Nat → List Turn → Prop
  | first : Looked 0 []
  | later (number x) : Looked (number + 1) [⟨.stopped, false, x⟩]

/-- How trying the drafts of an item can go, from the draft with a number on; `errors` are the
failures so far.  What an attempt can do is said by `attempted_of_goes`. -/
inductive Tried (setup : Setup) (s : PlanSettings) (primary : Transaction) (index : Nat)
    (task : Task) : Nat → List ExitError → List Variant → Board → List Turn →
      Except (Exhausted ExitError) (Success (Signature × UInt64)) → Board → Prop
  | exhausted (number errors b) :
      Tried setup s primary index task number errors [] b [] (.error ⟨errors, false⟩) b
  | stopped (number errors v rest b x) :
      Tried setup s primary index task (number + 1) errors (v :: rest) b [⟨.stopped, true, x⟩]
        (.error ⟨errors, true⟩) b
  | landed {number errors v rest b us ts value b'} (looked : Looked number us)
      (went : Goes (attempt setup s primary index task number v) b ts (.ok value) b') :
      Tried setup s primary index task number errors (v :: rest) b (us ++ ts)
        (.ok ⟨number, value, errors.length⟩) b'
  | failed {number errors v rest b us ts e b₁ vs r b'} (looked : Looked number us)
      (went : Goes (attempt setup s primary index task number v) b ts (.error e) b₁)
      (tried : Tried setup s primary index task (number + 1) (errors ++ [e]) rest b₁ vs r b') :
      Tried setup s primary index task number errors (v :: rest) b (us ++ ts ++ vs) r b'

section

variable {setup : Setup} {s : PlanSettings} {primary : Transaction} {index : Nat} {task : Task}

/-- The look before an attempt, as the attempts are carried out. -/
lemma goes_looked {α : Type} {next : Bool → Run α} {number : Nat} {b b' : Board} {ts : List Turn}
    {r : α} (go : Goes (if number = 0 then pure false >>= next else
      (Talk.stopped : Run Bool) >>= next) b ts r b') :
    (∃ us vs, ts = us ++ vs ∧ Looked number us ∧ Goes (next false) b vs r b') ∨
      ∃ n x vs, number = n + 1 ∧ ts = ⟨.stopped, true, x⟩ :: vs ∧ Goes (next true) b vs r b' := by
  cases number with
  | zero => exact .inl ⟨[], ts, rfl, .first, by simpa using go⟩
  | succ number =>
      rw [if_neg number.succ_ne_zero] at go
      obtain ⟨c, b₁, us, vs, rfl, looking, rest⟩ := goes_bind.1 go
      obtain ⟨look, rfl⟩ := goes_lift.1 looking
      obtain ⟨x, rfl⟩ := Talk.goes_stopped.1 look
      cases c with
      | false => exact .inl ⟨_, vs, rfl, .later number x, rest⟩
      | true => exact .inr ⟨number, x, vs, rfl, rfl, rest⟩

lemma tried_of_goes : ∀ {variants : List Variant} {number : Nat} {errors : List ExitError}
    {b b' : Board} {ts : List Turn}
    {r : Except (Exhausted ExitError) (Success (Signature × UInt64))},
    Goes (firstSuccessFrom (some (Talk.stopped : Run Bool)) (attempt setup s primary index task)
      number errors variants) b ts r b' →
    Tried setup s primary index task number errors variants b ts r b'
  | [], number, errors, b, _, _, _, go => by
      obtain ⟨rfl, rfl, rfl⟩ := goes_pure.1 go
      exact .exhausted number errors b
  | v :: rest, number, errors, b, b', ts, r, go => by
      rw [firstSuccessFrom] at go
      rcases goes_looked go with ⟨us, vs, rfl, looked, trying⟩ | ⟨n, x, vs, rfl, rfl, stopping⟩
      · simp only [Bool.false_eq_true, if_false] at trying
        obtain ⟨answer, b₁, ts, vs, rfl, attempting, next⟩ := goes_bind.1 trying
        cases answer with
        | ok value =>
            obtain ⟨rfl, rfl, rfl⟩ := goes_pure.1 next
            simpa using Tried.landed looked attempting
        | error e =>
            rw [← List.append_assoc]
            exact .failed looked attempting (tried_of_goes next)
      · simp only [if_true] at stopping
        obtain ⟨rfl, rfl, rfl⟩ := goes_pure.1 stopping
        exact .stopped n errors v rest b x

end

/-! ## One item -/

/-- Why an item failed whose attempts were exhausted: where they were ended by a cancellation it is
the last failure before it, if there is one. -/
inductive Failing (exhausted : Exhausted ExitError) : String → Prop
  | cancelled {e} (ended : endedByCancel exhausted = true) (last : lastFailure exhausted = some e) :
      Failing exhausted e.describe
  | plain (ended : endedByCancel exhausted = false) :
      Failing exhausted ((exhausted.last?.map ExitError.describe).getD "没有可发送的草稿")

/-- How working on an item can go. -/
inductive Handled (setup : Setup) (s : PlanSettings) (primary : Transaction) (index : Nat)
    (task : Task) (b : Board) : List Turn → Board → Prop
  | confirmed {ts success b'}
      (tried : Tried setup s primary index task 0 [] task.attempts b ts (.ok success) b') (x y) :
      Handled setup s primary index task b
        (ts ++ [⟨.note (.confirmed index task success.value.1 success.value.2 success.index
            success.failures), (), x⟩,
          ⟨.publish (b'.update index fun i => i.landed success.value.1.text success.value.2),
            (), y⟩])
        (b'.update index fun i => i.landed success.value.1.text success.value.2)
  | left {ts exhausted b'}
      (tried : Tried setup s primary index task 0 [] task.attempts b ts (.error exhausted) b')
      (ended : endedByCancel exhausted = true) (last : lastFailure exhausted = none) :
      Handled setup s primary index task b ts b'
  | failed {ts exhausted b' reason}
      (tried : Tried setup s primary index task 0 [] task.attempts b ts (.error exhausted) b')
      (failing : Failing exhausted reason) (x y) :
      Handled setup s primary index task b
        (ts ++ [⟨.note (.failed index task reason), (), x⟩,
          ⟨.publish (b'.update index fun i => (i.fail reason).2), (), y⟩])
        (b'.update index fun i => (i.fail reason).2)

section

variable {setup : Setup} {s : PlanSettings}

lemma handled_of_goes {primary : Transaction} {index : Nat} {task : Task} {b b' : Board}
    {ts : List Turn} {u : Unit} (go : Goes (submitItem setup s primary index task) b ts u b') :
    Handled setup s primary index task b ts b' := by
  obtain ⟨result, b₁, us, vs, rfl, trying, judging⟩ := goes_bind.1 go
  have tried := tried_of_goes trying
  cases result with
  | ok success =>
      obtain ⟨_, _, ns, vs, rfl, noting, updating⟩ := goes_bind.1 judging
      obtain ⟨note, rfl⟩ := goes_lift.1 noting
      obtain ⟨x, rfl⟩ := Talk.goes_note.1 note
      obtain ⟨y, rfl, rfl⟩ := goes_update.1 updating
      exact .confirmed tried x y
  | error exhausted =>
      cases ended : endedByCancel exhausted with
      | true =>
          simp only [ended, if_true] at judging
          cases last : lastFailure exhausted with
          | none =>
              simp only [last] at judging
              obtain ⟨rfl, -, rfl⟩ := goes_pure.1 judging
              rw [List.append_nil]
              exact .left tried ended last
          | some e =>
              simp only [last] at judging
              obtain ⟨x, y, rfl, rfl⟩ := goes_fail.1 judging
              exact .failed tried (.cancelled ended last) x y
      | false =>
          simp only [ended, Bool.false_eq_true, if_false] at judging
          obtain ⟨x, y, rfl, rfl⟩ := goes_fail.1 judging
          exact .failed tried (.plain ended) x y

end

/-! ## All items -/

/-- How working on the items can go.  Items without a signed primary draft are passed over. -/
inductive Submitted (setup : Setup) (s : PlanSettings) :
    List ((Task × Option Transaction) × Nat) → Board → List Turn → Board → Prop
  | done (b) : Submitted setup s [] b [] b
  | unsigned {task index work b ts b'} (rest : Submitted setup s work b ts b') :
      Submitted setup s (((task, none), index) :: work) b ts b'
  | stopped (task primary index work b x) :
      Submitted setup s (((task, some primary), index) :: work) b [⟨.stopped, true, x⟩] b
  | handled {task primary index work b ts b₁ us b'} (x y)
      (handled : Handled setup s primary index task (b.focus index) ts b₁)
      (rest : Submitted setup s work b₁ us b') :
      Submitted setup s (((task, some primary), index) :: work) b
        (⟨.stopped, false, x⟩ :: ⟨.publish (b.focus index), (), y⟩ :: (ts ++ us)) b'

/-- How simulating one signed primary draft of a dry run can go. -/
inductive Rehearsal (primary : Transaction) (index : Nat) (task : Task) (b : Board) :
    List Turn → Board → Prop
  | passed (x y) : Rehearsal primary index task b
      [⟨.call (.simulate primary), .ok (), x⟩,
        ⟨.publish (b.update index fun i => (i.skip dryRunReason).2), (), y⟩]
      (b.update index fun i => (i.skip dryRunReason).2)
  | failed (e x y z) : Rehearsal primary index task b
      [⟨.call (.simulate primary), .error e, x⟩, ⟨.note (.failed index task e.message), (), y⟩,
        ⟨.publish (b.update index fun i => (i.fail e.message).2), (), z⟩]
      (b.update index fun i => (i.fail e.message).2)

/-- How simulating the signed primary drafts of a dry run can go. -/
inductive Rehearsed :
    List ((Task × Option Transaction) × Nat) → Board → List Turn → Board → Prop
  | done (b) : Rehearsed [] b [] b
  | unsigned {task index work b ts b'} (rest : Rehearsed work b ts b') :
      Rehearsed (((task, none), index) :: work) b ts b'
  | stopped (task primary index work b x) :
      Rehearsed (((task, some primary), index) :: work) b [⟨.stopped, true, x⟩] b
  | simulated {task primary index work b ts b₁ us b'} (x y)
      (rehearsal : Rehearsal primary index task (b.focus index) ts b₁)
      (rest : Rehearsed work b₁ us b') :
      Rehearsed (((task, some primary), index) :: work) b
        (⟨.stopped, false, x⟩ :: ⟨.publish (b.focus index), (), y⟩ :: (ts ++ us)) b'

/-- How taking in the outcome of signing can go. -/
inductive Settled : List ((Task × Transaction × Option SignerError) × Nat) → Board → List Turn →
    List (Option Transaction) → Board → Prop
  | done (b) : Settled [] b [] [] b
  | signed {task transaction index rest b ts slots b'} (x)
      (settled : Settled rest (b.update index fun i => (i.advance .signed).2) ts slots b') :
      Settled (((task, transaction, none), index) :: rest) b
        (⟨.publish (b.update index fun i => (i.advance .signed).2), (), x⟩ :: ts)
        (some transaction :: slots) b'
  | refused {task transaction e index rest b ts slots b'} (x y)
      (settled : Settled rest (b.update index fun i => (i.fail e.message).2) ts slots b') :
      Settled (((task, transaction, some e), index) :: rest) b
        (⟨.note (.failed index task e.message), (), x⟩ ::
          ⟨.publish (b.update index fun i => (i.fail e.message).2), (), y⟩ :: ts)
        (none :: slots) b'

section

variable {setup : Setup} {s : PlanSettings}

lemma submitted_of_goes : ∀ {work : List ((Task × Option Transaction) × Nat)} {b b' : Board}
    {ts : List Turn} {u : Unit}, Goes (submitAll setup s work) b ts u b' →
    Submitted setup s work b ts b'
  | [], b, _, _, _, go => by
      obtain ⟨rfl, -, rfl⟩ := goes_pure.1 go
      exact .done b
  | ((_, none), _) :: _, _, _, _, _, go => .unsigned (submitted_of_goes go)
  | ((task, some primary), index) :: work, b, b', ts, u, go => by
      obtain ⟨c, _, us, vs, rfl, looking, working⟩ := goes_bind.1 go
      obtain ⟨look, rfl⟩ := goes_lift.1 looking
      obtain ⟨x, rfl⟩ := Talk.goes_stopped.1 look
      cases c with
      | true =>
          rw [if_pos rfl] at working
          obtain ⟨rfl, -, rfl⟩ := goes_pure.1 working
          exact .stopped task primary index work b x
      | false =>
          rw [if_neg Bool.false_ne_true] at working
          obtain ⟨_, _, ps, vs, rfl, focusing, handling⟩ := goes_bind.1 working
          obtain ⟨y, rfl, rfl⟩ := goes_post.1 focusing
          obtain ⟨_, b₁, ts, us, rfl, item, rest⟩ := goes_bind.1 handling
          simpa using Submitted.handled x y (handled_of_goes item) (submitted_of_goes rest)

lemma rehearsed_of_goes : ∀ {work : List ((Task × Option Transaction) × Nat)} {b b' : Board}
    {ts : List Turn} {u : Unit}, Goes (simulateAll work) b ts u b' → Rehearsed work b ts b'
  | [], b, _, _, _, go => by
      obtain ⟨rfl, -, rfl⟩ := goes_pure.1 go
      exact .done b
  | ((_, none), _) :: _, _, _, _, _, go => .unsigned (rehearsed_of_goes go)
  | ((task, some primary), index) :: work, b, b', ts, u, go => by
      obtain ⟨c, _, us, vs, rfl, looking, working⟩ := goes_bind.1 go
      obtain ⟨look, rfl⟩ := goes_lift.1 looking
      obtain ⟨x, rfl⟩ := Talk.goes_stopped.1 look
      cases c with
      | true =>
          rw [if_pos rfl] at working
          obtain ⟨rfl, -, rfl⟩ := goes_pure.1 working
          exact .stopped task primary index work b x
      | false =>
          rw [if_neg Bool.false_ne_true] at working
          obtain ⟨_, _, ps, vs, rfl, focusing, simulating⟩ := goes_bind.1 working
          obtain ⟨y, rfl, rfl⟩ := goes_post.1 focusing
          obtain ⟨answer, _, cs, vs, rfl, calling, judging⟩ := goes_bind.1 simulating
          obtain ⟨call, rfl⟩ := goes_lift.1 calling
          obtain ⟨z, rfl⟩ := Talk.goes_call.1 call
          cases answer with
          | ok passed =>
              obtain ⟨_, _, ps, us, rfl, updating, rest⟩ := goes_bind.1 judging
              obtain ⟨w, rfl, rfl⟩ := goes_update.1 updating
              simpa using Rehearsed.simulated x y (.passed z w) (rehearsed_of_goes rest)
          | error e =>
              obtain ⟨_, _, ps, us, rfl, failing, rest⟩ := goes_bind.1 judging
              obtain ⟨w, a, rfl, rfl⟩ := goes_fail.1 failing
              simpa using Rehearsed.simulated x y (.failed e z w a) (rehearsed_of_goes rest)

lemma settled_of_goes : ∀ {entries : List ((Task × Transaction × Option SignerError) × Nat)}
    {b b' : Board} {ts : List Turn} {slots : List (Option Transaction)},
    Goes (settle entries) b ts slots b' → Settled entries b ts slots b'
  | [], b, _, _, _, go => by
      obtain ⟨rfl, rfl, rfl⟩ := goes_pure.1 go
      exact .done b
  | ((task, transaction, none), index) :: entries, b, b', ts, slots, go => by
      obtain ⟨_, _, ps, vs, rfl, updating, slot⟩ := goes_bind.1 go
      obtain ⟨x, rfl, rfl⟩ := goes_update.1 updating
      rw [pure_bind] at slot
      obtain ⟨others, b₁, us, vs, rfl, settling, out⟩ := goes_bind.1 slot
      obtain ⟨rfl, rfl, rfl⟩ := goes_pure.1 out
      rw [List.append_nil]
      exact .signed x (settled_of_goes settling)
  | ((task, transaction, some e), index) :: entries, b, b', ts, slots, go => by
      obtain ⟨_, _, ps, vs, rfl, failing, slot⟩ := goes_bind.1 go
      obtain ⟨x, y, rfl, rfl⟩ := goes_fail.1 failing
      rw [pure_bind] at slot
      obtain ⟨others, b₁, us, vs, rfl, settling, out⟩ := goes_bind.1 slot
      obtain ⟨rfl, rfl, rfl⟩ := goes_pure.1 out
      rw [List.append_nil]
      exact .refused x y (settled_of_goes settling)

end

/-! ## From start to end -/

/-- How working on all items can go, for a plain or a dry run. -/
inductive Worked (setup : Setup) (o : Options) (work : List ((Task × Option Transaction) × Nat))
    (b : Board) : List Turn → Board → Prop
  | submitted {ts b'} (plain : o.dryRun = false)
      (submitted : Submitted setup (setup.planSettings o) work b ts b') :
      Worked setup o work b ts b'
  | rehearsed {ts b'} (dry : o.dryRun = true) (rehearsed : Rehearsed work b ts b') :
      Worked setup o work b ts b'

/-- The talk in which a run makes its plan. -/
def planning (setup : Setup) (o : Options) : Talk (Option Plan) :=
  Planning.plan setup.adapters (setup.planSettings o) true

/-- The talk in which a run has its primary drafts signed. -/
def signing (setup : Setup) (plan : Plan) : Talk (Option Signatures) :=
  (Signing.batch setup.bulk (plan.tasks.map fun t => t.primary.transaction)).untilStopped

/-- The outcome of signing, task by task. -/
def entries (plan : Plan) (outcome : Signatures) :
    List ((Task × Transaction × Option SignerError) × Nat) :=
  (plan.tasks.zip (outcome.transactions.zip outcome.errors)).zipIdx

/-- How a run can act on its plan. -/
inductive Acted (setup : Setup) (o : Options) (plan : Plan) (b : Board) :
    List Turn → Except ExitError Unit → Board → Prop
  | nothing (empty : plan.tasks = []) (x y) :
      Acted setup o plan b
        [⟨.publish (b.planned plan.tasks), (), x⟩, ⟨.note .nothingToExit, (), y⟩]
        (.ok ()) (b.planned plan.tasks)
  | refused {strangers} (refused : setup.guard.checkAll plan.tasks = .error strangers) (x y) :
      Acted setup o plan b
        [⟨.publish (b.planned plan.tasks), (), x⟩, ⟨.note (.strangers strangers), (), y⟩]
        (.error (.unexpectedSigner strangers)) (b.planned plan.tasks)
  | unsigned {us} (passed : setup.guard.checkAll plan.tasks = .ok ()) (x)
      (signed : Talk.Goes (signing setup plan) us none) :
      Acted setup o plan b (⟨.publish (b.planned plan.tasks), (), x⟩ :: us)
        (.error .cancelled) (b.planned plan.tasks)
  | worked {us outcome vs slots b₁ ws b'} (passed : setup.guard.checkAll plan.tasks = .ok ()) (x)
      (signed : Talk.Goes (signing setup plan) us (some outcome)) (y)
      (settled : Settled (entries plan outcome) (b.planned plan.tasks) vs slots b₁)
      (worked : Worked setup o (plan.tasks.zip slots).zipIdx b₁ ws b') :
      Acted setup o plan b
        (⟨.publish (b.planned plan.tasks), (), x⟩ ::
          (us ++ ⟨.note (.signed outcome.path plan.tasks.length outcome.failed), (), y⟩ ::
            (vs ++ ws)))
        (.ok ()) b'

/-- How a run can go between its start and its end. -/
inductive Executed (setup : Setup) (o : Options) (b : Board) :
    List Turn → Except ExitError Unit → Board → Prop
  | unplanned {ps} (planned : Talk.Goes (planning setup o) ps none) :
      Executed setup o b ps (.error .cancelled) b
  | planned {ps plan us r b'} (planned : Talk.Goes (planning setup o) ps (some plan))
      (acted : Acted setup o plan b us r b') : Executed setup o b (ps ++ us) r b'

/-- How a run can end. -/
inductive Concluded (b : Board) :
    Except ExitError Unit → List Turn → Except ExitError Board → Board → Prop
  | finished {outcome} (harmless : outcome = .ok () ∨ outcome = .error .cancelled)
      (cancelled x y z) : Concluded b outcome
        [⟨.stopped, cancelled, x⟩, ⟨.publish (b.closed none cancelled), (), y⟩,
          ⟨.note (.finished (b.closed none cancelled).summary (b.closed none cancelled).cancelled),
            (), z⟩]
        (.ok (b.closed none cancelled)) (b.closed none cancelled)
  | givenUp {e} (harmful : e ≠ .cancelled) (cancelled x y z) : Concluded b (.error e)
      [⟨.note (.aborted e.describe), (), x⟩, ⟨.stopped, cancelled, y⟩,
        ⟨.publish (b.closed (some e.describe) cancelled), (), z⟩]
      (.error e) (b.closed (some e.describe) cancelled)

section

variable {setup : Setup} {o : Options} {b b' : Board} {ts : List Turn}

lemma worked_of_goes {work : List ((Task × Option Transaction) × Nat)}
    {r : Except ExitError Unit}
    (go : Goes (if o.dryRun = true then (do simulateAll work; pure (.ok ()))
      else (do submitAll setup (setup.planSettings o) work; pure (.ok ()))) b ts r b') :
    r = .ok () ∧ Worked setup o work b ts b' := by
  cases dry : o.dryRun with
  | true =>
      rw [if_pos dry] at go
      obtain ⟨_, b₁, us, vs, rfl, simulating, out⟩ := goes_bind.1 go
      obtain ⟨rfl, rfl, rfl⟩ := goes_pure.1 out
      rw [List.append_nil]
      exact ⟨rfl, .rehearsed dry (rehearsed_of_goes simulating)⟩
  | false =>
      rw [if_neg (by simp [dry])] at go
      obtain ⟨_, b₁, us, vs, rfl, submitting, out⟩ := goes_bind.1 go
      obtain ⟨rfl, rfl, rfl⟩ := goes_pure.1 out
      rw [List.append_nil]
      exact ⟨rfl, .submitted dry (submitted_of_goes submitting)⟩

lemma executed_of_goes {r : Except ExitError Unit} (go : Goes (execute setup o) b ts r b') :
    Executed setup o b ts r b' := by
  obtain ⟨made, _, ps, vs, rfl, talking, planned⟩ := goes_bind.1 go
  obtain ⟨talk, rfl⟩ := goes_lift.1 talking
  cases made with
  | none =>
      obtain ⟨rfl, rfl, rfl⟩ := goes_pure.1 planned
      rw [List.append_nil]
      exact .unplanned talk
  | some plan =>
      obtain ⟨_, _, us, vs, rfl, showing, judging⟩ := goes_bind.1 planned
      obtain ⟨x, rfl, rfl⟩ := goes_post.1 showing
      by_cases empty : plan.tasks.isEmpty = true
      · rw [if_pos empty] at judging
        obtain ⟨_, _, ns, vs, rfl, noting, out⟩ := goes_bind.1 judging
        obtain ⟨note, rfl⟩ := goes_lift.1 noting
        obtain ⟨y, rfl⟩ := Talk.goes_note.1 note
        obtain ⟨rfl, rfl, rfl⟩ := goes_pure.1 out
        exact .planned talk (.nothing (List.isEmpty_iff.1 empty) x y)
      · rw [if_neg empty] at judging
        cases check : setup.guard.checkAll plan.tasks with
        | error strangers =>
            simp only [check] at judging
            obtain ⟨_, _, ns, vs, rfl, noting, out⟩ := goes_bind.1 judging
            obtain ⟨note, rfl⟩ := goes_lift.1 noting
            obtain ⟨y, rfl⟩ := Talk.goes_note.1 note
            obtain ⟨rfl, rfl, rfl⟩ := goes_pure.1 out
            exact .planned talk (.refused check x y)
        | ok passed =>
            simp only [check] at judging
            obtain ⟨signed, _, us, vs, rfl, asking, working⟩ := goes_bind.1 judging
            obtain ⟨ask, rfl⟩ := goes_lift.1 asking
            cases signed with
            | none =>
                obtain ⟨rfl, rfl, rfl⟩ := goes_pure.1 working
                rw [List.append_nil]
                exact .planned talk (.unsigned check x ask)
            | some outcome =>
                obtain ⟨_, _, ns, vs, rfl, noting, settling⟩ := goes_bind.1 working
                obtain ⟨note, rfl⟩ := goes_lift.1 noting
                obtain ⟨y, rfl⟩ := Talk.goes_note.1 note
                obtain ⟨slots, b₁, vs, ws, rfl, settles, rest⟩ := goes_bind.1 settling
                obtain ⟨rfl, worked⟩ := worked_of_goes rest
                have acted := Acted.worked check x ask y (settled_of_goes settles) worked
                simpa using Executed.planned talk acted

/-- The end of a run that has no failure to report. -/
lemma concluded_of_goes_finish {outcome : Except ExitError Unit} {r : Except ExitError Board}
    (harmless : outcome = .ok () ∨ outcome = .error .cancelled)
    (go : Goes (conclude (.ok ())) b ts r b') : Concluded b outcome ts r b' := by
  obtain ⟨cancelled, _, us, vs, rfl, looking, closing⟩ := goes_bind.1 go
  obtain ⟨look, rfl⟩ := goes_lift.1 looking
  obtain ⟨x, rfl⟩ := Talk.goes_stopped.1 look
  obtain ⟨_, _, ps, vs, rfl, showing, reporting⟩ := goes_bind.1 closing
  obtain ⟨y, rfl, rfl⟩ := goes_post.1 showing
  obtain ⟨_, _, gs, vs, rfl, reading, noting⟩ := goes_bind.1 reporting
  obtain ⟨rfl, rfl, rfl⟩ := goes_get.1 reading
  obtain ⟨_, _, ns, vs, rfl, writing, out⟩ := goes_bind.1 noting
  obtain ⟨note, rfl⟩ := goes_lift.1 writing
  obtain ⟨z, rfl⟩ := Talk.goes_note.1 note
  obtain ⟨rfl, rfl, rfl⟩ := goes_pure.1 out
  exact .finished harmless cancelled x y z

lemma concluded_of_goes {outcome : Except ExitError Unit} {r : Except ExitError Board}
    (go : Goes (conclude outcome) b ts r b') : Concluded b outcome ts r b' := by
  cases outcome with
  | ok u => exact concluded_of_goes_finish (.inl rfl) go
  | error e =>
      by_cases harmless : e = .cancelled
      · subst harmless
        exact concluded_of_goes_finish (.inr rfl) go
      · have givesUp : conclude (.error e) = do
            Talk.note (.aborted e.describe)
            let cancelled ← (Talk.stopped : Run Bool)
            post (·.closed (some e.describe) cancelled)
            return .error e := by
          cases e <;> first | rfl | exact absurd rfl harmless
        rw [givesUp] at go
        obtain ⟨_, _, ns, vs, rfl, writing, looking⟩ := goes_bind.1 go
        obtain ⟨note, rfl⟩ := goes_lift.1 writing
        obtain ⟨x, rfl⟩ := Talk.goes_note.1 note
        obtain ⟨cancelled, _, us, vs, rfl, asking, closing⟩ := goes_bind.1 looking
        obtain ⟨look, rfl⟩ := goes_lift.1 asking
        obtain ⟨y, rfl⟩ := Talk.goes_stopped.1 look
        obtain ⟨_, _, ps, vs, rfl, showing, out⟩ := goes_bind.1 closing
        obtain ⟨z, rfl, rfl⟩ := goes_post.1 showing
        obtain ⟨rfl, rfl, rfl⟩ := goes_pure.1 out
        exact .givenUp harmless cancelled x y z

lemma goes_whole {r : Except ExitError Board} (go : Talk.Goes (whole setup o) ts r) :
    ∃ x us outcome b vs b', ts = ⟨.publish Board.opened, (), x⟩ :: (us ++ vs) ∧
      Executed setup o Board.opened us outcome b ∧ Concluded b outcome vs r b' := by
  obtain ⟨⟨a, b'⟩, running, rfl⟩ := Talk.goes_map.1 go
  obtain ⟨_, _, ps, vs, rfl, opening, rest⟩ := goes_bind.1 running
  obtain ⟨x, rfl, rfl⟩ := goes_post.1 opening
  obtain ⟨outcome, b, us, vs, rfl, executing, concluding⟩ := goes_bind.1 rest
  exact ⟨x, us, outcome, b, vs, b', rfl, executed_of_goes executing, concluded_of_goes concluding⟩

end

end Run

end PoolExit
