import PoolExit.Proofs.Planning
import PoolExit.Proofs.RunTranscript
import PoolExit.Proofs.Signatures

/-!
# How an attempt can go

An attempt gets a draft that has not expired, gets it signed, looks once more whether the run is
cancelled, and only then turns to the ledger.  `Drafted`, `Provided`, `Dispatched` and `Sent` list
the ways in which each part can go, turn by turn: they say everything an attempt can do.  Laws
about attempts are read off these lists and need not unfold the talk again.
-/

namespace PoolExit

namespace Run

/-! ## A draft in time -/

/-- The look at the token and the question for the block height that begin every attempt. -/
def heightTurns (answer : Option (Except LedgerError UInt64)) (x y : Bool) : List Turn :=
  [⟨.stopped, false, x⟩, ⟨.race .blockHeight, answer, y⟩]

/-- How getting a draft in time can go. -/
inductive Drafted (setup : Setup) (s : PlanSettings) (index : Nat) (task : Task) (v : Variant) :
    List Turn → Except ExitError Draft → Prop
  | stopped (x) : Drafted setup s index task v [⟨.stopped, true, x⟩] (.error .cancelled)
  | givenUp (x y) : Drafted setup s index task v (heightTurns none x y) (.error .cancelled)
  | unknown (e x y) :
      Drafted setup s index task v (heightTurns (some (.error e)) x y) (.error (.ledger e))
  | planned {height} (inTime : height ≤ v.draft.expiryHeight) (x y) :
      Drafted setup s index task v (heightTurns (some (.ok height)) x y) (.ok v.draft)
  | expired {height} (late : ¬ height ≤ v.draft.expiryHeight) (off : setup.refreshExpired = false)
      (x y) : Drafted setup s index task v (heightTurns (some (.ok height)) x y)
        (.error (.ledger (.expired height v.draft.expiryHeight)))
  | unbuilt {height us e} (late : ¬ height ≤ v.draft.expiryHeight)
      (on : setup.refreshExpired = true) (x y)
      (built : Talk.Goes (Planning.rebuild setup.adapters s task v.feeLevel) us (.error e)) :
      Drafted setup s index task v (heightTurns (some (.ok height)) x y ++ us) (.error (.venue e))
  | strange {height us draft strangers} (late : ¬ height ≤ v.draft.expiryHeight)
      (on : setup.refreshExpired = true) (x y z)
      (built : Talk.Goes (Planning.rebuild setup.adapters s task v.feeLevel) us (.ok draft))
      (refused : setup.guard.check index task draft = .error strangers) :
      Drafted setup s index task v
        (heightTurns (some (.ok height)) x y ++ us ++ [⟨.note (.strangers strangers), (), z⟩])
        (.error (.unexpectedSigner strangers))
  | stale {height us draft} (late : ¬ height ≤ v.draft.expiryHeight)
      (on : setup.refreshExpired = true) (x y)
      (built : Talk.Goes (Planning.rebuild setup.adapters s task v.feeLevel) us (.ok draft))
      (passed : setup.guard.check index task draft = .ok ())
      (again : draft.expiryHeight < height) :
      Drafted setup s index task v (heightTurns (some (.ok height)) x y ++ us)
        (.error (.ledger (.expired height draft.expiryHeight)))
  | rebuilt {height us draft} (late : ¬ height ≤ v.draft.expiryHeight)
      (on : setup.refreshExpired = true) (x y)
      (built : Talk.Goes (Planning.rebuild setup.adapters s task v.feeLevel) us (.ok draft))
      (passed : setup.guard.check index task draft = .ok ())
      (inTime : ¬ draft.expiryHeight < height) :
      Drafted setup s index task v (heightTurns (some (.ok height)) x y ++ us) (.ok draft)

section

variable {setup : Setup} {s : PlanSettings} {index : Nat} {task : Task} {v : Variant}

lemma drafted_of_goes {ts : List Turn} {r : Except ExitError Draft}
    (go : Talk.Goes (freshDraft setup s index task v) ts r) :
    Drafted setup s index task v ts r := by
  obtain ⟨height, us, vs, rfl, asked, rest⟩ := Talk.goes_bind.1 go
  rcases Talk.Goes.of_untilStopped_call asked with ⟨x, rfl, rfl⟩ | ⟨x, y, rfl⟩
  · obtain ⟨rfl, rfl⟩ := Talk.goes_pure.1 rest
    exact .stopped x
  · match height, rest with
    | none, rest =>
        obtain ⟨rfl, rfl⟩ := Talk.goes_pure.1 rest
        exact .givenUp x y
    | some (.error e), rest =>
        obtain ⟨rfl, rfl⟩ := Talk.goes_pure.1 rest
        exact .unknown e x y
    | some (.ok height), rest =>
        dsimp only at rest
        split at rest
        next inTime =>
          obtain ⟨rfl, rfl⟩ := Talk.goes_pure.1 rest
          exact .planned inTime x y
        next late =>
          cases on : setup.refreshExpired with
          | false =>
              simp only [on, Bool.not_false, if_true] at rest
              obtain ⟨rfl, rfl⟩ := Talk.goes_pure.1 rest
              exact .expired late on x y
          | true =>
              simp only [on, Bool.not_true, Bool.false_eq_true, if_false] at rest
              obtain ⟨built, us, vs, rfl, rebuilding, judged⟩ := Talk.goes_bind.1 rest
              cases built with
              | error e =>
                  obtain ⟨rfl, rfl⟩ := Talk.goes_pure.1 judged
                  simpa [heightTurns] using Drafted.unbuilt late on x y rebuilding
              | ok draft =>
                  dsimp only at judged
                  split at judged
                  next strangers refused =>
                    obtain ⟨_, us, vs, rfl, note, done⟩ := Talk.goes_bind.1 judged
                    obtain ⟨z, rfl⟩ := Talk.goes_note.1 note
                    obtain ⟨rfl, rfl⟩ := Talk.goes_pure.1 done
                    simpa [heightTurns] using Drafted.strange late on x y z rebuilding refused
                  next passed =>
                    split at judged
                    next again =>
                      obtain ⟨rfl, rfl⟩ := Talk.goes_pure.1 judged
                      simpa [heightTurns] using Drafted.stale late on x y rebuilding passed again
                    next inTime =>
                      obtain ⟨rfl, rfl⟩ := Talk.goes_pure.1 judged
                      simpa [heightTurns] using Drafted.rebuilt late on x y rebuilding passed inTime

end

/-! ## A signed transaction -/

/-- How a draft comes to its signature: it is the primary draft's again, or the wallet is asked. -/
inductive Provided (setup : Setup) (primary : Transaction) (draft : Draft) :
    List Turn → Except ExitError Transaction → Prop
  | again (same : draft.transaction.message = primary.message) :
      Provided setup primary draft [] (.ok primary)
  | signed {us t} (other : draft.transaction.message ≠ primary.message)
      (alone : Signing.SignedAlone draft.transaction setup.bulk us (.ok t)) :
      Provided setup primary draft us (.ok t)
  | refused {us e} (other : draft.transaction.message ≠ primary.message)
      (alone : Signing.SignedAlone draft.transaction setup.bulk us (.error e)) :
      Provided setup primary draft us (.error (.signer e))

lemma provided_of_goes {setup : Setup} {primary : Transaction} {draft : Draft} {ts : List Turn}
    {r : Except ExitError Transaction} (go : Talk.Goes (signedDraft setup primary draft) ts r) :
    Provided setup primary draft ts r := by
  unfold signedDraft at go
  split at go
  next same =>
    obtain ⟨rfl, rfl⟩ := Talk.goes_pure.1 go
    exact .again (by simpa [Draft.sameMessage] using same)
  next differs =>
    have other : draft.transaction.message ≠ primary.message := by
      simpa [Draft.sameMessage] using differs
    obtain ⟨answer, us, vs, rfl, asked, out⟩ := Talk.goes_bind.1 go
    have alone := Signing.signedAlone_of_goes asked
    cases answer with
    | ok t =>
        obtain ⟨rfl, rfl⟩ := Talk.goes_pure.1 out
        simpa using Provided.signed other alone
    | error e =>
        obtain ⟨rfl, rfl⟩ := Talk.goes_pure.1 out
        simpa using Provided.refused other alone

/-! ## Sending -/

/-- How the simulation before a submission passes. -/
inductive Simulated (setup : Setup) (t : Transaction) : List Turn → Prop
  | off (off : setup.simulateBeforeSend = false) : Simulated setup t []
  | passed (on : setup.simulateBeforeSend = true) (x) :
      Simulated setup t [⟨.call (.simulate t), .ok (), x⟩]

/-- What can come of a submission: it is refused, or it is shown and waited for. -/
inductive Awaited (index : Nat) (fee expiry : UInt64) (b : Board) :
    Except LedgerError Signature → List Turn → Except ExitError Signature → Board → Prop
  | refused (e) : Awaited index fee expiry b (.error e) [] (.error (.ledger e)) b
  | unconfirmed (signature : Signature) (e x y) : Awaited index fee expiry b (.ok signature)
      [⟨.publish (b.update index fun i => i.submitted signature.text fee), (), x⟩,
        ⟨.call (.confirm signature expiry), .error e, y⟩]
      (.error (.ledger e)) (b.update index fun i => i.submitted signature.text fee)
  | confirmed (signature : Signature) (x y) : Awaited index fee expiry b (.ok signature)
      [⟨.publish (b.update index fun i => i.submitted signature.text fee), (), x⟩,
        ⟨.call (.confirm signature expiry), .ok (), y⟩]
      (.ok signature) (b.update index fun i => i.submitted signature.text fee)

/-- How sending a signed transaction can go, once the run was found not to be cancelled. -/
inductive Dispatched (setup : Setup) (index : Nat) (task : Task) (number : Nat) (fee : UInt64)
    (expiry : UInt64) (t : Transaction) (b : Board) :
    List Turn → Except ExitError Signature → Board → Prop
  | unsimulated (on : setup.simulateBeforeSend = true) (e x) :
      Dispatched setup index task number fee expiry t b [⟨.call (.simulate t), .error e, x⟩]
        (.error (.ledger e)) b
  | submitted {us vs answer r b'} (simulated : Simulated setup t us) (x y)
      (awaited : Awaited index fee expiry b answer vs r b') :
      Dispatched setup index task number fee expiry t b
        (us ++ ⟨.note (.attempt index task number fee), (), x⟩ ::
          ⟨.call (.submit t), answer, y⟩ :: vs) r b'

/-- How an attempt comes as far as the ledger: its draft is in time and signed, and a last look
finds the run not cancelled. -/
inductive Cleared (setup : Setup) (s : PlanSettings) (primary : Transaction) (index : Nat)
    (task : Task) (v : Variant) : List Turn → Draft → Transaction → Prop
  | intro {ts us draft t} (drafted : Drafted setup s index task v ts (.ok draft))
      (provided : Provided setup primary draft us (.ok t)) (x) :
      Cleared setup s primary index task v (ts ++ us ++ [⟨.stopped, false, x⟩]) draft t

/-- How trying one variant of a task can go. -/
inductive Sent (setup : Setup) (s : PlanSettings) (primary : Transaction) (index : Nat)
    (task : Task) (number : Nat) (v : Variant) (b : Board) :
    List Turn → Except ExitError Signature → Board → Prop
  | undrafted {ts e} (drafted : Drafted setup s index task v ts (.error e)) :
      Sent setup s primary index task number v b ts (.error e) b
  | unsigned {ts us draft e} (drafted : Drafted setup s index task v ts (.ok draft))
      (provided : Provided setup primary draft us (.error e)) :
      Sent setup s primary index task number v b (ts ++ us) (.error e) b
  | cancelled {ts us draft t} (drafted : Drafted setup s index task v ts (.ok draft))
      (provided : Provided setup primary draft us (.ok t)) (x) :
      Sent setup s primary index task number v b (ts ++ us ++ [⟨.stopped, true, x⟩])
        (.error .cancelled) b
  | dispatched {ts us draft t r b'} (cleared : Cleared setup s primary index task v ts draft t)
      (sent : Dispatched setup index task number v.feeLevel draft.expiryHeight t b us r b') :
      Sent setup s primary index task number v b (ts ++ us) r b'

section

variable {setup : Setup} {s : PlanSettings} {primary : Transaction} {index : Nat} {task : Task}
  {number : Nat} {v : Variant} {b b' : Board} {ts : List Turn}

/-- The part of an attempt that begins with the submission. -/
lemma dispatched_of_goes_submission {fee expiry : UInt64} {t : Transaction} {us : List Turn}
    {r : Except ExitError Signature} (simulated : Simulated setup t us)
    (go : Goes (show Attempt Signature from do
      (Talk.note (.attempt index task number fee) : Run Unit)
      let signature ← ledger (Talk.call (.submit t))
      (update index fun i => i.submitted signature.text fee : Run Unit)
      ledger (Talk.call (.confirm signature expiry))
      return signature).run b ts r b') :
    Dispatched setup index task number fee expiry t b (us ++ ts) r b' := by
  obtain ⟨_, _, ns, vs, rfl, noting, rest⟩ := goes_run_lift_bind.1 go
  obtain ⟨note, rfl⟩ := goes_lift.1 noting
  obtain ⟨x, rfl⟩ := Talk.goes_note.1 note
  rcases goes_ledger_bind.1 rest with ⟨signature, _, vs, rfl, submit, sent⟩ | ⟨e, submit, rfl, rfl⟩
  · obtain ⟨y, rfl⟩ := Talk.goes_call.1 submit
    obtain ⟨_, _, ps, vs, rfl, updating, confirming⟩ := goes_run_lift_bind.1 sent
    obtain ⟨z, rfl, rfl⟩ := goes_update.1 updating
    rcases goes_ledger_bind.1 confirming with ⟨_, _, vs, rfl, confirm, out⟩ | ⟨e, confirm, rfl, rfl⟩
    · obtain ⟨w, rfl⟩ := Talk.goes_call.1 confirm
      obtain ⟨rfl, rfl, rfl⟩ := goes_run_pure.1 out
      exact .submitted simulated x y (.confirmed signature z w)
    · obtain ⟨w, rfl⟩ := Talk.goes_call.1 confirm
      exact .submitted simulated x y (.unconfirmed signature e z w)
  · obtain ⟨y, rfl⟩ := Talk.goes_call.1 submit
    exact .submitted simulated x y (.refused e)

lemma sent_of_goes {r : Except ExitError Signature}
    (go : Goes (send setup s primary index task number v).run b ts r b') :
    Sent setup s primary index task number v b ts r b' := by
  unfold send at go
  rcases goes_run_bind.1 go with ⟨draft, b₁, us, vs, rfl, drafting, rest⟩ | ⟨e, rfl, drafting⟩
  · obtain ⟨talk, rfl⟩ := goes_lift.1 drafting
    have drafted := drafted_of_goes talk
    rcases goes_run_bind.1 rest with ⟨t, b₁, us', vs, rfl, signing, checking⟩ | ⟨e, rfl, signing⟩
    · obtain ⟨talk, rfl⟩ := goes_lift.1 signing
      have provided := provided_of_goes talk
      obtain ⟨c, _, cs, vs, rfl, looking, sending⟩ := goes_run_lift_bind.1 checking
      obtain ⟨look, rfl⟩ := goes_lift.1 looking
      obtain ⟨x, rfl⟩ := Talk.goes_stopped.1 look
      cases c with
      | true =>
          rw [if_pos rfl] at sending
          rcases goes_run_bind.1 sending with ⟨_, _, _, _, rfl, throwing, -⟩ | ⟨e, rfl, throwing⟩
          · obtain ⟨-, h, -⟩ := goes_run_throw.1 throwing
            cases h
          · obtain ⟨rfl, h, rfl⟩ := goes_run_throw.1 throwing
            obtain rfl := Except.error.inj h
            simpa using Sent.cancelled drafted provided x
      | false =>
          rw [if_neg Bool.false_ne_true] at sending
          suffices h :
              Dispatched setup index task number v.feeLevel draft.expiryHeight t b vs r b' by
            simpa using Sent.dispatched (.intro drafted provided x) h
          cases on : setup.simulateBeforeSend with
          | false =>
              simp only [on, Bool.false_eq_true, if_false] at sending
              exact dispatched_of_goes_submission (.off on) sending
          | true =>
              simp only [on, if_true] at sending
              rcases goes_ledger_bind.1 sending with
                ⟨_, _, vs, rfl, simulate, submitting⟩ | ⟨e, simulate, rfl, rfl⟩
              · obtain ⟨y, rfl⟩ := Talk.goes_call.1 simulate
                exact dispatched_of_goes_submission (.passed on y) submitting
              · obtain ⟨y, rfl⟩ := Talk.goes_call.1 simulate
                exact .unsimulated on e y
    · obtain ⟨talk, rfl⟩ := goes_lift.1 signing
      exact .unsigned drafted (provided_of_goes talk)
  · obtain ⟨talk, rfl⟩ := goes_lift.1 drafting
    exact .undrafted (drafted_of_goes talk)

end

/-! ## Counting and reporting -/

/-- How an attempt can go: it is counted before it begins, and a failure is reported. -/
inductive Attempted (setup : Setup) (s : PlanSettings) (primary : Transaction) (index : Nat)
    (task : Task) (number : Nat) (v : Variant) (b : Board) :
    List Turn → Except ExitError (Signature × UInt64) → Board → Prop
  | landed {ts signature b'} (x)
      (sent : Sent setup s primary index task number v (b.update index Item.attempted) ts
        (.ok signature) b') :
      Attempted setup s primary index task number v b
        (⟨.publish (b.update index Item.attempted), (), x⟩ :: ts) (.ok (signature, v.feeLevel)) b'
  | failed {ts e b'} (x y)
      (sent : Sent setup s primary index task number v (b.update index Item.attempted) ts
        (.error e) b') :
      Attempted setup s primary index task number v b
        (⟨.publish (b.update index Item.attempted), (), x⟩ ::
          (ts ++ [⟨.note (.attemptFailed index task number v.feeLevel e), (), y⟩])) (.error e) b'

lemma attempted_of_goes {setup : Setup} {s : PlanSettings} {primary : Transaction} {index : Nat}
    {task : Task} {number : Nat} {v : Variant} {b b' : Board} {ts : List Turn}
    {r : Except ExitError (Signature × UInt64)}
    (go : Goes (attempt setup s primary index task number v) b ts r b') :
    Attempted setup s primary index task number v b ts r b' := by
  obtain ⟨_, _, us, vs, rfl, counting, trying⟩ := goes_bind.1 go
  obtain ⟨x, rfl, rfl⟩ := goes_update.1 counting
  obtain ⟨answer, b₁, us, vs, rfl, sending, reporting⟩ := goes_bind.1 trying
  have sent := sent_of_goes sending
  cases answer with
  | ok signature =>
      obtain ⟨rfl, rfl, rfl⟩ := goes_pure.1 reporting
      simpa using Attempted.landed x sent
  | error e =>
      obtain ⟨_, _, ns, vs, rfl, noting, out⟩ := goes_bind.1 reporting
      obtain ⟨note, rfl⟩ := goes_lift.1 noting
      obtain ⟨y, rfl⟩ := Talk.goes_note.1 note
      obtain ⟨rfl, rfl, rfl⟩ := goes_pure.1 out
      exact .failed x y sent

end Run

end PoolExit
