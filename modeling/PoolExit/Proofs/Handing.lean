import PoolExit.Proofs.Attempt

/-!
# What an attempt hands to the ledger

A transaction comes to the ledger in two ways: it is simulated, or it is submitted.  Within an
attempt both stand behind one gate (`Attempted.cleared`): the draft is in time, it is signed, and a
last look found the run not cancelled.  What lies between that look and the ledger is a `Window`:
nothing, or the report of the attempt, or a passed simulation and the report.

The other way round, a transaction that the wallet signed alone goes on to the ledger unless that
look stops it (`Attempted.after_direct`), and a passed simulation is always followed by the
submission (`Attempted.after_simulation`).
-/

namespace PoolExit

/-- The transaction that a call hands to the ledger. -/
def Call.handed? : Call → Option Transaction
  | .simulate t | .submit t => some t
  | _ => none

/-- The transaction that a turn hands to the ledger. -/
def Turn.handed? (t : Turn) : Option Transaction := t.step.call?.bind Call.handed?

/-- The wallet is asked for a single signature. -/
def Turn.Direct (t : Turn) : Prop := ∃ tx, t.step.call? = some (.signOne tx)

namespace Run

/-! ## What comes before the ledger -/

/-- The question for the block height, or a call to a venue. -/
def InTime (c : Call) : Prop := c = .blockHeight ∨ Planning.ToVenue c

/-- A call that an attempt makes before it turns to the ledger: to get a draft in time, or to have
its transaction signed. -/
inductive Prepares (tx : Transaction) : Call → Prop
  | inTime {c} (h : InTime c) : Prepares tx c
  | together : Prepares tx (.signAll [tx])
  | direct : Prepares tx (.signOne tx)

lemma Prepares.handed? {tx : Transaction} {c : Call} (h : Prepares tx c) : c.handed? = none := by
  cases h with
  | together | direct => rfl
  | inTime h => rcases h with rfl | ⟨_, _, rfl⟩ | ⟨_, _, rfl⟩ <;> rfl

lemma not_prepares_of_handed {c : Call} {w : Transaction} (h : c.handed? = some w)
    (tx : Transaction) : ¬ Prepares tx c := by
  intro prepares
  rw [prepares.handed?] at h
  cases h

lemma not_prepares_confirm (signature : Signature) (height : UInt64) (tx : Transaction) :
    ¬ Prepares tx (.confirm signature height) := by
  rintro (⟨h⟩ | _ | _)
  rcases h with h | ⟨_, _, h⟩ | ⟨_, _, h⟩ <;> cases h

section

variable {setup : Setup} {s : PlanSettings} {primary : Transaction} {index : Nat} {task : Task}
  {number : Nat} {v : Variant} {b b' : Board} {ts : List Turn}

lemma held_heightTurns (answer : Option (Except LedgerError UInt64)) (x y : Bool) :
    ∀ t ∈ heightTurns answer x y, t.step.Held InTime Notice.Aside :=
  List.forall_mem_cons.2
    ⟨Step.held_stopped, List.forall_mem_singleton.2 (Step.held_race (.inl rfl))⟩

/-- Getting a draft in time asks for the height and the venue only. -/
lemma Drafted.held {r : Except ExitError Draft} (drafted : Drafted setup s index task v ts r) :
    ∀ t ∈ ts, t.step.Held InTime Notice.Aside := by
  have rebuilds : ∀ {us : List Turn} {r : Except VenueError Draft},
      Talk.Goes (Planning.rebuild setup.adapters s task v.feeLevel) us r →
      ∀ t ∈ us, t.step.Held InTime Notice.Aside := by
    intro us r go t ht
    exact ((Planning.only_rebuild _ _ _ _).of_goes go t ht).mono fun _ => .inr
  cases drafted with
  | stopped x => exact List.forall_mem_singleton.2 Step.held_stopped
  | givenUp x y | unknown e x y | planned inTime x y | expired late off x y =>
      exact held_heightTurns _ x y
  | unbuilt late on x y built | stale late on x y built passed again
  | rebuilt late on x y built passed inTime =>
      exact List.forall_mem_append.2 ⟨held_heightTurns _ x y, rebuilds built⟩
  | strange late on x y z built refused =>
      exact List.forall_mem_append.2
        ⟨List.forall_mem_append.2 ⟨held_heightTurns _ x y, rebuilds built⟩,
          List.forall_mem_singleton.2 (Step.held_note ⟨rfl, rfl⟩)⟩

lemma Drafted.quiet {r : Except ExitError Draft} (drafted : Drafted setup s index task v ts r) :
    ∀ t ∈ ts, t.step.Quiet InTime := fun t ht => (drafted.held t ht).quiet

lemma Drafted.prepares {r : Except ExitError Draft} (drafted : Drafted setup s index task v ts r)
    (tx : Transaction) : ∀ t ∈ ts, t.step.Quiet (Prepares tx) :=
  fun t ht => (drafted.quiet t ht).mono fun _ => .inTime

/-- A draft in time is the planned one, or it was built for this attempt and looked over anew. -/
lemma Drafted.source {draft : Draft} (drafted : Drafted setup s index task v ts (.ok draft)) :
    draft = v.draft ∨ setup.guard.check index task draft = .ok () ∧
      ∃ adapter x, ⟨.call (.build adapter (s.order task.position task.action v.feeLevel)),
        .ok draft, x⟩ ∈ ts := by
  cases drafted with
  | planned inTime x y => exact .inl rfl
  | rebuilt late on x y built passed inTime =>
      obtain ⟨adapter, z, -, rfl⟩ := Planning.turns_of_goes_rebuild built
      exact .inr ⟨passed, adapter, z, by simp⟩

/-- Getting a signature asks for nothing but the signature of the draft. -/
lemma Provided.held {draft : Draft} {r : Except ExitError Transaction}
    (provided : Provided setup primary draft ts r) :
    ∀ t ∈ ts, t.step.Held (Prepares draft.transaction) Notice.Aside := by
  have asks : ∀ {us : List Turn} {r : Except SignerError Transaction},
      Signing.SignedAlone draft.transaction setup.bulk us r →
      ∀ t ∈ us, t.step.Held (Prepares draft.transaction) Notice.Aside := by
    intro us r alone t ht
    refine (alone.held t ht).mono fun c hc => ?_
    rcases hc with rfl | rfl
    · exact .together
    · exact .direct
  cases provided with
  | again same => simp
  | signed other alone | refused other alone => exact asks alone

lemma Provided.quiet {draft : Draft} {r : Except ExitError Transaction}
    (provided : Provided setup primary draft ts r) :
    ∀ t ∈ ts, t.step.Quiet (Prepares draft.transaction) := fun t ht => (provided.held t ht).quiet

/-- A signed transaction has the message of its draft, unless the wallet was asked for it directly:
then it is what the wallet answered. -/
lemma Provided.message {draft : Draft} {t : Transaction}
    (provided : Provided setup primary draft ts (.ok t)) :
    t.message = draft.transaction.message ∨
      ∃ x, ⟨.call (.signOne draft.transaction), .ok t, x⟩ ∈ ts := by
  cases provided with
  | again same => exact .inl same.symm
  | signed other alone => exact alone.message

lemma Cleared.held {draft : Draft} {t : Transaction}
    (cleared : Cleared setup s primary index task v ts draft t) :
    ∀ u ∈ ts, u.step.Held (Prepares draft.transaction) Notice.Aside := by
  obtain ⟨drafted, provided, x⟩ := cleared
  exact List.forall_mem_append.2
    ⟨List.forall_mem_append.2 ⟨fun u hu => (drafted.held u hu).mono fun _ => .inTime, provided.held⟩,
      List.forall_mem_singleton.2 Step.held_stopped⟩

lemma Cleared.quiet {draft : Draft} {t : Transaction}
    (cleared : Cleared setup s primary index task v ts draft t) :
    ∀ u ∈ ts, u.step.Quiet (Prepares draft.transaction) := fun u hu => (cleared.held u hu).quiet

/-! ## From the last look to the ledger -/

/-- What stands between the last look at the token and the step that hands a transaction to the
ledger. -/
inductive Window (setup : Setup) (t : Transaction) : List Turn → Step → Prop
  | simulating (on : setup.simulateBeforeSend = true) : Window setup t [] (.call (.simulate t))
  | submitting {us} (simulated : Simulated setup t us) (n x) :
      Window setup t (us ++ [⟨.note n, (), x⟩]) (.call (.submit t))

lemma Window.eq_submit {t w : Transaction} {step : Step} (window : Window setup t ts step)
    (submits : step.call? = some (.submit w)) : step = .call (.submit t) := by
  cases window with
  | simulating on => cases submits
  | submitting simulated n x => rfl

lemma Window.handed? {t : Transaction} {u : Turn} (window : Window setup t ts u.step) :
    u.handed? = some t := by
  obtain ⟨step, answer, x⟩ := u
  cases window <;> rfl

/-- A window shows no board. -/
lemma Window.silent {t : Transaction} {step : Step} (window : Window setup t ts step) :
    ∀ u ∈ ts, u.step.board? = none := by
  cases window with
  | simulating on => simp
  | submitting simulated n x => cases simulated <;> simp [Step.board?]

lemma Awaited.handed? {fee expiry : UInt64} {answer : Except LedgerError Signature}
    {r : Except ExitError Signature} (awaited : Awaited index fee expiry b answer ts r b') :
    ∀ u ∈ ts, u.handed? = none := by
  cases awaited <;> simp [Turn.handed?, Step.call?, Call.handed?]

/-- A call by which a transaction is handed to the ledger or waited for. -/
def Sends : Call → Prop
  | .simulate _ | .submit _ | .confirm .. => True
  | _ => False

lemma Dispatched.sends {fee expiry : UInt64} {t : Transaction} {r : Except ExitError Signature}
    (sent : Dispatched setup index task number fee expiry t b ts r b') :
    ∀ u ∈ ts, ∀ c, u.step.call? = some c → Sends c := by
  cases sent with
  | unsimulated on e x => simp [Step.call?, Sends]
  | submitted simulated x y awaited =>
      refine List.forall_mem_append.2 ⟨?_, ?_⟩
      · cases simulated <;> simp [Step.call?, Sends]
      · cases awaited <;> simp [Step.call?, Sends]

lemma Dispatched.window {fee expiry : UInt64} {t w : Transaction}
    {r : Except ExitError Signature}
    (sent : Dispatched setup index task number fee expiry t b ts r b') {before after : List Turn}
    {u : Turn} (handed : u.handed? = some w) (split : ts = before ++ u :: after) :
    w = t ∧ Window setup t before u.step := by
  have hands : u.handed?.isSome = true := by rw [handed]; rfl
  have awaits : ∀ {us : List Turn}, (∀ u ∈ us, u.handed? = none) →
      ∀ u ∈ us, ¬ u.handed?.isSome = true := by
    intro us none u hu
    simp [none u hu]
  cases sent with
  | unsimulated on e x =>
      obtain ⟨rfl, rfl, -⟩ :=
        place_unique (P := fun u => u.handed?.isSome) [] [] hands (by simp) (by simp) split
      exact ⟨(Option.some.inj handed).symm, .simulating on⟩
  | @submitted us vs answer _ _ simulated x y awaited =>
      -- Behind the report only the submission hands anything over.
      have submits : ∀ {between : List Turn},
          (⟨.note (.attempt index task number fee), (), x⟩ :: ⟨.call (.submit t), answer, y⟩ :: vs :
            List Turn) = between ++ u :: after →
          w = t ∧ between = [⟨.note (.attempt index task number fee), (), x⟩] ∧
            u.step = .call (.submit t) := by
        intro between rest
        obtain ⟨rfl, rfl, -⟩ := place_unique (P := fun u => u.handed?.isSome) [_] vs hands
          (by simp [Turn.handed?, Step.call?]) (awaits awaited.handed?) rest
        exact ⟨(Option.some.inj handed).symm, rfl, rfl⟩
      cases simulated with
      | off off =>
          obtain ⟨rfl, rfl, step⟩ := submits split
          rw [step]
          exact ⟨rfl, .submitting (.off off) _ x⟩
      | passed on z =>
          cases before with
          | nil =>
              obtain ⟨rfl, -⟩ := List.cons.inj split
              exact ⟨(Option.some.inj handed).symm, .simulating on⟩
          | cons _ between =>
              obtain ⟨rfl, rest⟩ := List.cons.inj split
              obtain ⟨rfl, rfl, step⟩ := submits rest
              rw [step]
              exact ⟨rfl, .submitting (.passed on z) _ x⟩

/-! ## The gate -/

/-- Every call that is no preparation is made behind the gate. -/
lemma Sent.place {c : Call} {r : Except ExitError Signature}
    (sent : Sent setup s primary index task number v b ts r b') {before after : List Turn}
    {u : Turn} (calls : u.step.call? = some c) (late : ∀ tx, ¬ Prepares tx c)
    (split : ts = before ++ u :: after) :
    ∃ cs draft t between, before = cs ++ between ∧
      Cleared setup s primary index task v cs draft t ∧
      Dispatched setup index task number v.feeLevel draft.expiryHeight t b (between ++ u :: after)
        r b' := by
  have prepares : ∀ {us : List Turn} {tx : Transaction},
      (∀ t ∈ us, t.step.Quiet (Prepares tx)) → ∀ t ∈ us, ¬ t.step.call? = some c :=
    fun quiet t ht hc => late _ ((quiet t ht).2 c hc)
  have nowhere : ∀ {tx : Transaction}, ¬ ∀ t ∈ ts, t.step.Quiet (Prepares tx) := by
    intro tx quiet
    exact prepares quiet u (by simp [split]) calls
  cases sent with
  | undrafted drafted => exact absurd (drafted.prepares primary) nowhere
  | unsigned drafted provided =>
      exact absurd (List.forall_mem_append.2 ⟨drafted.prepares _, provided.quiet⟩) nowhere
  | cancelled drafted provided x =>
      refine absurd (List.forall_mem_append.2
        ⟨List.forall_mem_append.2 ⟨drafted.prepares _, provided.quiet⟩, ?_⟩) nowhere
      simp [Step.Quiet, Step.board?, Step.call?]
  | @dispatched cs us draft t _ _ cleared sent =>
      obtain ⟨between, rfl, rfl⟩ := place_of_append (P := fun t => t.step.call? = some c) cs calls
        (prepares cleared.quiet) split
      exact ⟨cs, draft, t, between, rfl, cleared, sent⟩

/-- Every call of an attempt is made while sending, after the attempt was counted. -/
lemma Attempted.place {c : Call} {r : Except ExitError (Signature × UInt64)}
    (attempted : Attempted setup s primary index task number v b ts r b')
    {before after : List Turn} {u : Turn} (calls : u.step.call? = some c)
    (split : ts = before ++ u :: after) :
    ∃ x between after' tail r',
      before = ⟨.publish (b.update index Item.attempted), (), x⟩ :: between ∧
      after = after' ++ tail ∧
      Sent setup s primary index task number v (b.update index Item.attempted)
        (between ++ u :: after') r' b' := by
  have calling : u.step.call?.isSome = true := by rw [calls]; rfl
  cases attempted with
  | @landed us signature _ x sent =>
      obtain ⟨between, rfl, rfl⟩ := place_of_append (P := fun t => t.step.call?.isSome)
        [_] calling (by simp [Step.call?]) split
      exact ⟨x, between, after, [], _, rfl, by simp, sent⟩
  | @failed us e _ x y sent =>
      obtain ⟨between, after', rfl, rfl, rfl⟩ := place_between
        (P := fun t => t.step.call?.isSome) [_] us [_] calling (by simp [Step.call?])
        (by simp [Step.call?]) split
      exact ⟨x, between, after', _, _, rfl, rfl, sent⟩

/-- Whatever an attempt hands to the ledger went through the gate, and only a window lies between.
-/
theorem Attempted.cleared {w : Transaction} {r : Except ExitError (Signature × UInt64)}
    (attempted : Attempted setup s primary index task number v b ts r b')
    {before after : List Turn} {u : Turn} (handed : u.handed? = some w)
    (split : ts = before ++ u :: after) :
    ∃ x cs draft window,
      before = ⟨.publish (b.update index Item.attempted), (), x⟩ :: (cs ++ window) ∧
      Cleared setup s primary index task v cs draft w ∧ Window setup w window u.step := by
  obtain ⟨c, calls, hands⟩ := Option.bind_eq_some_iff.1 handed
  obtain ⟨x, between, after', tail, r', rfl, rfl, sent⟩ := attempted.place calls split
  obtain ⟨cs, draft, t, window, rfl, cleared, dispatched⟩ :=
    sent.place calls (not_prepares_of_handed hands) rfl
  obtain ⟨rfl, window⟩ := dispatched.window handed rfl
  exact ⟨x, cs, draft, _, rfl, cleared, window⟩

lemma Cleared.look {draft : Draft} {t : Transaction}
    (cleared : Cleared setup s primary index task v ts draft t) :
    ∃ earlier x, ts = earlier ++ [⟨.stopped, false, x⟩] := by
  obtain ⟨drafted, provided, x⟩ := cleared
  exact ⟨_, x, rfl⟩

/-- Only a window lies between the last look and what an attempt hands to the ledger. -/
lemma Attempted.look {w : Transaction} {r : Except ExitError (Signature × UInt64)}
    (attempted : Attempted setup s primary index task number v b ts r b')
    {before after : List Turn} {u : Turn} (handed : u.handed? = some w)
    (split : ts = before ++ u :: after) :
    ∃ earlier x window, before = earlier ++ ⟨.stopped, false, x⟩ :: window ∧
      Window setup w window u.step := by
  obtain ⟨y, cs, draft, window, rfl, cleared, within⟩ := attempted.cleared handed split
  obtain ⟨earlier, x, rfl⟩ := cleared.look
  refine ⟨⟨.publish (b.update index Item.attempted), (), y⟩ :: earlier, x, window, ?_, within⟩
  simp

/-! ## Signatures -/

/-- The wallet is asked to sign a transaction. -/
def Signs (tx : Transaction) : Call → Prop
  | .signAll txs => tx ∈ txs
  | .signOne t => tx = t
  | _ => False

lemma InTime.not_signs {c : Call} {tx : Transaction} (h : InTime c) : ¬ Signs tx c := by
  rcases h with rfl | ⟨_, _, rfl⟩ | ⟨_, _, rfl⟩ <;> exact id

lemma Provided.signs {draft : Draft} {tx : Transaction} {c : Call}
    {r : Except ExitError Transaction} (provided : Provided setup primary draft ts r) {u : Turn}
    (mem : u ∈ ts) (calls : u.step.call? = some c) (signs : Signs tx c) :
    tx = draft.transaction := by
  cases (provided.quiet u mem).2 c calls with
  | inTime h => exact absurd signs h.not_signs
  | together => simpa [Signs] using signs
  | direct => exact signs

lemma Sends.not_signs {c : Call} {tx : Transaction} (h : Sends c) : ¬ Signs tx c := by
  cases c with
  | simulate _ | submit _ | confirm => exact id
  | discover | build | signAll _ | signOne _ | blockHeight => exact absurd h id

/-- What an attempt has signed is its draft in time, and no board is shown in between. -/
lemma Sent.signing {c : Call} {tx : Transaction} {r : Except ExitError Signature}
    (sent : Sent setup s primary index task number v b ts r b') {before after : List Turn}
    {u : Turn} (calls : u.step.call? = some c) (signs : Signs tx c)
    (split : ts = before ++ u :: after) :
    ∃ ds draft rest, before = ds ++ rest ∧ Drafted setup s index task v ds (.ok draft) ∧
      tx = draft.transaction ∧ ∀ t ∈ rest, t.step.board? = none := by
  have drafting : ∀ {us : List Turn} {r : Except ExitError Draft},
      Drafted setup s index task v us r → ∀ t ∈ us, ¬ t.step.call? = some c :=
    fun drafted t ht hc => ((drafted.quiet t ht).2 c hc).not_signs signs
  -- The call stands among the turns that provide the signature.
  have within : ∀ (tail : List Turn) {ds us : List Turn} {draft : Draft}
      {r : Except ExitError Transaction}, Drafted setup s index task v ds (.ok draft) →
      Provided setup primary draft us r →
      (∀ t ∈ tail, ¬ t.step.call? = some c) → ds ++ (us ++ tail) = before ++ u :: after →
      ∃ ds draft rest, before = ds ++ rest ∧ Drafted setup s index task v ds (.ok draft) ∧
        tx = draft.transaction ∧ ∀ t ∈ rest, t.step.board? = none := by
    intro tail ds us draft r drafted provided unsigned split
    obtain ⟨between, last, rfl, rfl, -⟩ := place_between (P := fun t => t.step.call? = some c)
      ds us tail calls (drafting drafted) unsigned split
    refine ⟨ds, draft, between, rfl, drafted, provided.signs (by simp) calls signs, ?_⟩
    exact fun t ht => (provided.quiet t (by simp [ht])).1
  cases sent with
  | undrafted drafted => exact absurd calls (drafting drafted u (by simp [split]))
  | @unsigned ds us draft e drafted provided =>
      exact within [] drafted provided (by simp) (by simpa using split)
  | cancelled drafted provided x =>
      exact within [⟨.stopped, true, x⟩] drafted provided (by simp [Step.call?])
        (by simpa using split)
  | @dispatched cs us draft t _ _ cleared sent =>
      obtain ⟨drafted, provided, x⟩ := cleared
      have unsigned : ∀ t ∈ ⟨.stopped, false, x⟩ :: us, ¬ t.step.call? = some c := by
        refine List.forall_mem_cons.2 ⟨by simp [Step.call?], fun t ht hc => ?_⟩
        exact (sent.sends t ht c hc).not_signs signs
      exact within _ drafted provided unsigned (by simpa using split)

lemma Attempted.signing {c : Call} {tx : Transaction} {r : Except ExitError (Signature × UInt64)}
    (attempted : Attempted setup s primary index task number v b ts r b')
    {before after : List Turn} {u : Turn} (calls : u.step.call? = some c) (signs : Signs tx c)
    (split : ts = before ++ u :: after) :
    ∃ x ds draft rest, before = ⟨.publish (b.update index Item.attempted), (), x⟩ :: (ds ++ rest) ∧
      Drafted setup s index task v ds (.ok draft) ∧ tx = draft.transaction ∧
      ∀ t ∈ rest, t.step.board? = none := by
  obtain ⟨x, between, after', tail, r', rfl, rfl, sent⟩ := attempted.place calls split
  obtain ⟨ds, draft, rest, rfl, drafted, same, silent⟩ := sent.signing calls signs rfl
  exact ⟨x, ds, draft, rest, rfl, drafted, same, silent⟩

/-! ## What a direct signature and a passed simulation lead to -/

lemma Dispatched.handing {fee expiry : UInt64} {t : Transaction} {r : Except ExitError Signature}
    (sent : Dispatched setup index task number fee expiry t b ts r b') :
    ∃ window u rest, ts = window ++ u :: rest ∧ Window setup t window u.step := by
  cases sent with
  | unsimulated on e x => exact ⟨[], _, [], rfl, .simulating on⟩
  | @submitted us vs answer _ _ simulated x y awaited =>
      refine ⟨_, ⟨.call (.submit t), answer, y⟩, vs, ?_,
        .submitting simulated (.attempt index task number fee) x⟩
      rw [List.append_assoc, List.singleton_append]

lemma Provided.last_of_direct {draft : Draft} {u t : Transaction} {x : Bool}
    {r : Except ExitError Transaction} (provided : Provided setup primary draft ts r)
    {before after : List Turn} (split : ts = before ++ ⟨.call (.signOne u), .ok t, x⟩ :: after) :
    after = [] ∧ u = draft.transaction ∧ r = .ok t := by
  cases provided with
  | again same => simp at split
  | signed other alone =>
      obtain ⟨rfl, rfl, h⟩ := alone.last_of_direct split
      obtain rfl := Except.ok.inj h
      exact ⟨rfl, rfl, rfl⟩
  | refused other alone =>
      obtain ⟨-, -, h⟩ := alone.last_of_direct split
      cases h

/-- A transaction that the wallet signed alone goes on to the ledger, unless the last look finds the
run cancelled. -/
theorem Sent.after_direct {u t : Transaction} {x : Bool} {r : Except ExitError Signature}
    (sent : Sent setup s primary index task number v b ts r b') {before after : List Turn}
    (split : ts = before ++ ⟨.call (.signOne u), .ok t, x⟩ :: after) :
    ∃ c y rest, after = ⟨.stopped, c, y⟩ :: rest ∧ (c = false →
      ∃ window w rest', rest = window ++ w :: rest' ∧ Window setup t window w.step) := by
  have direct : Turn.Direct ⟨.call (.signOne u), .ok t, x⟩ := ⟨u, rfl⟩
  have drafting : ∀ {us : List Turn} {r : Except ExitError Draft},
      Drafted setup s index task v us r → ∀ t ∈ us, ¬ t.Direct := by
    rintro us r drafted t ht ⟨w, hw⟩
    rcases (drafted.quiet t ht).2 _ hw with h | ⟨_, _, h⟩ | ⟨_, _, h⟩ <;> cases h
  cases sent with
  | undrafted drafted => exact absurd direct (drafting drafted _ (by simp [split]))
  | unsigned drafted provided =>
      obtain ⟨between, rfl, rest⟩ := place_of_append _ direct (drafting drafted) split
      obtain ⟨-, -, h⟩ := provided.last_of_direct rest
      cases h
  | @cancelled ds ps draft w drafted provided y =>
      rw [List.append_assoc] at split
      obtain ⟨between, _, rfl, inside, rfl⟩ := place_between ds ps [_] direct (drafting drafted)
        (by simp [Turn.Direct, Step.call?]) split
      obtain ⟨rfl, -, -⟩ := provided.last_of_direct inside
      exact ⟨true, y, [], rfl, by simp⟩
  | @dispatched cs us draft w _ _ cleared sent =>
      obtain ⟨drafted, provided, y⟩ := cleared
      have later : ∀ t ∈ ⟨.stopped, false, y⟩ :: us, ¬ t.Direct := by
        refine List.forall_mem_cons.2 ⟨by simp [Turn.Direct, Step.call?], ?_⟩
        rintro t ht ⟨w, hw⟩
        exact sent.sends t ht _ hw
      rw [List.append_assoc, List.append_assoc] at split
      obtain ⟨between, _, rfl, inside, rfl⟩ :=
        place_between _ _ _ direct (drafting drafted) later split
      obtain ⟨rfl, -, h⟩ := provided.last_of_direct inside
      obtain rfl := Except.ok.inj h
      exact ⟨false, y, us, rfl, fun _ => sent.handing⟩

theorem Attempted.after_direct {u t : Transaction} {x : Bool}
    {r : Except ExitError (Signature × UInt64)}
    (attempted : Attempted setup s primary index task number v b ts r b')
    {before after : List Turn} (split : ts = before ++ ⟨.call (.signOne u), .ok t, x⟩ :: after) :
    ∃ c y rest, after = ⟨.stopped, c, y⟩ :: rest ∧ (c = false →
      ∃ window w rest', rest = window ++ w :: rest' ∧ Window setup t window w.step) := by
  obtain ⟨_, between, after', tail, r', rfl, rfl, sent⟩ := attempted.place rfl split
  obtain ⟨c, y, rest, rfl, goesOn⟩ := sent.after_direct rfl
  refine ⟨c, y, rest ++ tail, rfl, fun h => ?_⟩
  obtain ⟨window, w, rest', rfl, handing⟩ := goesOn h
  exact ⟨window, w, rest' ++ tail, by simp, handing⟩

/-- Nothing stands between a passed simulation and the submission but the report of the attempt. -/
theorem Dispatched.after_simulation {fee expiry : UInt64} {t w : Transaction} {x : Bool}
    {r : Except ExitError Signature}
    (sent : Dispatched setup index task number fee expiry t b ts r b') {before after : List Turn}
    (split : ts = before ++ ⟨.call (.simulate w), .ok (), x⟩ :: after) :
    ∃ n y answer z rest, after = ⟨.note n, (), y⟩ :: ⟨.call (.submit w), answer, z⟩ :: rest := by
  have simulates : (⟨.call (.simulate w), .ok (), x⟩ : Turn).step.call? = some (.simulate w) := rfl
  cases sent with
  | unsimulated on e y =>
      obtain ⟨-, h, -⟩ := place_unique (P := fun u => u.step.call? = some (.simulate w)) [] []
        simulates (by simp) (by simp) split
      cases h
  | @submitted us vs answer _ _ simulated y z awaited =>
      have waits : ∀ u ∈ vs, ¬ u.step.call? = some (.simulate w) := by
        cases awaited <;> simp [Step.call?]
      have later : ∀ u ∈ ⟨.note (.attempt index task number fee), (), y⟩ ::
          ⟨.call (.submit t), answer, z⟩ :: vs, ¬ u.step.call? = some (.simulate w) :=
        List.forall_mem_cons.2 ⟨by simp [Step.call?],
          List.forall_mem_cons.2 ⟨by simp [Step.call?], waits⟩⟩
      cases simulated with
      | off off =>
          refine absurd simulates (later _ ?_)
          rw [← List.nil_append (_ :: _), split]
          simp
      | passed on a =>
          obtain ⟨-, h, rfl⟩ := place_unique (P := fun u => u.step.call? = some (.simulate w)) [] _
            simulates (by simp) later split
          cases h
          exact ⟨_, y, answer, z, vs, rfl⟩

theorem Attempted.after_simulation {t : Transaction} {x : Bool}
    {r : Except ExitError (Signature × UInt64)}
    (attempted : Attempted setup s primary index task number v b ts r b')
    {before after : List Turn} (split : ts = before ++ ⟨.call (.simulate t), .ok (), x⟩ :: after) :
    ∃ n y answer z rest, after = ⟨.note n, (), y⟩ :: ⟨.call (.submit t), answer, z⟩ :: rest := by
  obtain ⟨_, between, after', tail, r', rfl, rfl, sent⟩ := attempted.place rfl split
  obtain ⟨cs, draft, w, _, rfl, -, dispatched⟩ :=
    sent.place rfl (not_prepares_of_handed rfl) rfl
  obtain ⟨n, y, answer, z, rest, rfl⟩ := dispatched.after_simulation rfl
  exact ⟨n, y, answer, z, rest ++ tail, rfl⟩

lemma Awaited.before_confirm {fee expiry height : UInt64}
    {submission : Except LedgerError Signature} {signature : Signature}
    {answer : Except LedgerError Unit} {x : Bool} {r : Except ExitError Signature}
    (awaited : Awaited index fee expiry b submission ts r b') {before after : List Turn}
    (split : ts = before ++ ⟨.call (.confirm signature height), answer, x⟩ :: after) :
    submission = .ok signature ∧ ∃ board y, before = [⟨.publish board, (), y⟩] := by
  have confirms : (⟨.call (.confirm signature height), answer, x⟩ : Turn).step.call? =
      some (.confirm signature height) := rfl
  cases awaited with
  | refused e => simp at split
  | unconfirmed signature' e y z | confirmed signature' y z =>
      obtain ⟨rfl, h, -⟩ := place_unique
        (P := fun u => u.step.call? = some (.confirm signature height)) [_] [] confirms
        (by simp [Step.call?]) (by simp) split
      cases h
      exact ⟨rfl, _, y, rfl⟩

/-- What is waited for has just been submitted and shown. -/
lemma Dispatched.before_confirm {fee expiry height : UInt64} {t : Transaction}
    {signature : Signature} {answer : Except LedgerError Unit} {x : Bool}
    {r : Except ExitError Signature}
    (sent : Dispatched setup index task number fee expiry t b ts r b') {before after : List Turn}
    (split : ts = before ++ ⟨.call (.confirm signature height), answer, x⟩ :: after) :
    ∃ earlier y board z, before =
      earlier ++ [⟨.call (.submit t), .ok signature, y⟩, ⟨.publish board, (), z⟩] := by
  have confirms : (⟨.call (.confirm signature height), answer, x⟩ : Turn).step.call? =
      some (.confirm signature height) := rfl
  cases sent with
  | unsimulated on e y =>
      have mem : (⟨.call (.confirm signature height), answer, x⟩ : Turn) ∈
          [(⟨.call (.simulate t), .error e, y⟩ : Turn)] := by simp [split]
      simp at mem
  | @submitted us vs submission _ _ simulated y z awaited =>
      have earlier : ∀ u ∈ us ++ [⟨.note (.attempt index task number fee), (), y⟩,
          ⟨.call (.submit t), submission, z⟩],
          ¬ u.step.call? = some (.confirm signature height) := by
        cases simulated <;> simp [Step.call?]
      rw [List.append_cons, List.append_cons, List.append_assoc us] at split
      obtain ⟨between, rfl, rfl⟩ := place_of_append
        (P := fun u => u.step.call? = some (.confirm signature height)) _ confirms earlier split
      obtain ⟨rfl, board, w, rfl⟩ := awaited.before_confirm rfl
      refine ⟨us ++ [⟨.note (.attempt index task number fee), (), y⟩], z, board, w, ?_⟩
      simp

lemma Attempted.before_confirm {height : UInt64} {signature : Signature}
    {answer : Except LedgerError Unit} {x : Bool} {r : Except ExitError (Signature × UInt64)}
    (attempted : Attempted setup s primary index task number v b ts r b')
    {before after : List Turn}
    (split : ts = before ++ ⟨.call (.confirm signature height), answer, x⟩ :: after) :
    ∃ earlier t y board z, before =
      earlier ++ [⟨.call (.submit t), .ok signature, y⟩, ⟨.publish board, (), z⟩] := by
  obtain ⟨w, between, after', tail, r', rfl, rfl, sent⟩ := attempted.place rfl split
  obtain ⟨cs, draft, t, _, rfl, -, dispatched⟩ := sent.place rfl (not_prepares_confirm _ _) rfl
  obtain ⟨earlier, y, board, z, rfl⟩ := dispatched.before_confirm rfl
  refine ⟨⟨.publish (b.update index Item.attempted), (), w⟩ :: (cs ++ earlier), t, y, board, z, ?_⟩
  rw [List.cons_append, List.append_assoc]

end

end Run

end PoolExit
