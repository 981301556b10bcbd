import PoolExit.Proofs.Drafting
import PoolExit.Proofs.Stint

/-!
# Drafts in time

A draft is good up to its expiry height.  So every attempt reads the block height before it asks for
anything else, and what follows depends on this height alone: a variant that is still good is sent
as it was planned, one that has expired is built anew, once, or the attempt fails (`Timely`).  What
is submitted is a draft that is good at the height that was read, and it is waited for under the
signature of its submission, up to its own expiry height.

`Desk.Ran.timely` says so for every attempt that a run makes, and that the run makes its submissions
in attempts only.
-/

namespace PoolExit

/-! ## What an attempt reads and asks for -/

/-- The block height that a turn reads. -/
def Turn.height? : Turn → Option UInt64
  | ⟨.race .blockHeight, some (.ok height), _⟩ => some height
  | _ => none

/-- The block heights that are read in the turns. -/
def heights (ts : List Turn) : List UInt64 := ts.filterMap Turn.height?

/-- The order for a draft that a turn makes, and the adapter that gets it. -/
def Turn.ordered? (t : Turn) : Option (Nat × BuildOrder) :=
  match t.step.call? with
  | some (.build adapter order) => some (adapter, order)
  | _ => none

/-- The orders for drafts that are made in the turns. -/
def orders (ts : List Turn) : List (Nat × BuildOrder) := ts.filterMap Turn.ordered?

@[simp] lemma heights_append (ts us : List Turn) :
    heights (ts ++ us) = heights ts ++ heights us := List.filterMap_append

@[simp] lemma orders_append (ts us : List Turn) : orders (ts ++ us) = orders ts ++ orders us :=
  List.filterMap_append

lemma Turn.ordered?_eq_some {t : Turn} {adapter : Nat} {order : BuildOrder} :
    t.ordered? = some (adapter, order) ↔ t.step.call? = some (.build adapter order) := by
  unfold Turn.ordered?
  split
  next calls => simp [calls]
  next other => exact ⟨nofun, fun calls => absurd calls (other _ _)⟩

lemma mem_orders {ts : List Turn} {adapter : Nat} {order : BuildOrder} :
    (adapter, order) ∈ orders ts ↔ ∃ t ∈ ts, t.step.call? = some (.build adapter order) :=
  List.mem_filterMap.trans <| exists_congr fun _ => and_congr_right fun _ => Turn.ordered?_eq_some

/-- A height is read by asking for it. -/
lemma heights_of_unasked {ts : List Turn} (unasked : ∀ t ∈ ts, t.step.call? ≠ some .blockHeight) :
    heights ts = [] := by
  refine List.filterMap_eq_nil_iff.2 fun t mem => ?_
  have other := unasked t mem
  unfold Turn.height?
  split
  · exact absurd rfl other
  · rfl

lemma orders_of_unordered {ts : List Turn}
    (unordered : ∀ t ∈ ts, ∀ adapter order, t.step.call? ≠ some (.build adapter order)) :
    orders ts = [] := by
  refine List.eq_nil_iff_forall_not_mem.2 fun ⟨adapter, order⟩ mem => ?_
  obtain ⟨t, ht, calls⟩ := mem_orders.1 mem
  exact unordered t ht adapter order calls

namespace Run

/-- The draft that is meant in an attempt after the turns `before`, in which the height was read:
the planned one while it is good, and the one built anew afterwards. -/
def Meant (s : PlanSettings) (task : Task) (v : Variant) (height : UInt64) (before : List Turn)
    (draft : Draft) : Prop :=
  if height ≤ v.draft.expiryHeight then draft = v.draft
  else ∃ adapter x,
    ⟨.call (.build adapter (s.order task.position task.action v.feeLevel)), .ok draft, x⟩ ∈ before

/-- A transaction stands for a draft: it has the message of the draft, or it is what the wallet
answered when it was asked to sign this draft alone. -/
def StandsFor (before : List Turn) (t : Transaction) (draft : Draft) : Prop :=
  t.message = draft.transaction.message ∨
    ∃ x, ⟨.call (.signOne draft.transaction), .ok t, x⟩ ∈ before

lemma Meant.mono {s : PlanSettings} {task : Task} {v : Variant} {height : UInt64}
    {ts us : List Turn} {draft : Draft} (sub : ts ⊆ us) (meant : Meant s task v height ts draft) :
    Meant s task v height us draft := by
  unfold Meant at *
  split
  next inTime => rwa [if_pos inTime] at meant
  next late =>
    rw [if_neg late] at meant
    obtain ⟨adapter, x, mem⟩ := meant
    exact ⟨adapter, x, sub mem⟩

lemma StandsFor.mono {ts us : List Turn} {t : Transaction} {draft : Draft} (sub : ts ⊆ us)
    (stands : StandsFor ts t draft) : StandsFor us t draft :=
  stands.imp id fun ⟨x, mem⟩ => ⟨x, sub mem⟩

/-- What is left of an attempt after its submission: if the ledger took it, it is shown and waited
for once, and nothing else is asked for. -/
def Awaits (u : Turn) (expiry : UInt64) (after : List Turn) : Prop :=
  ∀ signature, u.taken? = some signature → ∃ board x answer y rest,
    after = ⟨.publish board, (), x⟩ :: ⟨.call (.confirm signature expiry), answer, y⟩ :: rest ∧
      ∀ t ∈ rest, t.step.call? = none

/-- The turns of an attempt with a variant keep to the expiry heights of its drafts. -/
structure Timely (setup : Setup) (s : PlanSettings) (task : Task) (v : Variant) (ts : List Turn)
    (r : Except ExitError (Signature × UInt64)) : Prop where
  /-- Nothing else is asked for before the block height is known. -/
  first : ∀ before u after c, ts = before ++ u :: after → u.step.call? = some c →
    c ≠ .blockHeight → ∃ height, heights before = [height]
  /-- The block height is asked for once. -/
  once : ∀ before u after, ts = before ++ u :: after → u.step.call? = some .blockHeight →
    ∀ t ∈ before ++ after, t.step.call? ≠ some .blockHeight
  /-- A variant that is good is not built anew. -/
  good : ∀ height ∈ heights ts, height ≤ v.draft.expiryHeight → orders ts = []
  /-- One that has expired fails the attempt, if drafts are not built anew. -/
  expired : ∀ height ∈ heights ts, v.draft.expiryHeight < height → setup.refreshExpired = false →
    r = .error (.ledger (.expired height v.draft.expiryHeight)) ∧
      ∀ t ∈ ts, ∀ c, t.step.call? = some c → c = .blockHeight
  /-- Otherwise it is ordered anew, once, from the adapter of its venue. -/
  rebuilt : ∀ height ∈ heights ts, v.draft.expiryHeight < height → setup.refreshExpired = true →
    orders ts = ((setup.adapters.findIdx? fun a => a.venue = task.venue).map fun adapter =>
      (adapter, s.order task.position task.action v.feeLevel)).toList
  /-- What is submitted is good, and it is waited for as such. -/
  submitted : ∀ before u after t, ts = before ++ u :: after → u.step.call? = some (.submit t) →
    ∃ height draft, heights before = [height] ∧ height ≤ draft.expiryHeight ∧
      Meant s task v height before draft ∧ StandsFor before t draft ∧
      Awaits u draft.expiryHeight after
  /-- Only what was submitted just before is waited for. -/
  confirmed : ∀ before u after signature expiry, ts = before ++ u :: after →
    u.step.call? = some (.confirm signature expiry) →
    ∃ earlier w board x, before = earlier ++ [w, ⟨.publish board, (), x⟩] ∧
      w.taken? = some signature

/-! ## Getting a draft -/

section

variable {setup : Setup} {s : PlanSettings} {primary : Transaction} {index number : Nat}
  {task : Task} {v : Variant} {b b' : Board} {ts : List Turn}

@[simp] lemma heights_heightTurns (height : UInt64) (x y : Bool) :
    heights (heightTurns (some (.ok height)) x y) = [height] := rfl

/-- A draft is ordered anew from the first adapter of its venue. -/
lemma orders_of_goes_rebuild {fee : UInt64} {r : Except VenueError Draft}
    (go : Talk.Goes (Planning.rebuild setup.adapters s task fee) ts r) :
    orders ts = ((setup.adapters.findIdx? fun a => a.venue = task.venue).map fun adapter =>
      (adapter, s.order task.position task.action fee)).toList := by
  unfold Planning.rebuild at go
  split at go
  next none =>
    obtain ⟨rfl, -⟩ := Talk.goes_pure.1 go
    rw [none]
    rfl
  next adapter found =>
    obtain ⟨x, rfl⟩ := Talk.goes_call.1 go
    rw [found]
    rfl

/-- What getting a draft comes to once the height is known. -/
inductive Weighed (setup : Setup) (s : PlanSettings) (task : Task) (v : Variant) (height : UInt64) :
    List Turn → Except ExitError Draft → Prop
  | good (inTime : height ≤ v.draft.expiryHeight) : Weighed setup s task v height [] (.ok v.draft)
  | expired (late : v.draft.expiryHeight < height) (off : setup.refreshExpired = false) :
      Weighed setup s task v height [] (.error (.ledger (.expired height v.draft.expiryHeight)))
  | rebuilt {us r} (late : v.draft.expiryHeight < height) (on : setup.refreshExpired = true)
      (quiet : ∀ t ∈ us, t.step.Quiet Planning.ToVenue)
      (ordered : orders us = ((setup.adapters.findIdx? fun a => a.venue = task.venue).map
        fun adapter => (adapter, s.order task.position task.action v.feeLevel)).toList)
      (inTime : ∀ draft, r = .ok draft → height ≤ draft.expiryHeight ∧ ∃ adapter x,
        ⟨.call (.build adapter (s.order task.position task.action v.feeLevel)), .ok draft, x⟩
          ∈ us) :
      Weighed setup s task v height us r

/-- Getting a draft asks for the height first.  Without it there is no draft. -/
lemma Drafted.weighed {r : Except ExitError Draft} (drafted : Drafted setup s index task v ts r) :
    ((∃ e, r = .error e) ∧ ((∃ x, ts = [⟨.stopped, true, x⟩]) ∨ ∃ answer x y,
      ts = heightTurns answer x y ∧ Turn.height? ⟨.race .blockHeight, answer, y⟩ = none)) ∨
    ∃ height x y us, ts = heightTurns (some (.ok height)) x y ++ us ∧
      Weighed setup s task v height us r := by
  have builds : ∀ {us : List Turn} {r : Except VenueError Draft},
      Talk.Goes (Planning.rebuild setup.adapters s task v.feeLevel) us r →
      ∀ t ∈ us, t.step.Quiet Planning.ToVenue :=
    fun go => (Planning.only_rebuild _ _ _ _).quiet_of_goes go
  cases drafted with
  | stopped x => exact .inl ⟨⟨_, rfl⟩, .inl ⟨x, rfl⟩⟩
  | givenUp x y => exact .inl ⟨⟨_, rfl⟩, .inr ⟨_, x, y, rfl, rfl⟩⟩
  | unknown e x y => exact .inl ⟨⟨_, rfl⟩, .inr ⟨_, x, y, rfl, rfl⟩⟩
  | @planned height inTime x y =>
      exact .inr ⟨height, x, y, [], (List.append_nil _).symm, .good inTime⟩
  | @expired height late off x y =>
      exact .inr ⟨height, x, y, [], (List.append_nil _).symm, .expired (UInt64.not_le.1 late) off⟩
  | @unbuilt height us e late on x y built =>
      exact .inr ⟨height, x, y, us, rfl, .rebuilt (UInt64.not_le.1 late) on (builds built)
        (orders_of_goes_rebuild built) fun _ h => by cases h⟩
  | @strange height us draft strangers late on x y z built refused =>
      refine .inr ⟨height, x, y, us ++ [⟨.note (.strangers strangers), (), z⟩], by simp,
        .rebuilt (UInt64.not_le.1 late) on ?_ ?_ fun _ h => by cases h⟩
      · refine List.forall_mem_append.2 ⟨builds built, ?_⟩
        simp [Step.Quiet, Step.board?, Step.call?]
      · rw [orders_append, orders_of_goes_rebuild built]
        exact List.append_nil _
  | @stale height us draft late on x y built passed again =>
      exact .inr ⟨height, x, y, us, rfl, .rebuilt (UInt64.not_le.1 late) on (builds built)
        (orders_of_goes_rebuild built) fun _ h => by cases h⟩
  | @rebuilt height us draft late on x y built passed inTime =>
      refine .inr ⟨height, x, y, us, rfl, .rebuilt (UInt64.not_le.1 late) on (builds built)
        (orders_of_goes_rebuild built) fun draft' h => ?_⟩
      obtain rfl := Except.ok.inj h
      obtain ⟨adapter, z, -, rfl⟩ := Planning.turns_of_goes_rebuild built
      exact ⟨UInt64.not_lt.1 inTime, adapter, z, by simp⟩

lemma Weighed.unasked {height : UInt64} {r : Except ExitError Draft}
    (weighed : Weighed setup s task v height ts r) :
    ∀ t ∈ ts, ¬ t.step.call? = some .blockHeight := by
  cases weighed with
  | good | expired => simp
  | rebuilt late on quiet =>
      intro t ht hc
      rcases (quiet t ht).2 _ hc with ⟨_, _, h⟩ | ⟨_, _, h⟩ <;> cases h

/-! ## The rest of an attempt -/

lemma not_inTime_of_sends {c : Call} (sends : Sends c) : ¬ InTime c := by
  rintro (rfl | ⟨_, _, rfl⟩ | ⟨_, _, rfl⟩) <;> exact sends

/-- Getting a signature asks the wallet only. -/
lemma Provided.not_inTime {draft : Draft} {r : Except ExitError Transaction}
    (provided : Provided setup primary draft ts r) :
    ∀ t ∈ ts, ∀ c, t.step.call? = some c → ¬ InTime c := by
  have asks : ∀ {us : List Turn} {r : Except SignerError Transaction},
      Signing.SignedAlone draft.transaction setup.bulk us r →
      ∀ t ∈ us, ∀ c, t.step.call? = some c → ¬ InTime c := by
    intro us r alone t ht c hc
    rcases (alone.held t ht).quiet.2 c hc with rfl | rfl <;>
      rintro (h | ⟨_, _, h⟩ | ⟨_, _, h⟩) <;> cases h
  cases provided with
  | again same => simp
  | signed other alone | refused other alone => exact asks alone

/-- Sending gets a draft first and asks for no other draft later. -/
lemma Sent.drafting {r : Except ExitError Signature}
    (sent : Sent setup s primary index task number v b ts r b') :
    ∃ ds rd rest, ts = ds ++ rest ∧ Drafted setup s index task v ds rd ∧
      (∀ t ∈ rest, ∀ c, t.step.call? = some c → ¬ InTime c) ∧
      ∀ e, rd = .error e → r = .error e ∧ rest = [] := by
  cases sent with
  | undrafted drafted =>
      exact ⟨ts, _, [], by simp, drafted, by simp, fun e' h => ⟨by rw [Except.error.inj h], rfl⟩⟩
  | @unsigned ds us draft e drafted provided =>
      exact ⟨ds, _, us, rfl, drafted, provided.not_inTime, nofun⟩
  | @cancelled ds us draft t drafted provided x =>
      refine ⟨ds, _, us ++ [⟨.stopped, true, x⟩], by simp, drafted, ?_, nofun⟩
      exact List.forall_mem_append.2 ⟨provided.not_inTime, by simp [Step.call?]⟩
  | @dispatched cs us draft t _ _ cleared sent =>
      obtain @⟨ds, ps, _, _, drafted, provided, x⟩ := cleared
      refine ⟨ds, _, ps ++ [⟨.stopped, false, x⟩] ++ us, by simp, drafted, ?_, nofun⟩
      refine List.forall_mem_append.2
        ⟨List.forall_mem_append.2 ⟨provided.not_inTime, by simp [Step.call?]⟩, ?_⟩
      exact fun t ht c hc => not_inTime_of_sends (sent.sends t ht c hc)

/-- An attempt is counted, sends, and reports its failure. -/
lemma Attempted.sending {r : Except ExitError (Signature × UInt64)}
    (attempted : Attempted setup s primary index task number v b ts r b') :
    ∃ x us tail r', ts = ⟨.publish (b.update index Item.attempted), (), x⟩ :: (us ++ tail) ∧
      Sent setup s primary index task number v (b.update index Item.attempted) us r' b' ∧
      (∀ t ∈ tail, t.step.call? = none) ∧ ∀ e, r' = .error e → r = .error e := by
  cases attempted with
  | @landed us signature _ x sent => exact ⟨x, us, [], _, by simp, sent, by simp, nofun⟩
  | @failed us e _ x y sent =>
      exact ⟨x, us, _, _, rfl, sent, by simp [Step.call?], fun e' h => by rw [Except.error.inj h]⟩

/-- Nothing that is sent is given up. -/
lemma Dispatched.unraced {fee expiry : UInt64} {t : Transaction} {r : Except ExitError Signature}
    (sent : Dispatched setup index task number fee expiry t b ts r b') :
    ∀ u ∈ ts, ∀ c, u.step ≠ .race c := by
  cases sent with
  | unsimulated on e x => simp
  | submitted simulated x y awaited => cases simulated <;> cases awaited <;> simp

/-- A submission is followed by its confirmation, if the ledger took it. -/
lemma Dispatched.awaits {fee expiry : UInt64} {t : Transaction} {r : Except ExitError Signature}
    (sent : Dispatched setup index task number fee expiry t b ts r b') {before after : List Turn}
    {u : Turn} {w : Transaction} (submits : u.step.call? = some (.submit w))
    (split : ts = before ++ u :: after) : Awaits u expiry after := by
  cases sent with
  | unsimulated on e x =>
      obtain ⟨-, rfl, -⟩ := place_unique (P := fun u => u.step.call? = some (.submit w)) [] []
        submits (by simp) (by simp) split
      cases submits
  | @submitted us vs answer _ _ simulated x y awaited =>
      have earlier : ∀ u ∈ us ++ [⟨.note (.attempt index task number fee), (), x⟩],
          ¬ u.step.call? = some (.submit w) := by
        cases simulated <;> simp [Step.call?]
      have later : ∀ u ∈ vs, ¬ u.step.call? = some (.submit w) := by
        cases awaited <;> simp [Step.call?]
      rw [List.append_cons] at split
      obtain ⟨-, rfl, rfl⟩ := place_unique (P := fun u => u.step.call? = some (.submit w)) _ vs
        submits earlier later split
      intro signature took
      cases awaited with
      | refused e => cases took
      | unconfirmed signature' e y z | confirmed signature' y z =>
          obtain rfl := Option.some.inj took
          exact ⟨_, y, _, z, [], rfl, by simp⟩

/-- What an attempt submits went through the gate, and is waited for up to the expiry height of its
draft. -/
lemma Attempted.awaits {w : Transaction} {r : Except ExitError (Signature × UInt64)}
    (attempted : Attempted setup s primary index task number v b ts r b')
    {before after : List Turn} {u : Turn} (submits : u.step.call? = some (.submit w))
    (split : ts = before ++ u :: after) :
    ∃ x cs draft window, before = ⟨.publish (b.update index Item.attempted), (), x⟩ ::
        (cs ++ window) ∧ Cleared setup s primary index task v cs draft w ∧
      (∀ t ∈ window, ∀ c, t.step.call? = some c → Sends c) ∧ Awaits u draft.expiryHeight after := by
  have calls : u.step.call?.isSome = true := by rw [submits]; rfl
  obtain ⟨x, us, tail, r', rfl, sent, silent, -⟩ := attempted.sending
  obtain ⟨between, last, rfl, rfl, rfl⟩ := place_between (P := fun u => u.step.call?.isSome)
    [_] us tail calls (by simp [Step.call?]) (fun t ht => by simp [silent t ht]) split
  obtain ⟨cs, draft, t, window, rfl, cleared, dispatched⟩ :=
    sent.place submits (not_prepares_of_handed rfl) rfl
  have handed : u.handed? = some w := by rw [Turn.handed?, submits]; rfl
  obtain ⟨rfl, -⟩ := dispatched.window handed rfl
  refine ⟨x, cs, draft, window, rfl, cleared, ?_, fun signature took => ?_⟩
  · exact fun v hv => dispatched.sends v (by simp [hv])
  · obtain ⟨board, y, answer, z, rest, rfl, done⟩ := dispatched.awaits submits rfl signature took
    exact ⟨board, y, answer, z, rest ++ tail, by simp, List.forall_mem_append.2 ⟨done, silent⟩⟩

/-- The draft of a cleared attempt is good at the height that was read, and it is the one meant. -/
lemma Cleared.meant {draft : Draft} {t : Transaction}
    (cleared : Cleared setup s primary index task v ts draft t) :
    ∃ height, heights ts = [height] ∧ height ≤ draft.expiryHeight ∧
      Meant s task v height ts draft ∧ StandsFor ts t draft := by
  obtain @⟨ds, us, _, _, drafted, provided, x⟩ := cleared
  have unasked : heights us = [] := by
    refine heights_of_unasked fun u hu hc => ?_
    exact provided.not_inTime u hu _ hc (.inl rfl)
  have stands : StandsFor (ds ++ us ++ [⟨.stopped, false, x⟩]) t draft := by
    refine provided.message.imp id ?_
    rintro ⟨y, mem⟩
    exact ⟨y, by simp [mem]⟩
  rcases drafted.weighed with ⟨⟨e, h⟩, -⟩ | ⟨height, y, z, vs, rfl, weighed⟩
  · cases h
  · have read : heights (heightTurns (some (.ok height)) y z ++ vs ++ us ++
        [⟨.stopped, false, x⟩]) = [height] := by
      simp only [heights_append, heights_heightTurns, heights_of_unasked weighed.unasked, unasked]
      rfl
    cases weighed with
    | good inTime => exact ⟨height, read, inTime, by rw [Meant, if_pos inTime], stands⟩
    | rebuilt late on quiet ordered inTime =>
        obtain ⟨le, adapter, a, mem⟩ := inTime draft rfl
        refine ⟨height, read, le, ?_, stands⟩
        rw [Meant, if_neg (UInt64.not_le.2 late)]
        exact ⟨adapter, a, by simp [mem]⟩

/-- Only what was taken just before is waited for, and no such wait is given up. -/
lemma Attempted.before_wait {signature : Signature} {height : UInt64}
    {r : Except ExitError (Signature × UInt64)}
    (attempted : Attempted setup s primary index task number v b ts r b')
    {before after : List Turn} {u : Turn} (waits : u.step.call? = some (.confirm signature height))
    (split : ts = before ++ u :: after) :
    ∃ earlier w board x, before = earlier ++ [w, ⟨.publish board, (), x⟩] ∧
      w.taken? = some signature := by
  obtain ⟨a, between, after', tail, r', rfl, rfl, sent⟩ := attempted.place waits split
  obtain ⟨cs, draft, t, inner, rfl, -, dispatched⟩ :=
    sent.place waits (not_prepares_confirm _ _) rfl
  obtain ⟨step, answer, x⟩ := u
  have plain : step = .call (.confirm signature height) := by
    refine (Step.call_or_race waits).resolve_right ?_
    exact dispatched.unraced _ (List.mem_append_right inner List.mem_cons_self) _
  subst plain
  obtain ⟨earlier, y, board, z, rfl⟩ := dispatched.before_confirm rfl
  exact ⟨⟨.publish (b.update index Item.attempted), (), a⟩ :: (cs ++ earlier),
    ⟨.call (.submit t), .ok signature, y⟩, board, z, by simp, rfl⟩

/-! ## The discipline of an attempt -/

/-- Where the height is asked for at one place, it is asked for once. -/
lemma once_of_read {pre late : List Turn} {w : Turn}
    (earlier : ∀ t ∈ pre, ¬ t.step.call? = some .blockHeight)
    (later : ∀ t ∈ late, ¬ t.step.call? = some .blockHeight) (before : List Turn) (u : Turn)
    (after : List Turn) (split : pre ++ w :: late = before ++ u :: after)
    (asks : u.step.call? = some .blockHeight) :
    ∀ t ∈ before ++ after, t.step.call? ≠ some .blockHeight := by
  obtain ⟨rfl, -, rfl⟩ := place_unique (P := fun u => u.step.call? = some .blockHeight) pre late
    asks earlier later split
  exact List.forall_mem_append.2 ⟨earlier, later⟩

/-- An attempt that asks for nothing but the height, and in vain, keeps to everything. -/
lemma timely_of_unread {r : Except ExitError (Signature × UInt64)} (pre : List Turn)
    {late : List Turn} {w : Turn} (earlier : ∀ t ∈ pre, t.step.call? = none)
    (later : ∀ t ∈ late, t.step.call? = none) (unread : w.height? = none)
    (only : ∀ c, w.step.call? = some c → c = .blockHeight) :
    Timely setup s task v (pre ++ w :: late) r := by
  have none : heights (pre ++ w :: late) = [] := by
    rw [heights_append, heights_of_unasked fun t ht => by simp [earlier t ht], heights,
      List.filterMap_cons_none unread]
    exact heights_of_unasked fun t ht => by simp [later t ht]
  have asks : ∀ t ∈ pre ++ w :: late, ∀ c, t.step.call? = some c → c = .blockHeight := by
    refine List.forall_mem_append.2 ⟨fun t ht c hc => ?_, List.forall_mem_cons.2 ⟨only, ?_⟩⟩
    · simp [earlier t ht] at hc
    · intro t ht c hc
      simp [later t ht] at hc
  constructor
  · intro before u after c split calls other
    exact absurd (asks u (by simp [split]) c calls) other
  · exact once_of_read (fun t ht => by simp [earlier t ht]) fun t ht => by simp [later t ht]
  · simp [none]
  · simp [none]
  · simp [none]
  · intro before u after t split submits
    cases asks u (by simp [split]) _ submits
  · intro before u after signature expiry split waits
    cases asks u (by simp [split]) _ waits

/-- An attempt that read the height keeps to it, if it does so in its submission and behind it. -/
lemma timely_of_read {r : Except ExitError (Signature × UInt64)} {pre us late : List Turn}
    {height : UInt64} {x : Bool} {rd : Except ExitError Draft}
    (earlier : ∀ t ∈ pre, t.step.call? = none) (weighed : Weighed setup s task v height us rd)
    (later : ∀ t ∈ late, ∀ c, t.step.call? = some c → ¬ InTime c)
    (stops : ∀ e, rd = .error e → r = .error e ∧ ∀ t ∈ late, t.step.call? = none)
    (whole : ts = pre ++ ⟨.race .blockHeight, some (.ok height), x⟩ :: (us ++ late))
    (submitted : ∀ before u after t, ts = before ++ u :: after →
      u.step.call? = some (.submit t) → ∃ height draft, heights before = [height] ∧
        height ≤ draft.expiryHeight ∧ Meant s task v height before draft ∧
        StandsFor before t draft ∧ Awaits u draft.expiryHeight after)
    (confirmed : ∀ before u after signature expiry, ts = before ++ u :: after →
      u.step.call? = some (.confirm signature expiry) →
      ∃ earlier w board x, before = earlier ++ [w, ⟨.publish board, (), x⟩] ∧
        w.taken? = some signature) : Timely setup s task v ts r := by
  -- Behind the height there is no other question for it.
  have unasked : ∀ t ∈ us ++ late, ¬ t.step.call? = some .blockHeight :=
    List.forall_mem_append.2 ⟨weighed.unasked, fun t ht hc => later t ht _ hc (.inl rfl)⟩
  have begins : heights (pre ++ [⟨.race .blockHeight, some (.ok height), x⟩]) = [height] := by
    rw [heights_append, heights_of_unasked fun t ht => by simp [earlier t ht]]
    rfl
  have read : heights ts = [height] := by
    rw [whole, List.append_cons, heights_append, begins, heights_of_unasked unasked]
    rfl
  have ordered : orders ts = orders us := by
    have none : orders late = [] :=
      orders_of_unordered fun t ht a o hc => later t ht _ hc (.inr (.inr ⟨a, o, rfl⟩))
    have none' : orders pre = [] := orders_of_unordered fun t ht a o => by simp [earlier t ht]
    rw [whole, List.append_cons, orders_append, orders_append, orders_append, none, none',
      List.append_nil]
    rfl
  refine ⟨?_, ?_, ?_, ?_, ?_, submitted, confirmed⟩
  · intro before u after c split calls other
    have first : ∀ t ∈ pre ++ [⟨.race .blockHeight, some (.ok height), x⟩],
        ¬ t.step.call? = some c := by
      refine List.forall_mem_append.2 ⟨fun t ht => by simp [earlier t ht], ?_⟩
      simpa [Step.call?] using other.symm
    rw [whole, List.append_cons] at split
    obtain ⟨between, rfl, inside⟩ :=
      place_of_append (P := fun u => u.step.call? = some c) _ calls first split
    have silent : heights between = [] :=
      heights_of_unasked fun t ht => unasked t (by simp [inside, ht])
    exact ⟨height, by rw [heights_append, begins, silent, List.append_nil]⟩
  · rw [whole]
    exact once_of_read (fun t ht => by simp [earlier t ht]) unasked
  · intro height' mem inTime
    rw [read, List.mem_singleton] at mem
    subst mem
    cases weighed with
    | good => exact ordered
    | expired late | rebuilt late => exact absurd inTime (UInt64.not_le.2 late)
  · intro height' mem late off
    rw [read, List.mem_singleton] at mem
    subst mem
    cases weighed with
    | good inTime => exact absurd inTime (UInt64.not_le.2 late)
    | rebuilt _ on => simp [on] at off
    | expired =>
        obtain ⟨failed, silent⟩ := stops _ rfl
        refine ⟨failed, fun t mem c calls => ?_⟩
        rw [whole, List.nil_append] at mem
        rcases List.mem_append.1 mem with mem | mem
        · simp [earlier t mem] at calls
        · rcases List.mem_cons.1 mem with rfl | mem
          · exact (Option.some.inj calls).symm
          · simp [silent t mem] at calls
  · intro height' mem late on
    rw [read, List.mem_singleton] at mem
    subst mem
    cases weighed with
    | good inTime => exact absurd inTime (UInt64.not_le.2 late)
    | expired _ off => simp [on] at off
    | rebuilt _ _ _ orders => rw [ordered, orders]

/-- What an attempt submits is good at the height that was read, and it is waited for as such. -/
lemma Attempted.submitted {t : Transaction} {r : Except ExitError (Signature × UInt64)}
    (attempted : Attempted setup s primary index task number v b ts r b')
    {before after : List Turn} {u : Turn} (submits : u.step.call? = some (.submit t))
    (split : ts = before ++ u :: after) :
    ∃ height draft, heights before = [height] ∧ height ≤ draft.expiryHeight ∧
      Meant s task v height before draft ∧ StandsFor before t draft ∧
      Awaits u draft.expiryHeight after := by
  obtain ⟨x, cs, draft, window, rfl, cleared, sends, awaits⟩ := attempted.awaits submits split
  obtain ⟨height, known, inTime, meant, stands⟩ := cleared.meant
  have within : cs ⊆ ⟨.publish (b.update index Item.attempted), (), x⟩ :: (cs ++ window) :=
    fun t ht => by simp [ht]
  refine ⟨height, draft, ?_, inTime, meant.mono within, stands.mono within, awaits⟩
  have silent : heights window = [] :=
    heights_of_unasked fun t ht hc => not_inTime_of_sends (sends t ht _ hc) (.inl rfl)
  rw [← List.singleton_append, heights_append, heights_append, silent, known]
  rfl

/-- **Every attempt keeps to the expiry heights of its drafts.** -/
theorem Attempted.isTimely {r : Except ExitError (Signature × UInt64)}
    (attempted : Attempted setup s primary index task number v b ts r b') :
    Timely setup s task v ts r := by
  have submitted := fun before u after t (split : ts = before ++ u :: after)
    (calls : u.step.call? = some (.submit t)) => attempted.submitted calls split
  have confirmed := fun before u after signature expiry (split : ts = before ++ u :: after)
    (calls : u.step.call? = some (.confirm signature expiry)) => attempted.before_wait calls split
  obtain ⟨x, _, tail, r', rfl, sent, silent, fails⟩ := attempted.sending
  obtain ⟨ds, rd, rest, rfl, drafted, later, stops⟩ := sent.drafting
  rcases drafted.weighed with
    ⟨⟨e, rfl⟩, ⟨y, rfl⟩ | ⟨answer, y, z, rfl, unread⟩⟩ | ⟨height, y, z, us, rfl, weighed⟩
  · -- The run was cancelled before.
    obtain ⟨-, rfl⟩ := stops e rfl
    exact timely_of_unread [_] (by simp [Step.call?]) silent rfl nofun
  · -- The height is not known, and the attempt ends.
    obtain ⟨-, rfl⟩ := stops e rfl
    refine timely_of_unread [_, _] (by simp [Step.call?]) silent unread fun c hc => ?_
    exact (Option.some.inj hc).symm
  · have quiet : ∀ t ∈ rest ++ tail, ∀ c, t.step.call? = some c → ¬ InTime c := by
      refine List.forall_mem_append.2 ⟨later, fun t ht c hc => ?_⟩
      simp [silent t ht] at hc
    have look : ∀ t ∈ [⟨.publish (b.update index Item.attempted), (), x⟩,
        (⟨.stopped, false, y⟩ : Turn)], t.step.call? = none := by simp [Step.call?]
    refine timely_of_read (x := z) look weighed quiet (fun e h => ?_) (by simp [heightTurns])
      submitted confirmed
    obtain ⟨failed, rfl⟩ := stops e h
    exact ⟨fails e failed, silent⟩

end

end Run

namespace Desk.Ran

open Run

variable {d : Desk} {setup : Setup} {o : Options} {turns : List Turn}
  {result : Except ExitError Board}

/-- **Expiry discipline.**  Every attempt of a run keeps to the expiry heights of its drafts, and
where every adapter understands positions of its own venue only, an expired variant is ordered anew
exactly once.  Every call that a plain run makes while an item is in work lies within an attempt,
and so does everything that any run submits or waits for. -/
theorem timely (ran : d.Ran setup o turns result) :
    (∀ before ts after k i v r, turns = before ++ (ts ++ after) →
      Trial setup o (d.afterAll before).board ts k i v r →
      Timely setup (setup.planSettings o) i.task v ts r ∧
        (Planning.Faithful setup.adapters → ∀ height ∈ heights ts,
          v.draft.expiryHeight < height → setup.refreshExpired = true → ∃ adapter, orders ts =
            [(adapter, (setup.planSettings o).order i.task.position i.task.action v.feeLevel)])) ∧
    (∀ before u after c k, o.dryRun = false → turns = before ++ u :: after →
      u.step.call? = some c → (d.afterAll before).board.currentIndex = some k →
      StretchFrom (fun b ts => ∃ i v r, Trial setup o b ts k i v r) d.board before u after) ∧
    ∀ before u after c, turns = before ++ u :: after → u.step.call? = some c → c.telling = true →
      StretchFrom (fun b ts => ∃ k i v r, Trial setup o b ts k i v r) d.board before u after := by
  refine ⟨?_, ?_, ?_⟩
  · intro before ts after k i v r split trial
    obtain ⟨primary, b', goes⟩ := trial.goes
    have timely := (attempted_of_goes goes).isTimely
    refine ⟨timely, fun faithful height mem late on => ?_⟩
    obtain ⟨plan, ⟨x, ps, rest, -, made⟩, planned⟩ := ran.planned_of_trial split trial
    obtain ⟨adapter, found⟩ := Planning.exists_adapter_of_goes_plan faithful made planned
    refine ⟨adapter, ?_⟩
    rw [timely.rebuilt height mem late on, found]
    rfl
  · intro before u after c k plain split calls focused
    exact ran.trial_of_call plain split calls focused
  · intro before u after c split calls tells
    exact ran.trial_of_submission split calls tells

/-- In the small exit the planned draft has expired when its item comes into work.  It is built
anew, and submitted in an attempt that keeps to the expiry heights. -/
theorem timely_rebuilt :
    let tx := Sample.transaction [Sample.owner] 0
    let build := fun past : List Turn => (⟨tx, if (heights past).isEmpty then 10 else 100⟩ : Draft)
    let turns := ((Sample.world build id).play {} [] (whole (Sample.setup false) Sample.options)).1
    ∃ before u after t, turns = before ++ u :: after ∧ u.step.call? = some (.submit t) ∧
      heights before = [20] ∧ (orders before).length = 2 ∧
      StretchFrom (fun b ts => ∃ k i v r, Trial (Sample.setup false) Sample.options b ts k i v r ∧
        Timely (Sample.setup false) ((Sample.setup false).planSettings Sample.options) i.task v ts r)
        ({} : Desk).board before u after := by
  intro tx build turns
  have ran : ({} : Desk).Ran (Sample.setup false) Sample.options turns _ :=
    ran_play Sample.accepted (Sample.world build id)
  have submits : (turns[20]?.bind Turn.taken?).isSome = true := by decide +kernel
  have read : heights (turns.take 20) = [20] := by decide +kernel
  have ordered : (orders (turns.take 20)).length = 2 := by decide +kernel
  obtain ⟨signature, took⟩ := Option.isSome_iff_exists.1 submits
  obtain ⟨u, taken, took⟩ := Option.bind_eq_some_iff.1 took
  obtain ⟨t, x, rfl⟩ := Turn.eq_of_taken took
  obtain ⟨u, after, split, call⟩ := callAt_of_getElem? taken rfl
  refine ⟨_, u, after, t, split, call, read, ordered, ?_⟩
  obtain ⟨attempts, -, submissions⟩ := timely ran
  obtain ⟨earlier, first, last, later, before, after, k, i, v, r, trial⟩ :=
    submissions _ _ _ _ split call rfl
  refine ⟨earlier, first, last, later, before, after, k, i, v, r, ?_⟩
  rw [before, after] at split
  rw [← Desk.board_afterAll_eq] at trial ⊢
  exact ⟨trial, (attempts earlier _ later k i v r (by simpa using split) trial).1⟩

end Desk.Ran

end PoolExit
