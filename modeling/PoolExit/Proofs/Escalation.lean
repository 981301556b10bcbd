import PoolExit.Proofs.Expiry
import PoolExit.Proofs.Ladder
import PoolExit.Proofs.Log

/-!
# How the fees of an item rise

Whatever a run orders has the fee of a rung.  The attempts at an item take its variants one after
the other from the lowest one on, and the stint of the item says that there are no others: so their
fees are the first rungs of the ladder, without a gap (`Board.tries`).  A confirmation ends the
stint, and as the run does not turn back to an item, nothing is asked for it any more.

`Desk.Ran.climbs` puts this together for a run with a rising ladder.
-/

namespace PoolExit

namespace Board

/-- The fees of the attempts at the item at a place, in the order in which their ends are
reported. -/
def tries (k : Nat) : Board → List Turn → List UInt64 :=
  gather <| whileInWork k fun _ t => t.tried?

variable {k : Nat} {b : Board} {ts : List Turn}

lemma tries_append (b : Board) (ts us : List Turn) :
    tries k b (ts ++ us) = tries k b ts ++ tries k (b.afterAll ts) us := gather_append ..

lemma tries_of_untried (untried : ∀ t ∈ ts, t.tried? = none) : tries k b ts = [] := by
  refine gather_of_untold fun t ht c => ?_
  rw [whileInWork, untried t ht, ite_self]

/-- A report counts for the item in work. -/
lemma tries_of_focused {t : Turn} {fee : UInt64} (focused : b.currentIndex = some k)
    (told : t.tried? = some fee) (us : List Turn) :
    tries k b (t :: us) = fee :: tries k (b.next t) us := by
  simp [tries, whileInWork, focused, told]

/-- What can be told only once is gathered at most once. -/
lemma length_gather_le_one {α : Type} {read : Board → Turn → Option α}
    (once : ∀ before t after a, ts = before ++ t :: after → read (b.afterAll before) t = some a →
      gather read ((b.afterAll before).next t) after = []) : (gather read b ts).length ≤ 1 := by
  induction ts generalizing b with
  | nil => exact Nat.zero_le 1
  | cons t ts ih =>
      rw [gather_cons]
      cases told : read b t with
      | none =>
          refine ih fun before u after a split told => ?_
          exact once (t :: before) u after a (by rw [split]; rfl) told
      | some a =>
          have nothing : gather read (b.next t) ts = [] := once [] t ts a rfl told
          simp [nothing]

end Board

namespace Turn

/-- Only the answer to a wait is confirmed. -/
lemma eq_of_confirmed {t : Turn} {signature : Signature}
    (confirmed : t.confirmed? = some signature) :
    ∃ expiry x, t = ⟨.call (.confirm signature expiry), .ok (), x⟩ := by
  unfold confirmed? at confirmed
  split at confirmed
  · obtain rfl := Option.some.inj confirmed
    exact ⟨_, _, rfl⟩
  · cases confirmed

/-- Where nothing is said about an item, no attempt at one has ended. -/
lemma Mute.untried {t : Turn} (mute : t.Mute) : t.tried? = none := by
  have aside := mute.aside
  unfold tried?
  split
  · exact absurd (aside _ rfl).index nofun
  · exact absurd (aside _ rfl).index nofun
  · rfl

end Turn

namespace Item

lemma attempts_landed (i : Item) (id : String) (fee : UInt64) :
    (i.landed id fee).attempts = i.attempts := by
  unfold landed advance
  split <;> rfl

end Item

namespace Run

open Board

/-! ## One attempt -/

section

variable {setup : Setup} {s : PlanSettings} {primary : Transaction} {index number : Nat}
  {task : Task} {v : Variant} {b b' : Board} {ts : List Turn}

/-- Sending a draft reports the end of no attempt itself. -/
lemma Sent.untried {r : Except ExitError Signature}
    (sent : Sent setup s primary index task number v b ts r b') : ∀ t ∈ ts, t.tried? = none := by
  cases sent.spoken with
  | nothing mute => exact fun t ht => (mute t ht).untried
  | attempt before after task number fee x tx answer y =>
      refine List.forall_mem_append.2 ⟨fun t ht => (before t ht).untried,
        List.forall_mem_append.2 ⟨?_, fun t ht => (after t ht).untried⟩⟩
      exact List.forall_mem_cons.2 ⟨rfl, List.forall_mem_singleton.2 rfl⟩

lemma Looked.untried (looked : Looked number ts) : ∀ t ∈ ts, t.tried? = none :=
  fun t ht => (looked.mute t ht).untried

/-- The fee of an attempt that landed, which is reported later. -/
def landedFee : Except ExitError (Signature × UInt64) → List UInt64
  | .ok value => [value.2]
  | .error _ => []

/-- An attempt is counted once and has the fee of its variant. -/
theorem Attempted.tries {k : Nat} {i : Item} {r : Except ExitError (Signature × UInt64)}
    (attempted : Attempted setup s primary k task number v b ts r b') (working : Working k b i) :
    ∃ j, Working k b' j ∧ j.task = i.task ∧ j.attempts = i.attempts + 1 ∧
      b.tries k ts ++ landedFee r = [v.feeLevel] := by
  have counted : Working k (b.update k Item.attempted) i.attempted :=
    working.update working.ongoing
  cases attempted with
  | @landed us signature _ x sent =>
      obtain ⟨j, working', same, count⟩ := sent.outlined.working counted
      refine ⟨j, working', same, count, ?_⟩
      rw [tries_of_untried (List.forall_mem_cons.2 ⟨rfl, sent.untried⟩)]
      rfl
  | @failed us e _ x y sent =>
      obtain ⟨j, working', same, count⟩ := sent.outlined.working counted
      have focused : ((b.update k Item.attempted).afterAll us).currentIndex = some k :=
        (Board.afterAll_of_shows sent.shows (.refl k _)).currentIndex.trans counted.focused
      refine ⟨j, working', same, count, ?_⟩
      rw [← List.cons_append, tries_append,
        tries_of_untried (List.forall_mem_cons.2 ⟨rfl, sent.untried⟩), List.nil_append]
      exact congrArg (· ++ []) (tries_of_focused focused rfl [])

/-- A confirmation is the last turn of its attempt, which has then landed. -/
lemma Sent.last_of_confirmed {r : Except ExitError Signature}
    (sent : Sent setup s primary index task number v b ts r b') {before after : List Turn} {u : Turn}
    {signature : Signature} (confirmed : u.confirmed? = some signature)
    (split : ts = before ++ u :: after) : after = [] ∧ ∃ signature, r = .ok signature := by
  have unlike : ∀ {us : List Turn}, (∀ t ∈ us, t.confirmed? = none) →
      ∀ t ∈ us, ¬ t.confirmed? = some signature := by
    intro us none t ht
    simp [none t ht]
  have plainly : ∀ {us : List Turn}, (∀ t ∈ us, t.Plain) →
      ∀ t ∈ us, ¬ t.confirmed? = some signature :=
    fun plain => unlike fun t ht => (plain t ht).unconfirmed
  have outlined := sent.outlined
  cases outlined with
  | unsent plain => exact absurd confirmed (plainly plain u (by simp [split]))
  | @unconfirmed us plain =>
      refine absurd confirmed (List.forall_mem_append.2 ⟨plainly plain, ?_⟩ u (by rw [split]; simp))
      simp [Turn.confirmed?]
  | @confirmed us plain tx signature' expiry x y z =>
      obtain ⟨between, -, inside⟩ := place_of_append (P := fun u => u.confirmed? = some signature)
        us confirmed (plainly plain) split
      obtain ⟨-, -, rfl⟩ := place_unique (P := fun u => u.confirmed? = some signature) [_, _] []
        confirmed (by simp [Turn.confirmed?]) (by simp) inside
      exact ⟨rfl, _, rfl⟩

lemma Attempted.last_of_confirmed {r : Except ExitError (Signature × UInt64)}
    (attempted : Attempted setup s primary index task number v b ts r b')
    {before after : List Turn} {u : Turn} {signature : Signature}
    (confirmed : u.confirmed? = some signature) (split : ts = before ++ u :: after) :
    after = [] ∧ ∃ value, r = .ok value := by
  have counts : ∀ x, ∀ t ∈ [(⟨.publish (b.update index Item.attempted), (), x⟩ : Turn)],
      ¬ t.confirmed? = some signature := by simp [Turn.confirmed?]
  cases attempted with
  | @landed us signature _ x sent =>
      obtain ⟨between, rfl, inside⟩ := place_of_append (P := fun u => u.confirmed? = some _) [_]
        confirmed (counts x) split
      exact ⟨(sent.last_of_confirmed confirmed inside).1, _, rfl⟩
  | @failed us e _ x y sent =>
      obtain ⟨between, last, rfl, rfl, rfl⟩ := place_between (P := fun u => u.confirmed? = some _)
        [_] us [_] confirmed (counts x) (by simp [Turn.confirmed?]) split
      obtain ⟨-, _, h⟩ := sent.last_of_confirmed confirmed rfl
      cases h

end

/-! ## One item -/

section

variable {setup : Setup} {o : Options} {primary : Transaction} {k number : Nat} {task : Task}
  {i : Item} {b b' : Board} {ts : List Turn}

/-- The fees of variants. -/
def fees (variants : List Variant) : List UInt64 := variants.map Variant.feeLevel

lemma fees_append (vs ws : List Variant) : fees (vs ++ ws) = fees vs ++ fees ws :=
  List.map_append

/-- What of trying the drafts of an item is reported later. -/
def successFee : Except (Exhausted ExitError) (Success (Signature × UInt64)) → List UInt64
  | .ok success => [success.value.2]
  | .error _ => []

/-- The drafts of an item are tried in their order, and none is left out: with the fees of those
before, the reported fees are those of the first drafts, as many as attempts were counted. -/
theorem Tried.tries {errors : List ExitError} {variants : List Variant}
    {r : Except (Exhausted ExitError) (Success (Signature × UInt64))}
    (tried : Tried setup (setup.planSettings o) primary k task number errors variants b ts r b')
    (working : Working k b i) (same : i.task = task) (count : i.attempts = number)
    (rest : task.attempts.drop number = variants) :
    ∃ j, Working k b' j ∧ j.task = task ∧ fees (task.attempts.take number) ++
      (b.tries k ts ++ successFee r) = fees (task.attempts.take j.attempts) := by
  induction tried generalizing i with
  | exhausted number errors b => exact ⟨i, working, same, by simp [count, Board.tries, successFee]⟩
  | stopped number errors v rest' b x =>
      refine ⟨i, working, same, ?_⟩
      rw [tries_of_untried (List.forall_mem_singleton.2 rfl), count]
      simp [successFee]
  | @landed number errors v rest' b us ts value b' looked went =>
      obtain ⟨variant, -⟩ := variant_of_drop rest
      obtain ⟨j, working', same', count', told⟩ := (attempted_of_goes went).tries working
      refine ⟨j, working', same'.trans same, ?_⟩
      rw [tries_append, tries_of_untried looked.untried, afterAll_of_looked looked, List.nil_append,
        count', count, List.take_add_one, variant, fees_append]
      exact congrArg _ told
  | @failed number errors v rest' b us ts e b₁ vs r b' looked went tried ih =>
      obtain ⟨variant, rest''⟩ := variant_of_drop rest
      have attempted := attempted_of_goes went
      obtain ⟨j, working', same', count', told⟩ := attempted.tries working
      obtain ⟨j', working'', same'', all⟩ :=
        ih working' (same'.trans same) (by rw [count', count]) rest''
      refine ⟨j', working'', same'', ?_⟩
      have ends : b.afterAll ts = b₁ := by
        subst same count
        exact (working_of_failed went working variant).1
      rw [landedFee, List.append_nil] at told
      rw [← all, List.append_assoc us, tries_append, tries_append,
        tries_of_untried looked.untried, afterAll_of_looked looked, ends, told,
        List.take_add_one, variant, fees_append]
      simp [fees]

/-- The work on an item reports the fees of its first drafts, as many as attempts were counted. -/
theorem Handled.tries (handled : Handled setup (setup.planSettings o) primary k task b ts b')
    (working : Working k b (.signed task)) :
    ∃ j, b'.items[k]? = some j ∧ j.task = task ∧
      b.tries k ts = fees (task.attempts.take j.attempts) := by
  have trying : ∀ {us : List Turn} {r b₁},
      Tried setup (setup.planSettings o) primary k task 0 [] task.attempts b us r b₁ →
      (b.afterAll us).currentIndex = some k ∧ ∃ j, Working k b₁ j ∧ j.task = task ∧
        b.tries k us ++ successFee r = fees (task.attempts.take j.attempts) := by
    intro us r b₁ tried
    obtain ⟨j, working', same, all⟩ := tried.tries working rfl rfl rfl
    refine ⟨?_, j, working', same, by simpa [fees] using all⟩
    exact (Board.afterAll_of_shows tried.shows (.refl k b)).currentIndex.trans working.focused
  cases handled with
  | left tried ended last =>
      obtain ⟨-, j, working', same, all⟩ := trying tried
      exact ⟨j, working'.found, same, by simpa [successFee] using all⟩
  | @confirmed us success b₁ tried x y =>
      obtain ⟨focused, j, working', same, all⟩ := trying tried
      refine ⟨j.landed success.value.1.text success.value.2, ?_, ?_, ?_⟩
      · simp [Board.getElem?_update, working'.found]
      · exact (j.onward_landed _ _).task.trans same
      · rw [Item.attempts_landed, ← all, tries_append, tries_of_focused focused rfl,
          tries_of_untried (List.forall_mem_singleton.2 rfl)]
        rfl
  | @failed us exhausted b₁ reason tried failing x y =>
      obtain ⟨-, j, working', same, all⟩ := trying tried
      refine ⟨(j.fail reason).2, ?_, ?_, ?_⟩
      · simp [Board.getElem?_update, working'.found]
      · exact (j.onward_stop _ _).task.trans same
      · have reports : ∀ t ∈ [(⟨.note (.failed k task reason), (), x⟩ : Turn),
            ⟨.publish (b₁.update k fun i => (i.fail reason).2), (), y⟩], t.tried? = none := by
          simp [Turn.tried?]
        rw [tries_append, tries_of_untried reports, show (j.fail reason).2.attempts = j.attempts from
          j.attempts_stop _ _, ← all]
        rfl

/-- A dry run attempts nothing. -/
theorem Rehearsal.tries (rehearsal : Rehearsal primary k task b ts b')
    (working : Working k b (.signed task)) :
    ∃ j, b'.items[k]? = some j ∧ j.task = task ∧
      b.tries k ts = fees (task.attempts.take j.attempts) := by
  cases rehearsal with
  | passed x y =>
      refine ⟨((Item.signed task).skip dryRunReason).2, ?_, rfl, ?_⟩
      · simp [Board.getElem?_update, working.found]
      · exact tries_of_untried (by simp [Turn.tried?])
  | failed e x y z =>
      refine ⟨((Item.signed task).fail e.message).2, ?_, rfl, ?_⟩
      · simp [Board.getElem?_update, working.found]
      · exact tries_of_untried (by simp [Turn.tried?])

/-- A confirmation is the last turn of trying the drafts, which has then succeeded. -/
lemma Tried.last_of_confirmed {errors : List ExitError} {variants : List Variant}
    {r : Except (Exhausted ExitError) (Success (Signature × UInt64))}
    (tried : Tried setup (setup.planSettings o) primary k task number errors variants b ts r b')
    {before after : List Turn} {u : Turn} {signature : Signature}
    (confirmed : u.confirmed? = some signature) (split : ts = before ++ u :: after) :
    after = [] ∧ ∃ success, r = .ok success := by
  induction tried generalizing before with
  | exhausted => simp at split
  | stopped number errors v rest b x =>
      obtain ⟨rfl, rfl, rfl⟩ := place_unique (P := fun u => u.confirmed? = some signature) [] []
        confirmed (by simp) (by simp) split
      cases confirmed
  | @landed number errors v rest b us ts value b' looked went =>
      have looks : ∀ t ∈ us, ¬ t.confirmed? = some signature :=
        fun t ht => by simp [(looked.plain t ht).unconfirmed]
      obtain ⟨between, rfl, inside⟩ := place_of_append (P := fun u => u.confirmed? = some signature)
        us confirmed looks split
      exact ⟨((attempted_of_goes went).last_of_confirmed confirmed inside).1, _, rfl⟩
  | @failed number errors v rest b us ts e b₁ vs r b' looked went tried ih =>
      have looks : ∀ t ∈ us, ¬ t.confirmed? = some signature :=
        fun t ht => by simp [(looked.plain t ht).unconfirmed]
      rw [List.append_assoc] at split
      obtain ⟨between, rfl, inside⟩ := place_of_append (P := fun u => u.confirmed? = some signature)
        us confirmed looks split
      rcases place_cases inside with ⟨last, rfl, rfl⟩ | ⟨first, rfl, rfl⟩
      · obtain ⟨-, _, h⟩ := (attempted_of_goes went).last_of_confirmed confirmed rfl
        cases h
      · exact ih rfl

/-- After a confirmation, nothing more is asked for in the work on its item. -/
lemma WorkedOn.silent_of_confirmed (workedOn : WorkedOn setup o primary k task b ts b')
    {before after : List Turn} {u : Turn} {signature : Signature}
    (confirmed : u.confirmed? = some signature) (split : ts = before ++ u :: after) :
    ∀ t ∈ after, t.step.call? = none := by
  cases workedOn with
  | rehearsed dry rehearsal =>
      have none : ∀ t ∈ ts, t.confirmed? = none := by
        cases rehearsal <;> simp [Turn.confirmed?]
      rw [none u (by simp [split])] at confirmed
      cases confirmed
  | handled plain handled =>
      cases handled with
      | left tried ended last =>
          obtain ⟨-, _, h⟩ := tried.last_of_confirmed confirmed split
          cases h
      | confirmed tried x y | failed tried failing x y =>
          obtain ⟨between, rfl, rfl⟩ := place_of_append_left
            (P := fun u => u.confirmed? = some signature) confirmed (by simp [Turn.confirmed?]) split
          obtain ⟨rfl, -⟩ := tried.last_of_confirmed confirmed rfl
          simp [Step.call?]

/-- However an item is worked on, the reported fees are those of its first drafts. -/
theorem WorkedOn.tries (workedOn : WorkedOn setup o primary k task b ts b')
    (working : Working k b (.signed task)) :
    ∃ j, b'.items[k]? = some j ∧ j.task = task ∧
      b.tries k ts = fees (task.attempts.take j.attempts) := by
  cases workedOn with
  | handled plain handled => exact handled.tries working
  | rehearsed dry rehearsal => exact rehearsal.tries working

/-- Where a call is made in an attempt, an item is in work. -/
lemma focused_of_attempting {tasks : List Task}
    {work : List ((Task × Option Transaction) × Nat)} {before after : List Turn} {u : Turn} {c : Call}
    (stretch : Stretch (Attempting setup (setup.planSettings o) tasks work) before u after)
    (calls : u.step.call? = some c) (start : Board) :
    ∃ k, (start.afterAll before).currentIndex = some k := by
  obtain ⟨earlier, first, last, later, rfl, rfl, attempting⟩ := stretch
  obtain @⟨task, primary, k, number, v, b, _, r, b', mem, variant, focused, shown, attempted⟩ :=
    attempting
  obtain ⟨x, between, _, _, _, rfl, -⟩ := attempted.place calls rfl
  have touched := attempted.touched_within rfl (by simp) start earlier
  exact ⟨k, touched.currentIndex.trans focused⟩

/-- Nothing is reported of an attempt at an item that is not in work. -/
lemma Elsewhere.untried (elsewhere : Elsewhere k b ts) : b.tries k ts = [] := by
  refine List.eq_nil_iff_forall_not_mem.2 fun fee mem => ?_
  obtain ⟨before, u, after, split, told⟩ := mem_gather.1 mem
  unfold whileInWork at told
  split at told
  next focused => exact elsewhere split (.inr (Option.isSome_iff_exists.2 ⟨fee, told⟩)) focused
  next => cases told

/-- Whatever is ordered in an attempt is ordered for its variant, from the adapter of its venue. -/
lemma Trial.ordered {v : Variant} {r : Except ExitError (Signature × UInt64)}
    (trial : Trial setup o b ts k i v r) {adapter : Nat} {order : BuildOrder}
    (ordered : (adapter, order) ∈ orders ts) :
    (setup.adapters.findIdx? fun a => a.venue = i.task.venue) = some adapter ∧
      order = (setup.planSettings o).order i.task.position i.task.action v.feeLevel := by
  obtain ⟨primary, b', goes⟩ := trial.goes
  have timely := (attempted_of_goes goes).isTimely
  obtain ⟨u, mem, builds⟩ := mem_orders.1 ordered
  obtain ⟨before, after, split⟩ := List.append_of_mem mem
  obtain ⟨height, known⟩ := timely.first before u after _ split builds nofun
  have read : height ∈ heights ts := by simp [split, known]
  by_cases inTime : height ≤ v.draft.expiryHeight
  · simp [timely.good height read inTime] at ordered
  · have late := UInt64.not_le.1 inTime
    cases on : setup.refreshExpired with
    | false =>
        have only := (timely.expired height read late on).2 u mem _ builds
        cases only
    | true =>
        rw [timely.rebuilt height read late on, Option.mem_toList, Option.map_eq_some_iff] at ordered
        obtain ⟨_, found, h⟩ := ordered
        obtain ⟨rfl, rfl⟩ := Prod.mk.inj h
        exact ⟨found, rfl⟩

/-- Whatever is ordered in an attempt has the fee of its variant. -/
lemma Trial.feeLevel {v : Variant} {r : Except ExitError (Signature × UInt64)}
    (trial : Trial setup o b ts k i v r) {before after : List Turn} {u : Turn} {adapter : Nat}
    {order : BuildOrder} (builds : u.step.call? = some (.build adapter order))
    (split : ts = before ++ u :: after) : order.feeLevel = v.feeLevel := by
  rw [(trial.ordered (mem_orders.2 ⟨u, by simp [split], builds⟩)).2]
  rfl

end

end Run

namespace Desk.Ran

open Run

variable {d : Desk} {setup : Setup} {o : Options} {turns : List Turn}
  {result : Except ExitError Board}

/-- The variants of a planned task have the fees of the first rungs. -/
lemma fees_of_planned {plan : Plan} (planned : Planned setup o turns plan) {task : Task}
    (mem : task ∈ plan.tasks) : task.attempts = task.variants ∧
      fees task.variants <+: setup.ladder.rungs o.feeLevelBase := by
  obtain ⟨x, ps, rest, -, made⟩ := planned
  obtain ⟨c, a, value, laid, -⟩ := Planning.laid_of_goes_plan made task mem
  exact ⟨laid.attempts, laid.levels⟩

/-- Every draft that a run orders has the fee of a rung. -/
lemma rung_of_order (ran : d.Ran setup o turns result) {before after : List Turn} {u : Turn}
    {adapter : Nat} {order : BuildOrder} (split : turns = before ++ u :: after)
    (builds : u.step.call? = some (.build adapter order)) :
    order.feeLevel ∈ setup.ladder.rungs o.feeLevelBase := by
  have placed := (ran.placed builds split).1
  cases placed with
  | planning quiet =>
      rcases quiet.2 _ builds with ⟨_, _, h⟩ | ⟨_, _, h, priced⟩
      · cases h
      · cases h
        exact priced
  | signing passed quiet => rcases quiet.2 _ builds with h | ⟨_, _, h⟩ <;> cases h
  | rehearsing dry passed inLine rehearsing =>
      cases rehearsing
      cases builds
  | @attempting tasks work plain passed inLine stretch =>
      obtain ⟨k, focused⟩ := focused_of_attempting stretch builds d.board
      rw [← board_afterAll_eq] at focused
      obtain ⟨earlier, first, last, later, rfl, rfl, i, v, r, trial⟩ :=
        ran.trial_of_call plain split builds focused
      rw [← board_afterAll_eq] at trial
      obtain ⟨plan, planned, mem⟩ := ran.planned_of_trial (by simpa using split) trial
      obtain ⟨same, levels⟩ := fees_of_planned planned mem
      rw [trial.feeLevel builds rfl]
      refine levels.subset (List.mem_map.2 ⟨v, ?_, rfl⟩)
      exact same ▸ List.mem_of_getElem? trial.variant

/-- The items on the board at the end are those of the plan. -/
lemma planned_of_listed (ran : d.Ran setup o turns result) {k : Nat} {i : Item}
    (found : (d.afterAll turns).board.items[k]? = some i) :
    ∃ plan, Planned setup o turns plan ∧ i.task ∈ plan.tasks := by
  obtain ⟨tasks, planned, shows⟩ := ran.tasks_shown
  obtain ⟨x, us, outcome, b, vs, b', rfl, -⟩ := ran.course
  have listed := Board.afterAll_of_shows (shows_cons.1 shows).2
    (show Board.opened.tasks ⊆ tasks by simp [Board.opened, Board.tasks])
  rw [board_afterAll_eq] at found
  exact planned _ (listed (List.mem_map.2 ⟨i, List.mem_of_getElem? found, rfl⟩))

/-- The fees of the attempts at an item are those of its first variants, as many as attempts were
counted. -/
lemma tries_eq (ran : d.Ran setup o turns result) {k : Nat} {i : Item}
    (found : (d.afterAll turns).board.items[k]? = some i) :
    d.board.tries k turns = fees (i.task.variants.take i.attempts) := by
  rcases ran.stint k with ⟨elsewhere, untried⟩ | ⟨task, primary, pre, us, post, b, stint, known, last⟩
  · rw [elsewhere.untried, untried i found]
    rfl
  · obtain ⟨j, found', same, told⟩ := stint.item.tries stint.working
    obtain ⟨j', found'', same', count⟩ := last i found
    obtain rfl : j = j' := Option.some.inj (found'.symm.trans found'')
    obtain ⟨plan, planned, mem⟩ := known
    obtain ⟨-, -, ends⟩ := stint.item.touches stint.working.focused stint.working.found
    rw [stint.split, Board.tries_append, Board.tries_append, stint.earlier.untried, told, ends,
      stint.later.untried, List.nil_append, List.append_nil, (fees_of_planned planned mem).1, same',
      same, count]

/-- After a confirmation the run asks for something for later items only. -/
lemma later_of_confirmed (ran : d.Ran setup o turns result) {before after : List Turn}
    {signature : Signature} {expiry : UInt64} {x : Bool}
    (split : turns = before ++ ⟨.call (.confirm signature expiry), .ok (), x⟩ :: after) :
    ∃ k, (d.afterAll before).board.currentIndex = some k ∧
      ∀ first u last c, after = first ++ u :: last → u.step.call? = some c →
        ∃ k', (d.afterAll (before ++ ⟨.call (.confirm signature expiry), .ok (), x⟩ ::
          first)).board.currentIndex = some k' ∧ k < k' := by
  have call : CallAt turns before (.confirm signature expiry) := ⟨_, after, split, rfl⟩
  obtain ⟨k, -, focused, -⟩ := ran.exists_item_in_work call trivial
  refine ⟨k, focused, ?_⟩
  rintro first u last c rfl calls
  have later : turns =
      (before ++ ⟨.call (.confirm signature expiry), .ok (), x⟩ :: first) ++ u :: last := by
    simpa using split
  obtain ⟨k', focused', le⟩ := ran.turns_on call ⟨u, last, later, calls⟩ focused
  refine ⟨k', focused', Nat.lt_of_le_of_ne le ?_⟩
  rintro rfl
  -- Both calls would stand in the stint of the item, but the confirmation is the last one there.
  rcases ran.stint k with ⟨elsewhere, -⟩ | ⟨task, primary, pre, us, post, b, stint, -, -⟩
  · rw [board_afterAll_eq] at focused
    exact elsewhere split (Turn.busy_of_call rfl) focused
  · rw [board_afterAll_eq] at focused focused'
    obtain ⟨f, l, rfl, inside, behind⟩ := stint.place split (Turn.busy_of_call rfl) focused
    obtain ⟨f', l', between, inside', rfl⟩ :=
      stint.place later (Turn.busy_of_call calls) focused'
    have silent := stint.item.silent_of_confirmed rfl inside
    obtain rfl : f' = f ++ ⟨.call (.confirm signature expiry), .ok (), x⟩ :: first := by
      simpa using between.symm
    rw [inside'] at inside
    obtain rfl : first ++ u :: l' = l := by simpa using inside
    rw [silent u (by simp)] at calls
    cases calls

/-- At most one submission of an item is confirmed. -/
lemma confirmed_once (ran : d.Ran setup o turns result) (k : Nat) :
    (d.board.confirmations k turns).length ≤ 1 := by
  refine Board.length_gather_le_one fun before u after signature split told => ?_
  unfold Board.whileInWork at told
  split at told
  next focused =>
    obtain ⟨expiry, x, rfl⟩ := Turn.eq_of_confirmed told
    obtain ⟨k', focused', later⟩ := ran.later_of_confirmed split
    rw [board_afterAll_eq, focused] at focused'
    obtain rfl := Option.some.inj focused'
    refine List.eq_nil_iff_forall_not_mem.2 fun signature' mem => ?_
    obtain ⟨first, w, last, rfl, told'⟩ := Board.mem_gather.1 mem
    unfold Board.whileInWork at told'
    split at told'
    next again =>
      obtain ⟨expiry', y, rfl⟩ := Turn.eq_of_confirmed told'
      obtain ⟨k', focused', less⟩ := later first _ last _ rfl rfl
      rw [board_afterAll_eq, Board.afterAll_append, Board.afterAll_cons, again] at focused'
      obtain rfl := Option.some.inj focused'
      exact absurd less (Nat.lt_irrefl k)
    next => cases told'
  next => cases told

/-- **Fees rise, and what has landed is left alone.**  In a run with a rising ladder every draft is
ordered at a rung, none of which is above the ceiling.  The attempts at an item have the fees of its
first variants, one after the other, and these strictly increase.  Once a submission is confirmed,
the run asks for something for later items only, so that no item is confirmed twice. -/
theorem climbs (rising : setup.ladder.Rising) (ran : d.Ran setup o turns result) :
    (∀ before u after adapter order, turns = before ++ u :: after →
      u.step.call? = some (.build adapter order) →
      order.feeLevel ∈ setup.ladder.rungs o.feeLevelBase ∧
        order.feeLevel ≤ setup.ladder.ceiling) ∧
    (∀ k i, (d.afterAll turns).board.items[k]? = some i →
      d.board.tries k turns = fees (i.task.variants.take i.attempts) ∧
        fees i.task.variants <+: setup.ladder.rungs o.feeLevelBase ∧
        (d.board.tries k turns).Pairwise (· < ·)) ∧
    (∀ before after signature expiry x,
      turns = before ++ ⟨.call (.confirm signature expiry), .ok (), x⟩ :: after →
      ∃ k, (d.afterAll before).board.currentIndex = some k ∧
        ∀ first u last c, after = first ++ u :: last → u.step.call? = some c →
          ∃ k', (d.afterAll (before ++ ⟨.call (.confirm signature expiry), .ok (), x⟩ ::
            first)).board.currentIndex = some k' ∧ k < k') ∧
    ∀ k, (d.board.confirmations k turns).length ≤ 1 := by
  refine ⟨?_, ?_, fun _ _ _ _ _ => ran.later_of_confirmed, ran.confirmed_once⟩
  · intro before u after adapter order split builds
    have rung := ran.rung_of_order split builds
    exact ⟨rung, FeeLadder.le_ceiling_of_mem_rungs rung⟩
  · intro k i found
    obtain ⟨plan, planned, mem⟩ := ran.planned_of_listed found
    have levels := (fees_of_planned planned mem).2
    have tries := ran.tries_eq found
    refine ⟨tries, levels, ?_⟩
    have first : fees (i.task.variants.take i.attempts) <+: fees i.task.variants :=
      (List.take_prefix _ _).map _
    rw [tries]
    exact (FeeLadder.rising_rungs rising _).sublist (first.trans levels).sublist

/-- In the small exit with a second rung the first submission is refused, and the next attempt has a
higher fee. -/
theorem climbs_after_refusal :
    let setup := { Sample.setup false with ladder := { count := 2 } }
    let smooth := Sample.world (fun _ => ⟨Sample.transaction [Sample.owner] 0, 100⟩) id
    let w : World := { smooth with
      answer := fun past c => match c with
        | .submit _ =>
            if (past.filterMap Turn.tried?).isEmpty then .error (.unanswered "refused")
            else .ok (.replicate 64 7)
        | c => smooth.answer past c }
    let turns := (w.play {} [] (whole setup Sample.options)).1
    setup.ladder.Rising ∧ ∃ i, (({} : Desk).afterAll turns).board.items[0]? = some i ∧
      fees (i.task.variants.take i.attempts) = [1000, 1350] ∧
      (({} : Desk).board.tries 0 turns).Pairwise (· < ·) := by
  intro setup smooth w turns
  have rising : setup.ladder.Rising := Nat.le_of_ble_eq_true rfl
  have ran : ({} : Desk).Ran setup Sample.options turns _ := ran_play Sample.accepted w
  have listed : (({} : Desk).afterAll turns).board.items[0]?.isSome = true := by decide +kernel
  have tried : ({} : Desk).board.tries 0 turns = [1000, 1350] := by decide +kernel
  obtain ⟨i, found⟩ := Option.isSome_iff_exists.1 listed
  obtain ⟨tries, -, increasing⟩ := (climbs rising ran).2.1 0 i found
  exact ⟨rising, i, found, tries ▸ tried, increasing⟩

end Desk.Ran

end PoolExit
