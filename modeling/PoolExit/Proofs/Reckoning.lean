import PoolExit.Proofs.Log

/-!
# The log of a run adds up

A run shows events apart from the boards, and from five places.  Still both say the same.  Taking in
the signatures and working on the items each touch an item at most once, and what they tell about it
agrees with it; everything else that a run does tells nothing about an item (`Acted.agrees`).
The end of the run changes only items that have not ended, and skipping them is not reported.

So at the end of a run that has no failure, the log and the board agree item by item, and the last
event is the only one that counts the items (`Desk.Ran.log_adds_up`).
-/

namespace PoolExit

lemma Notice.finished_of_index {n : Notice} {k : Nat} (about : n.index? = some k) :
    n.finished? = none := by
  cases n with
  | finished => cases about
  | _ => rfl

lemma aside_of_mute {ts : List Turn} (mute : ∀ t ∈ ts, t.Mute) : ∀ n ∈ log ts, n.Aside := by
  intro n hn
  obtain ⟨t, ht, shown⟩ := mem_log.1 hn
  exact (mute t ht).aside n shown

namespace Run

/-- The turns leave the item at the place `k` as it is and tell nothing about it. -/
structure Untold (k : Nat) (b : Board) (ts : List Turn) (b' : Board) : Prop where
  told : Told k b ts [] [] 0
  item : b'.items[k]? = b.items[k]?

/-- What the turns tell about the item at the place `k` agrees with what is there on the board
`b'`. -/
def Agrees (k : Nat) (b : Board) (ts : List Turn) (b' : Board) : Prop :=
  ∃ fs cs n, Told k b ts fs cs n ∧ ∀ i, b'.items[k]? = some i → i.Account fs cs n

section

variable {k : Nat} {b b₁ b' : Board} {ts us : List Turn}

theorem Accounted.agrees (accounted : Accounted k b ts b') : Agrees k b ts b' := by
  obtain ⟨j, fs, cs, n, found, told, account⟩ := accounted
  refine ⟨fs, cs, n, told, fun i found' => ?_⟩
  obtain rfl := Option.some.inj (found.symm.trans found')
  exact account

lemma Untold.append (first : Untold k b ts b₁) (here : b.afterAll ts = b₁)
    (second : Untold k b₁ us b') : Untold k b (ts ++ us) b' :=
  ⟨first.told.append (here ▸ second.told), second.item.trans first.item⟩

lemma Agrees.untold (agrees : Agrees k b ts b₁) (here : b.afterAll ts = b₁)
    (later : Untold k b₁ us b') : Agrees k b (ts ++ us) b' := by
  obtain ⟨fs, cs, n, told, account⟩ := agrees
  refine ⟨_, _, _, told.append (here ▸ later.told), fun i found => ?_⟩
  rw [List.append_nil, List.append_nil, Nat.add_zero]
  exact account i (later.item ▸ found)

lemma agrees_append (told : Told k b ts [] [] 0) (here : b.afterAll ts = b₁)
    (later : Agrees k b₁ us b') : Agrees k b (ts ++ us) b' := by
  obtain ⟨fs, cs, n, told', account⟩ := later
  refine ⟨_, _, _, told.append (here ▸ told'), ?_⟩
  rwa [List.nil_append, List.nil_append, Nat.zero_add]

end

/-! ## Working on the items -/

section

variable {setup : Setup} {o : Options} {work : List ((Task × Option Transaction) × Nat)}
  {k : Nat} {b b' : Board} {ts : List Turn}

/-- The work on the items shows events about them only. -/
lemma Rounds.about (rounds : Rounds (WorkedOn setup o) work b ts b') :
    ∀ n ∈ log ts, (∃ index ∈ work.map Prod.snd, n.index? = some index) ∨ n.Aside := by
  induction rounds with
  | done => simp
  | stopped => exact fun n hn => .inr (aside_of_mute (by simp) n hn)
  | unsigned rest ih =>
      intro n hn
      exact (ih n hn).imp_left fun ⟨index, mem, about⟩ => ⟨index, List.mem_cons_of_mem _ mem, about⟩
  | @worked task primary index work b ts b₁ us b' x y item rest ih =>
      intro n hn
      have split : n ∈ log ts ∨ n ∈ log us := by
        simpa using hn
      rcases split with hn | hn
      · obtain ⟨t, ht, shown⟩ := mem_log.1 hn
        exact (item.speaks t ht n shown).imp_left fun about => ⟨index, List.mem_cons_self, about⟩
      · exact (ih n hn).imp_left fun ⟨index, mem, about⟩ =>
          ⟨index, List.mem_cons_of_mem _ mem, about⟩

/-- The work on other items leaves an item alone. -/
lemma Rounds.untold (rounds : Rounds (WorkedOn setup o) work b ts b') (staged : Staged work b)
    (distinct : (work.map Prod.snd).Nodup) (others : k ∉ work.map Prod.snd) :
    Untold k b ts b' := by
  obtain ⟨kept, elsewhere⟩ := rounds.elsewhere staged distinct others
  refine ⟨told_of_unsaid (fun n hn => ?_) (submissions_of_elsewhere elsewhere), kept⟩
  rcases rounds.about n hn with ⟨index, mem, about⟩ | aside
  · rw [about]
    exact fun h => others (Option.some.inj h ▸ mem)
  · simp [aside.index]

/-- An item is left alone, or it waited with its signed draft and was worked on once. -/
lemma Rounds.accounted (rounds : Rounds (WorkedOn setup o) work b ts b') (staged : Staged work b)
    (distinct : (work.map Prod.snd).Nodup) (k : Nat) :
    Untold k b ts b' ∨ (∃ task, b.items[k]? = some (.signed task)) ∧ Agrees k b ts b' := by
  induction rounds with
  | done => exact .inl ⟨told_of_mute (by simp) k _, rfl⟩
  | stopped => exact .inl ⟨told_of_mute (by simp) k _, rfl⟩
  | unsigned rest ih =>
      exact ih (fun _ _ _ mem => staged (List.mem_cons_of_mem _ mem)) (List.nodup_cons.1 distinct).2
  | @worked task primary index work b ts b₁ us b' x y item rest ih =>
      obtain ⟨first, distinct'⟩ := List.nodup_cons.1 distinct
      have signed : (b.focus index).items[index]? = some (.signed task) :=
        staged List.mem_cons_self
      obtain ⟨touched, -, ends⟩ := item.touches rfl signed
      have staged' := staged.of_touched touched first
      -- The look at the token and the turn to the item tell nothing.
      have begins : Untold k b [⟨.stopped, false, x⟩, ⟨.publish (b.focus index), (), y⟩]
          (b.focus index) := ⟨told_of_mute (by simp) k b, rfl⟩
      by_cases here : k = index
      · subst here
        have working : Working k (b.focus k) (.signed task) := ⟨rfl, signed, .inl rfl⟩
        refine .inr ⟨⟨task, signed⟩, agrees_append begins.told rfl ?_⟩
        exact (item.accounted working).agrees.untold ends (rest.untold staged' distinct' first)
      · have alone : Untold k (b.focus index) ts b₁ :=
          ⟨told_of_speaks item.speaks here (item.elsewhere rfl signed here),
            touched.getElem?_of_ne (Ne.symm here)⟩
        have goesOn : Untold k b (⟨.stopped, false, x⟩ :: ⟨.publish (b.focus index), (), y⟩ :: ts)
            b₁ := begins.append rfl alone
        have there : b.afterAll (⟨.stopped, false, x⟩ :: ⟨.publish (b.focus index), (), y⟩ :: ts) =
            b₁ := ends
        rcases ih staged' distinct' with later | ⟨⟨task', waits⟩, later⟩
        · exact .inl (goesOn.append there later)
        · exact .inr ⟨⟨task', goesOn.item ▸ waits⟩, agrees_append goesOn.told there later⟩

end

/-! ## Taking in the signatures -/

section

variable {entries : List ((Task × Transaction × Option SignerError) × Nat)} {k m : Nat}
  {b b' : Board} {ts : List Turn} {slots : List (Option Transaction)}
  {outcomes : List (Task × Transaction × Option SignerError)}

lemma Settled.about (settled : Settled entries b ts slots b')
    (inOrder : entries = outcomes.zipIdx m) :
    ∀ n ∈ log ts, (∃ index, m ≤ index ∧ n.index? = some index) ∨ n.Aside := by
  induction settled generalizing m outcomes with
  | done => simp
  | signed x settled ih =>
      obtain ⟨outcomes, rfl, rfl, rfl⟩ := slots_of_cons inOrder
      intro n hn
      exact (ih rfl n hn).imp_left fun ⟨index, le, about⟩ => ⟨index, Nat.le_of_succ_le le, about⟩
  | @refused task transaction e index rest b ts slots b' x y settled ih =>
      obtain ⟨outcomes, rfl, rfl, rfl⟩ := slots_of_cons inOrder
      intro n hn
      have split : n = .failed index task e.message ∨ n ∈ log ts := by
        simpa using hn
      rcases split with rfl | hn
      · exact .inl ⟨index, Nat.le_refl _, rfl⟩
      · exact (ih rfl n hn).imp_left fun ⟨index, le, about⟩ => ⟨index, Nat.le_of_succ_le le, about⟩

lemma Settled.board (settled : Settled entries b ts slots b') : b.afterAll ts = b' := by
  induction settled with
  | done => rfl
  | signed x settled ih | refused x y settled ih => exact ih

lemma Settled.untold (settled : Settled entries b ts slots b')
    (inOrder : entries = outcomes.zipIdx m) (pending : PendingFrom m outcomes b) (before : k < m) :
    Untold k b ts b' := by
  refine ⟨told_of_unsaid (fun n hn => ?_) ?_, (settled.settledFrom inOrder pending).1 k before⟩
  · rcases settled.about inOrder n hn with ⟨index, le, about⟩ | aside
    · rw [about]
      exact fun h => absurd (Option.some.inj h) (by omega)
    · simp [aside.index]
  · refine submissions_of_unsubmitted fun t ht => ?_
    rw [Turn.submitted?, settled.callless t ht, Option.bind_none]

/-- An item whose draft was not signed is reported, and no other. -/
theorem Settled.agrees (settled : Settled entries b ts slots b')
    (inOrder : entries = outcomes.zipIdx m) (pending : PendingFrom m outcomes b) (k : Nat)
    (fresh : ∀ i, b.items[k]? = some i → i.Account [] [] 0) : Agrees k b ts b' := by
  induction settled generalizing m outcomes with
  | done b => exact ⟨[], [], 0, told_of_mute (by simp) k b, fresh⟩
  | @signed task transaction index rest b ts slots b' x settled ih =>
      obtain ⟨outcomes, rfl, rfl, rfl⟩ := slots_of_cons inOrder
      have shown : Told k b [⟨.publish (b.update index fun i => (i.advance .signed).2), (), x⟩]
          [] [] 0 := told_of_mute (by simp) k b
      refine agrees_append shown rfl (ih rfl pending.update fun i found => ?_)
      rw [Board.getElem?_update] at found
      split at found
      next here =>
        subst here
        have waits : b.items[index]? = some (.pending task) := pending (n := 0) rfl
        rw [waits] at found
        obtain rfl := Option.some.inj found
        exact Item.account_of_not_terminal rfl rfl
      next => exact fresh i found
  | @refused task transaction e index rest b ts slots b' x y settled ih =>
      obtain ⟨outcomes, rfl, rfl, rfl⟩ := slots_of_cons inOrder
      have waits : b.items[index]? = some (.pending task) := pending (n := 0) rfl
      by_cases here : index = k
      · subst here
        have failed : Agrees index b [⟨.note (.failed index task e.message), (), x⟩,
            ⟨.publish (b.update index fun i => (i.fail e.message).2), (), y⟩]
            (b.update index fun i => (i.fail e.message).2) := by
          refine ⟨_, _, _, told_fail index task e.message b _ x y, fun i found => ?_⟩
          rw [Board.getElem?_update, if_pos rfl, waits] at found
          obtain rfl := Option.some.inj found
          exact Item.account_fail rfl rfl e.message
        exact failed.untold rfl (settled.untold rfl pending.update (Nat.lt_succ_self index))
      · have shown : Told k b [⟨.note (.failed index task e.message), (), x⟩,
            ⟨.publish (b.update index fun i => (i.fail e.message).2), (), y⟩] [] [] 0 := by
          refine told_of_unsaid (by simp [Notice.index?, here])
            (submissions_of_unsubmitted fun t ht => ?_)
          rcases List.mem_pair.1 ht with rfl | rfl <;> rfl
        refine agrees_append shown rfl (ih rfl pending.update fun i found => ?_)
        rw [Board.getElem?_update, if_neg here] at found
        exact fresh i found

end

/-! ## Whole runs -/

section

variable {setup : Setup} {o : Options} {plan : Plan} {b b' : Board} {ts : List Turn}
  {r : Except ExitError Unit}

lemma mute_of_goes_planning {made : Option Plan} (go : Talk.Goes (planning setup o) ts made) :
    ∀ t ∈ ts, t.Mute := by
  intro t ht
  refine Turn.mute_of_held (fun c priced => ?_) ((Planning.only_plan _ _ _).of_goes go t ht)
  rcases priced.toVenue with ⟨_, _, rfl⟩ | ⟨_, _, rfl⟩ <;> rfl

lemma mute_of_goes_signing {outcome : Option Signatures}
    (go : Talk.Goes (signing setup plan) ts outcome) : ∀ t ∈ ts, t.Mute := by
  intro t ht
  refine Turn.mute_of_held (fun c asks => ?_)
    ((Signing.only_batch _ _).untilStopped.of_goes go t ht)
  rcases asks with rfl | ⟨_, _, rfl⟩ <;> rfl

/-- What a run that acts on its plan tells agrees with the board that it leaves. -/
theorem Acted.agrees (acted : Acted setup o plan Board.opened ts r b') (k : Nat) :
    Agrees k Board.opened ts b' := by
  have fresh : ∀ i, (Board.opened.planned plan.tasks).items[k]? = some i →
      i.Account [] [] 0 := by
    intro i found
    obtain ⟨task, -, rfl⟩ := Option.map_eq_some_iff.1 (List.getElem?_map.symm.trans found)
    exact Item.account_of_not_terminal rfl rfl
  have waits : ∀ {us : List Turn} (x : Bool), (∀ t ∈ us, t.Mute) → Agrees k Board.opened
      (⟨.publish (Board.opened.planned plan.tasks), (), x⟩ :: us)
      (Board.opened.planned plan.tasks) :=
    fun x mute => ⟨[], [], 0, told_of_mute (List.forall_mem_cons.2 ⟨by simp, mute⟩) k _, fresh⟩
  cases acted with
  | nothing empty x y | refused refused x y =>
      exact waits x (List.forall_mem_singleton.2 (Turn.mute_note ⟨rfl, rfl⟩ _ y))
  | unsigned passed x signed => exact waits x (mute_of_goes_signing signed)
  | @worked us outcome vs slots b₁ ws _ passed x signed y settled worked =>
      have pending := pendingFrom_planned plan (outcome.transactions.zip outcome.errors)
      obtain ⟨-, outcomes⟩ := settled.settledFrom rfl pending
      have ready : Ready Board.opened b₁ [] 0 (plan.tasks.zip slots) :=
        ready_of_settled settled outcomes (settled.idle rfl).1 fun k => rfl
      have staged : Staged (plan.tasks.zip slots).zipIdx b₁ := by
        intro task primary index mem
        simpa using ready.signed (List.mem_zipIdx_iff_getElem?.1 mem)
      have distinct : ((plan.tasks.zip slots).zipIdx.map Prod.snd).Nodup := by
        rw [List.zipIdx_map_snd]
        exact List.nodup_range'
      -- Up to the answers of the signer nothing is told about an item.
      have quiet : ∀ t ∈ us, t.step.board? = none :=
        fun t ht => (quiet_of_goes_signing signed t ht).1
      have signs : Told k Board.opened (⟨.publish (Board.opened.planned plan.tasks), (), x⟩ ::
          (us ++ [⟨.note (.signed outcome.path plan.tasks.length outcome.failed), (), y⟩])) [] [] 0 :=
        told_of_mute (List.forall_mem_cons.2 ⟨by simp, List.forall_mem_append.2
          ⟨mute_of_goes_signing signed,
            List.forall_mem_singleton.2 (Turn.mute_note ⟨rfl, rfl⟩ _ y)⟩⟩) k _
      have begins : Board.opened.afterAll (⟨.publish (Board.opened.planned plan.tasks), (), x⟩ ::
          (us ++ [⟨.note (.signed outcome.path plan.tasks.length outcome.failed), (), y⟩])) =
          Board.opened.planned plan.tasks :=
        Board.afterAll_of_silent (List.forall_mem_append.2 ⟨quiet, by simp [Step.board?]⟩)
      have settles := settled.agrees rfl pending k fresh
      have whole : Agrees k (Board.opened.planned plan.tasks) (vs ++ ws) b' := by
        rcases worked.rounds.accounted staged distinct k with untold | ⟨⟨task, signed⟩, accounted⟩
        · exact settles.untold settled.board untold
        · -- The draft of the item was signed, so nothing was told about it when it was taken in.
          obtain ⟨fs, cs, n, told, account⟩ := settles
          obtain ⟨rfl, rfl, rfl⟩ := (account _ signed).of_not_terminal rfl
          exact agrees_append told settled.board accounted
      simpa using agrees_append signs begins whole

/-- Only the end of a run reports its counts. -/
lemma Acted.unfinished (acted : Acted setup o plan b ts r b') :
    ∀ n ∈ log ts, n.finished? = none := by
  cases acted with
  | nothing empty x y | refused refused x y => simp [Notice.finished?]
  | unsigned passed x signed =>
      exact fun n hn => (aside_of_mute (mute_of_goes_signing signed) n hn).finished
  | @worked us outcome vs slots b₁ ws _ passed x signed y settled worked =>
      intro n hn
      have split : n ∈ log us ∨ n = .signed outcome.path plan.tasks.length outcome.failed ∨
          n ∈ log vs ∨ n ∈ log ws := by
        simpa using hn
      rcases split with asked | rfl | taken | done
      · exact (aside_of_mute (mute_of_goes_signing signed) n asked).finished
      · rfl
      · rcases settled.about rfl n taken with ⟨index, -, about⟩ | aside
        · exact Notice.finished_of_index about
        · exact aside.finished
      · rcases worked.rounds.about n done with ⟨index, -, about⟩ | aside
        · exact Notice.finished_of_index about
        · exact aside.finished

/-- Until its end, what a run tells agrees with the board that it leaves. -/
theorem Executed.agrees (executed : Executed setup o Board.opened ts r b') (k : Nat) :
    Agrees k Board.opened ts b' := by
  cases executed with
  | unplanned planned =>
      exact ⟨[], [], 0, told_of_mute (mute_of_goes_planning planned) k _, by simp [Board.opened]⟩
  | planned planned acted =>
      refine agrees_append (told_of_mute (mute_of_goes_planning planned) k _) ?_ (acted.agrees k)
      exact Board.afterAll_of_silent fun t ht => (quiet_of_goes_planning planned t ht).1

lemma Executed.unfinished (executed : Executed setup o b ts r b') :
    ∀ n ∈ log ts, n.finished? = none := by
  cases executed with
  | unplanned planned =>
      exact fun n hn => (aside_of_mute (mute_of_goes_planning planned) n hn).finished
  | planned planned acted =>
      intro n hn
      rcases List.mem_append.1 (log_append _ _ ▸ hn) with planning | acting
      · exact (aside_of_mute (mute_of_goes_planning planned) n planning).finished
      · exact acted.unfinished n acting

end

end Run

namespace Desk.Ran

open Run

variable {d : Desk} {setup : Setup} {o : Options} {turns : List Turn} {board : Board}

/-- **The log of a run adds up.**  In a run that has no failure the attempts at an item that are
reported are as many as its submissions.  An item of the final board failed exactly where this was
reported, once and with its reason; it was confirmed exactly where this was reported, once and with
its signature, its fee and the number of variants that failed; and its attempts are those that
failed and the confirmed one.  The run reports its counts once, and they are the numbers of items of
the final board that have come to these ends. -/
theorem log_adds_up (ran : d.Ran setup o turns (.ok board)) :
    (∀ k,
      (log turns).countP (Notice.isAttempt k) = (d.board.submissions k turns).length ∧
      ∀ i, board.items[k]? = some i →
        i.Account ((log turns).filterMap (Notice.failure? k))
          ((log turns).filterMap (Notice.confirmation? k))
          ((log turns).countP (Notice.isFailedAttempt k))) ∧
    (∃ s : Summary, (log turns).filterMap Notice.finished? = [(s, board.cancelled)] ∧
      s.Counts board.items ∧ s.total = s.confirmed + s.failed + s.skipped ∧
      s = board.summary) := by
  have rests := ran.atRest
  obtain ⟨x, us, outcome, b, vs, b', rfl, executed, concluded⟩ := ran.course
  cases concluded with
  | finished harmless cancelled y z w =>
      refine ⟨fun k => ?_, _, ?_, rests.counts, rests.total, rfl⟩
      · obtain ⟨fs, cs, n, told, account⟩ := executed.agrees k
        have opens : Told k d.board [⟨.publish Board.opened, (), x⟩] [] [] 0 :=
          told_of_mute (by simp) k _
        have ends : Told k (Board.opened.afterAll us) [⟨.stopped, cancelled, y⟩,
            ⟨.publish (b.closed none cancelled), (), z⟩,
            ⟨.note (.finished (b.closed none cancelled).summary
              (b.closed none cancelled).cancelled), (), w⟩] [] [] 0 := by
          refine told_of_unsaid (by simp [Notice.index?])
            (submissions_of_unsubmitted (List.forall_mem_cons.2 ⟨rfl, fun t ht => ?_⟩))
          rcases List.mem_pair.1 ht with rfl | rfl <;> rfl
        have whole := opens.append (told.append ends)
        simp only [List.nil_append, List.append_nil, Nat.zero_add, Nat.add_zero] at whole
        refine ⟨whole.attempts, fun i found => ?_⟩
        rw [← List.singleton_append, whole.failures, whole.confirmations, whole.failed]
        rw [Board.getElem?_closed] at found
        cases cancelled with
        | false => exact account i found
        | true =>
            obtain ⟨j, found', rfl⟩ := Option.map_eq_some_iff.1 found
            exact (account j found').skip _
      · have before : (log us).filterMap Notice.finished? = [] :=
          List.filterMap_eq_nil_iff.2 executed.unfinished
        simp [before, Notice.finished?]

/-- In the small exit with a second rung the first submission is refused.  The log has two attempts,
of which one failed, and one confirmation by the second variant, and in the end one item is
counted. -/
theorem log_adds_up_after_refusal :
    let setup := { Sample.setup false with ladder := { count := 2 } }
    let smooth := Sample.world (fun _ => ⟨Sample.transaction [Sample.owner] 0, 100⟩) id
    let w : World := { smooth with
      answer := fun past c => match c with
        | .submit _ =>
            if (past.filterMap Turn.tried?).isEmpty then .error (.unanswered "refused")
            else .ok (.replicate 64 7)
        | c => smooth.answer past c }
    ∃ turns board i, w.play {} [] (whole setup Sample.options) = (turns, .ok board) ∧
      board.items[0]? = some i ∧ i.status = .confirmed ∧ i.attempts = 2 ∧
      (({} : Desk).board.submissions 0 turns).length = 2 ∧
      ∃ c : Confirmation, (log turns).filterMap (Notice.confirmation? 0) = [c] ∧
        c.variant = 1 ∧ c.failedVariants = 1 ∧
        (log turns).filterMap Notice.finished? = [(⟨1, 1, 0, 0, 0⟩, board.cancelled)] := by
  intro setup smooth w
  have confirmed : (w.play {} [] (whole setup Sample.options)).2.toOption.map
      (fun board => board.items.map fun i => (i.status, i.attempts)) = some [(.confirmed, 2)] := by
    decide +kernel
  have begun :
      (log (w.play {} [] (whole setup Sample.options)).1).countP (Notice.isAttempt 0) = 2 := by
    decide +kernel
  have ran : ({} : Desk).Ran setup Sample.options _ _ := ran_play Sample.accepted w
  obtain ⟨turns, result, played⟩ : ∃ turns result,
      w.play {} [] (whole setup Sample.options) = (turns, result) := ⟨_, _, rfl⟩
  rw [played] at confirmed begun ran
  obtain ⟨board, rfl, alone⟩ : ∃ board, result = .ok board ∧
      board.items.map (fun i => (i.status, i.attempts)) = [(.confirmed, 2)] := by
    cases result with
    | error e => simp [Except.toOption] at confirmed
    | ok board => exact ⟨board, rfl, by simpa [Except.toOption] using confirmed⟩
  obtain ⟨i, only, both⟩ := List.map_eq_singleton_iff.1 alone
  obtain ⟨status, attempts⟩ := Prod.mk.inj both
  obtain ⟨law, s, finished, counts, -⟩ := log_adds_up ran
  obtain ⟨submits, account⟩ := law 0
  have found : board.items[0]? = some i := by rw [only]; rfl
  have account := account i found
  obtain ⟨signature, fee, -, -, confirmations⟩ := account.confirmed status
  have failed := account.attempts
  rw [attempts, status, if_pos rfl] at failed
  have one := (Nat.succ.inj failed).symm
  have counted : s = ⟨1, 1, 0, 0, 0⟩ := by
    rw [only] at counts
    cases s
    obtain ⟨rfl, rfl, rfl, rfl, rfl⟩ := counts
    simp [status]
  exact ⟨turns, board, i, played, found, status, attempts, submits ▸ begun, _, confirmations, one,
    one, counted ▸ finished⟩

end Desk.Ran

end PoolExit
