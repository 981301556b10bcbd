import PoolExit.Proofs.Moves

/-!
# Every run goes in moves

The parts of a run are taken apart into moves from the inside out: sending a draft, an attempt, the
drafts of an item, one item, and the work on all items.  What an attempt does before and behind the
ledger is plain (`Sent.outlined`), so that three ways are left for it to go.

The order of the work comes from the token.  The run goes on to the next item only after a look at
the token, and an item that is left before its end was left because of a cancellation, which the
next look finds.  So whenever an item comes into work, all items before it have ended.
-/

namespace PoolExit

namespace Run

/-! ## Plain turns -/

section

variable {setup : Setup} {s : PlanSettings} {primary : Transaction} {index : Nat} {task : Task}
  {v : Variant} {ts : List Turn}

lemma plain_of_held {K : Call → Prop} (untelling : ∀ c, K c → c.telling = false) {t : Turn}
    (held : t.step.Held K Notice.Aside) : t.Plain := by
  obtain ⟨step, answer, x⟩ := t
  cases step with
  | call c => exact Turn.plain_call c (untelling c (held.quiet.2 c rfl)) answer x
  | race c => exact Turn.plain_race c answer x
  | stopped => exact Turn.plain_stopped answer x
  | publish c => cases held.quiet.1
  | note n =>
      have aside := held.notices n rfl
      refine Turn.plain_note ?_
      cases n <;> first | rfl | cases aside.index

lemma InTime.untelling {c : Call} (inTime : InTime c) : c.telling = false := by
  rcases inTime with rfl | ⟨_, _, rfl⟩ | ⟨_, _, rfl⟩ <;> rfl

lemma Prepares.untelling {tx : Transaction} {c : Call} (prepares : Prepares tx c) :
    c.telling = false := by
  cases prepares with
  | inTime h => exact h.untelling
  | together | direct => rfl

lemma Drafted.plain {r : Except ExitError Draft} (drafted : Drafted setup s index task v ts r) :
    ∀ t ∈ ts, t.Plain :=
  fun t ht => plain_of_held (fun _ => InTime.untelling) (drafted.held t ht)

lemma Provided.plain {draft : Draft} {r : Except ExitError Transaction}
    (provided : Provided setup primary draft ts r) : ∀ t ∈ ts, t.Plain :=
  fun t ht => plain_of_held (fun _ => Prepares.untelling) (provided.held t ht)

lemma Cleared.plain {draft : Draft} {t : Transaction}
    (cleared : Cleared setup s primary index task v ts draft t) : ∀ u ∈ ts, u.Plain :=
  fun u hu => plain_of_held (fun _ => Prepares.untelling) (cleared.held u hu)

lemma Simulated.plain {t : Transaction} (simulated : Simulated setup t ts) :
    ∀ u ∈ ts, u.Plain := by
  cases simulated with
  | off off => simp
  | passed on x => exact List.forall_mem_singleton.2 (Turn.plain_call _ rfl _ x)

lemma Looked.plain {number : Nat} (looked : Looked number ts) : ∀ t ∈ ts, t.Plain := by
  cases looked <;> simp

end

/-! ## Sending a draft -/

/-- The ways in which sending a draft can go, as seen by the item. -/
inductive Outlined (k : Nat) (fee : UInt64) (b : Board) :
    List Turn → Except ExitError Signature → Board → Prop
  | unsent {ts e} (plain : ∀ t ∈ ts, t.Plain) : Outlined k fee b ts (.error e) b
  | unconfirmed {ts} (plain : ∀ t ∈ ts, t.Plain) (tx signature expiry e x y z) :
      Outlined k fee b
        (ts ++ [⟨.call (.submit tx), .ok signature, x⟩,
          ⟨.publish (b.update k fun i => i.submitted signature.text fee), (), y⟩,
          ⟨.call (.confirm signature expiry), .error e, z⟩])
        (.error (.ledger e)) (b.update k fun i => i.submitted signature.text fee)
  | confirmed {ts} (plain : ∀ t ∈ ts, t.Plain) (tx signature expiry x y z) :
      Outlined k fee b
        (ts ++ [⟨.call (.submit tx), .ok signature, x⟩,
          ⟨.publish (b.update k fun i => i.submitted signature.text fee), (), y⟩,
          ⟨.call (.confirm signature expiry), .ok (), z⟩])
        (.ok signature) (b.update k fun i => i.submitted signature.text fee)

section

variable {setup : Setup} {s : PlanSettings} {primary : Transaction} {index number : Nat}
  {task : Task} {v : Variant} {b b' : Board} {ts us : List Turn} {fee : UInt64}
  {r : Except ExitError Signature}

lemma Outlined.append_left (plain : ∀ t ∈ us, t.Plain) (outlined : Outlined index fee b ts r b') :
    Outlined index fee b (us ++ ts) r b' := by
  cases outlined with
  | unsent plain' => exact .unsent (List.forall_mem_append.2 ⟨plain, plain'⟩)
  | unconfirmed plain' tx signature expiry e x y z =>
      rw [← List.append_assoc]
      exact .unconfirmed (List.forall_mem_append.2 ⟨plain, plain'⟩) tx signature expiry e x y z
  | confirmed plain' tx signature expiry x y z =>
      rw [← List.append_assoc]
      exact .confirmed (List.forall_mem_append.2 ⟨plain, plain'⟩) tx signature expiry x y z

theorem Dispatched.outlined {expiry : UInt64} {t : Transaction}
    (sent : Dispatched setup index task number fee expiry t b ts r b') :
    Outlined index fee b ts r b' := by
  cases sent with
  | unsimulated on e x =>
      exact .unsent (List.forall_mem_singleton.2 (Turn.plain_call _ rfl _ x))
  | submitted simulated x y awaited =>
      have report : Turn.Plain ⟨.note (.attempt index task number fee), (), x⟩ :=
        Turn.plain_note rfl
      refine Outlined.append_left simulated.plain ?_
      rw [← List.singleton_append]
      refine Outlined.append_left (by simpa using report) ?_
      have none : ∀ u ∈ ([] : List Turn), u.Plain := by simp
      cases awaited with
      | refused e => exact .unsent (by simp)
      | unconfirmed signature e z w => exact .unconfirmed none t signature expiry e y z w
      | confirmed signature z w => exact .confirmed none t signature expiry y z w

theorem Sent.outlined (sent : Sent setup s primary index task number v b ts r b') :
    Outlined index v.feeLevel b ts r b' := by
  cases sent with
  | undrafted drafted => exact .unsent drafted.plain
  | unsigned drafted provided =>
      exact .unsent (List.forall_mem_append.2 ⟨drafted.plain, provided.plain⟩)
  | cancelled drafted provided x =>
      refine .unsent (List.forall_mem_append.2
        ⟨List.forall_mem_append.2 ⟨drafted.plain, provided.plain⟩, ?_⟩)
      simp
  | dispatched cleared sent => exact sent.outlined.append_left cleared.plain

/-- Sending a draft leaves the board that was shown last. -/
lemma Outlined.board (outlined : Outlined index fee b ts r b') : b.afterAll ts = b' := by
  cases outlined with
  | unsent plain => exact Board.afterAll_of_silent fun t ht => (plain t ht).silent
  | unconfirmed plain | confirmed plain =>
      rw [Board.afterAll_append, Board.afterAll_of_silent fun t ht => (plain t ht).silent]
      rfl

lemma Attempted.board {r : Except ExitError (Signature × UInt64)}
    (attempted : Attempted setup s primary index task number v b ts r b') : b.afterAll ts = b' := by
  cases attempted with
  | landed x sent => exact sent.outlined.board
  | failed x y sent =>
      rw [Board.afterAll_cons, Board.next_publish, Board.afterAll_append, sent.outlined.board]
      rfl

/-- Sending a draft reports no failure itself. -/
lemma Outlined.unfailed (outlined : Outlined index fee b ts r b') :
    ∀ t ∈ ts, t.failure? = none := by
  cases outlined with
  | unsent plain => exact fun t ht => (plain t ht).unfailed
  | unconfirmed plain | confirmed plain =>
      refine List.forall_mem_append.2 ⟨fun t ht => (plain t ht).unfailed, ?_⟩
      simp [Turn.failure?]

end

/-! ## One attempt -/

/-- The item at a place is in work. -/
structure Working (k : Nat) (b : Board) (i : Item) : Prop where
  focused : b.currentIndex = some k
  found : b.items[k]? = some i
  ongoing : i.Ongoing

section

variable {setup : Setup} {o : Options} {start b b' : Board} {primary : Transaction} {k number : Nat}
  {task : Task} {v : Variant} {i : Item} {past ts : List Turn}

lemma Working.update {change : Item → Item} (working : Working k b i)
    (ongoing : (change i).Ongoing) : Working k (b.update k change) (change i) where
  focused := working.focused
  found := by rw [Board.getElem?_update, if_pos rfl, working.found, Option.map_some]
  ongoing

/-- Sending a draft leaves its item in work, as often tried as before. -/
lemma Outlined.working {fee : UInt64} {r : Except ExitError Signature}
    (outlined : Outlined k fee b ts r b') (working : Working k b i) :
    ∃ j, Working k b' j ∧ j.task = i.task ∧ j.attempts = i.attempts := by
  have shown := fun signature : Signature =>
    Item.submitted_of_ongoing working.ongoing signature.text fee
  cases outlined with
  | unsent plain => exact ⟨i, working, rfl, rfl⟩
  | unconfirmed plain tx signature | confirmed plain tx signature =>
      exact ⟨i.submitted signature.text fee, working.update (.inr (by rw [shown])),
        by rw [shown], by rw [shown]⟩

/-- What was taken by the ledger is shown, and the item stays in work. -/
lemma Outlined.moves {b₀ : Board} {us : List Turn} {r : Except ExitError Signature}
    (sofar : Moves setup o start b₀ past us b) (outlined : Outlined k v.feeLevel b ts r b')
    (working : Working k b i) (begun : 0 < i.attempts) (underWay : i.underWay? = some v) :
    (∃ e j, r = .error e ∧ Moves setup o start b₀ past (us ++ ts) b' ∧ Working k b' j ∧
      j.task = i.task ∧ j.attempts = i.attempts) ∨
    ∃ signature expiry x vs, r = .ok signature ∧
      ts = vs ++ [⟨.call (.confirm signature expiry), .ok (), x⟩] ∧
      Moves setup o start b₀ past (us ++ vs) b' ∧
      Working k b' (i.submitted signature.text v.feeLevel) := by
  have sends : ∀ {vs : List Turn}, (∀ t ∈ vs, t.Plain) → ∀ tx (signature : Signature) x y,
      Moves setup o start b₀ past
        (us ++ (vs ++ [⟨.call (.submit tx), .ok signature, x⟩,
          ⟨.publish (b.update k fun i => i.submitted signature.text v.feeLevel), (), y⟩]))
        (b.update k fun i => i.submitted signature.text v.feeLevel) ∧
      Working k (b.update k fun i => i.submitted signature.text v.feeLevel)
        (i.submitted signature.text v.feeLevel) := by
    intro vs plain tx signature x y
    constructor
    · exact sofar.trans ((moves_of_plain plain).trans
        (Move.taken working.focused working.found working.ongoing begun underWay tx signature x
          y).moves)
    · exact working.update (.inr (by rw [Item.submitted_of_ongoing working.ongoing]))
  cases outlined with
  | unsent plain => exact .inl ⟨_, i, rfl, sofar.trans (moves_of_plain plain), working, rfl, rfl⟩
  | @unconfirmed vs plain tx signature expiry e x y z =>
      obtain ⟨moves, working'⟩ := sends plain tx signature x y
      have shown := Item.submitted_of_ongoing working.ongoing signature.text v.feeLevel
      refine .inl ⟨_, _, rfl, ?_, working', by rw [shown], by rw [shown]⟩
      rw [List.append_cons, List.append_cons, List.append_assoc vs, ← List.append_assoc]
      exact moves.trans (moves_of_plain (by simp))
  | @confirmed vs plain tx signature expiry x y z =>
      obtain ⟨moves, working'⟩ := sends plain tx signature x y
      exact .inr ⟨signature, expiry, z, _, rfl, by simp, moves, working'⟩

/-- An attempt goes in moves, up to its confirmation if there is one. -/
lemma moves_of_goes_attempt {r : Except ExitError (Signature × UInt64)}
    (go : Goes (attempt setup (setup.planSettings o) primary k i.task i.attempts v) b ts r b')
    (here : start.afterAll past = b) (working : Working k b i)
    (variant : i.task.attempts[i.attempts]? = some v) :
    (∃ e j, r = .error e ∧ Moves setup o start b past ts b' ∧ Working k b' j ∧ j.task = i.task ∧
      j.attempts = i.attempts + 1 ∧ b.failures k ts = [e]) ∨
    ∃ (signature : Signature) (expiry : UInt64) (x : Bool) (us : List Turn) (j : Item),
      r = .ok (signature, v.feeLevel) ∧
      ts = us ++ [⟨.call (.confirm signature expiry), .ok (), x⟩] ∧
      Moves setup o start b past us b' ∧ Working k b' j ∧ j.task = i.task ∧ j.status = .sent ∧
      j.submissionId = some signature.text ∧ j.feeLevel = some v.feeLevel := by
  have left : i.attempts < i.task.attempts.length := (List.getElem?_eq_some_iff.1 variant).1
  have begins : ∀ x, Moves setup o start b past
      [⟨.publish (b.update k Item.attempted), (), x⟩] (b.update k Item.attempted) :=
    fun x => (Move.begun working.focused working.found working.ongoing left x).moves
  have working' : Working k (b.update k Item.attempted) i.attempted :=
    working.update working.ongoing
  have attempted := attempted_of_goes go
  cases attempted with
  | @landed us signature _ x sent =>
      rcases sent.outlined.moves (begins x) working' (Nat.succ_pos _) variant with
        ⟨_, _, h, -⟩ | ⟨s, expiry, y, us, h, rfl, moves, inWork⟩
      · cases h
      · obtain rfl := Except.ok.inj h
        have shown := Item.submitted_of_ongoing working'.ongoing signature.text v.feeLevel
        exact .inr ⟨signature, expiry, y, _ :: us, _, rfl, rfl, moves, inWork,
          by rw [shown]; rfl, by rw [shown], by rw [shown], by rw [shown]⟩
  | @failed us e _ x y sent =>
      rcases sent.outlined.moves (begins x) working' (Nat.succ_pos _) variant with
        ⟨e', j, h, moves, inWork, same, counted⟩ | ⟨_, _, _, _, h, -⟩
      · obtain rfl := Except.error.inj h
        have failed : FailedAttempt setup o start k
            (past ++ ([⟨.publish (b.update k Item.attempted), (), x⟩] ++ us) ++
              [⟨.note (.attemptFailed k j.task i.attempts v.feeLevel e), (), y⟩]) e := by
          refine ⟨past, _, primary, i, v, b', ?_, ?_, ?_, variant, here ▸ go⟩
          · simp [same, here, Item.attempted]
          · rw [here, working.focused]
          · rw [here, working.found]
        refine .inl ⟨e, j, rfl, ?_, inWork, same, counted, ?_⟩
        · have reported := Move.failed inWork.focused inWork.found inWork.ongoing failed
          rw [same] at reported
          exact moves.trans reported.moves
        · have counts := (begins x).board
          have silent : (b.update k Item.attempted).failures k us = [] :=
            Board.failures_of_unfailed sent.outlined.unfailed
          rw [← List.singleton_append, Board.failures_append, Board.failures_append,
            Board.failures_of_unfailed (by simp [Turn.failure?])]
          have sent : (b.update k Item.attempted).afterAll us = b' := by
            rw [← moves.board, Board.afterAll_append, counts]
          simp only [Board.afterAll_cons, Board.afterAll_nil, Board.next_publish, sent, silent,
            List.nil_append]
          simp [Board.failures, Board.whileInWork, inWork.focused, Turn.failure?]
      · cases h

/-! ## One item -/

lemma variant_of_drop {vs rest : List Variant} {n : Nat} (h : vs.drop n = v :: rest) :
    vs[n]? = some v ∧ vs.drop (n + 1) = rest := by
  constructor
  · rw [← List.head?_drop, h, List.head?_cons]
  · rw [← List.tail_drop, h, List.tail_cons]

/-- Trying the drafts of an item goes in moves, up to a confirmation if there is one; otherwise the
failures are those that were found. -/
lemma Tried.moves {errors : List ExitError} {variants : List Variant}
    {r : Except (Exhausted ExitError) (Success (Signature × UInt64))}
    (tried : Tried setup (setup.planSettings o) primary k task number errors variants b ts r b')
    (here : start.afterAll past = b) (working : Working k b i) (same : i.task = task)
    (count : i.attempts = number) (rest : task.attempts.drop number = variants)
    (known : start.failures k past = errors) :
    (∃ exhausted j, r = .error exhausted ∧ Moves setup o start b past ts b' ∧ Working k b' j ∧
      start.failures k (past ++ ts) = exhausted.errors) ∨
    ∃ success expiry x us j, r = .ok success ∧
      ts = us ++ [⟨.call (.confirm success.value.1 expiry), .ok (), x⟩] ∧
      Moves setup o start b past us b' ∧ Working k b' j ∧ j.task = task ∧ j.status = .sent ∧
      j.submissionId = some success.value.1.text ∧ j.feeLevel = some success.value.2 := by
  induction tried generalizing past i with
  | exhausted number errors b => exact .inl ⟨_, i, rfl, .done b past, working, by simpa using known⟩
  | stopped number errors v rest b x =>
      refine .inl ⟨_, i, rfl, moves_of_plain (by simp), working, ?_⟩
      rw [Board.failures_append, known, Board.failures_of_unfailed (by simp [Turn.failure?]),
        List.append_nil]
  | @landed number errors v rest' b us ts value b' looked went =>
      obtain ⟨variant, -⟩ := variant_of_drop rest
      subst same count
      have looks : Moves setup o start b past us b := moves_of_plain looked.plain
      rcases moves_of_goes_attempt went (looks.afterAll here) working
          variant with
        ⟨_, _, h, -⟩ | ⟨signature, expiry, x, vs, j, h, rfl, moves, inWork, law⟩
      · cases h
      · obtain rfl := Except.ok.inj h
        exact .inr ⟨_, expiry, x, us ++ vs, j, rfl, by simp, looks.trans moves, inWork, law⟩
  | @failed number errors v rest' b us ts e b₁ vs r b' looked went tried ih =>
      obtain ⟨variant, rest''⟩ := variant_of_drop rest
      subst same count
      have looks : Moves setup o start b past us b := moves_of_plain looked.plain
      have there : start.afterAll (past ++ us) = b := looks.afterAll here
      rcases moves_of_goes_attempt went there working variant with
        ⟨e', j, h, moves, inWork, same, count, failure⟩ | ⟨_, _, _, _, _, h, -⟩
      · obtain rfl := Except.error.inj h
        have known' : start.failures k (past ++ (us ++ ts)) = errors ++ [e] := by
          rw [← List.append_assoc, Board.failures_append, Board.failures_append, known, here, there,
            Board.failures_of_unfailed fun t ht => (looked.plain t ht).unfailed, List.append_nil,
            failure]
        have there' : start.afterAll (past ++ (us ++ ts)) = b₁ := by
          rw [← List.append_assoc, Board.afterAll_append, there, moves.board]
        rcases ih there' inWork same count rest'' known' with
          ⟨exhausted, j', rfl, moves', inWork', failures⟩ |
          ⟨success, expiry, x, ws, j', rfl, rfl, moves', inWork', law⟩
        · refine .inl ⟨exhausted, j', rfl, (looks.trans moves).trans moves', inWork', ?_⟩
          rwa [← List.append_assoc]
        · exact .inr ⟨success, expiry, x, us ++ ts ++ ws, j', rfl, by simp,
            (looks.trans moves).trans moves', inWork', law⟩
      · cases h

/-- Where no draft is left, there was a failure. -/
lemma Tried.errors_ne_nil {s : PlanSettings} {errors : List ExitError} {variants : List Variant}
    {exhausted : Exhausted ExitError}
    (tried : Tried setup s primary k task number errors variants b ts (.error exhausted) b')
    (some : errors ≠ [] ∨ variants ≠ []) (complete : exhausted.cancelled = false) :
    exhausted.errors ≠ [] := by
  generalize h : Except.error exhausted = r at tried
  induction tried with
  | exhausted number errors b =>
      obtain rfl := Except.error.inj h
      simpa using some
  | stopped number errors v rest b x =>
      obtain rfl := Except.error.inj h
      cases complete
  | landed => cases h
  | failed looked went tried ih => exact ih (.inl (by simp)) h

lemma attempts_ne_nil (t : Task) : t.attempts ≠ [] := by
  unfold Task.attempts
  split
  next => simp
  next some => simpa using some

/-- An item fails for the last failure that was no cancellation. -/
lemma Failing.last {exhausted : Exhausted ExitError} {reason : String}
    (failing : Failing exhausted reason)
    (some : exhausted.cancelled = false → exhausted.errors ≠ []) :
    ∃ e, lastGenuine exhausted.errors = .some e ∧ reason = e.describe := by
  cases failing with
  | @cancelled e ended last => exact ⟨e, last, rfl⟩
  | plain ended =>
      obtain ⟨complete, genuine⟩ :
          exhausted.cancelled = false ∧ exhausted.last? ≠ .some .cancelled := by
        simpa [endedByCancel] using ended
      obtain ⟨e, last⟩ := Option.ne_none_iff_exists'.1
        (mt List.getLast?_eq_none_iff.1 (some complete))
      have last' : exhausted.last? = .some e := last
      refine ⟨e, lastGenuine_of_getLast? last fun h => genuine (h ▸ last'), ?_⟩
      simp [last']

/-- Work on an item goes in moves.  It ends the item, or it was told of a cancellation and no
attempt failed for another reason. -/
lemma Handled.moves (handled : Handled setup (setup.planSettings o) primary k task b ts b')
    (here : start.afterAll past = b) (focused : b.currentIndex = some k)
    (found : b.items[k]? = some (.signed task)) (fresh : start.failures k past = []) :
    Moves setup o start b past ts b' ∧
      (b'.Ended k ∨ (∃ t ∈ ts, t.tellsStop = true) ∧
        ∀ e ∈ start.failures k (past ++ ts), e = .cancelled) := by
  have working : Working k b (.signed task) := ⟨focused, found, .inl rfl⟩
  have course : ∀ {ts r b'},
      Tried setup (setup.planSettings o) primary k task 0 [] task.attempts b ts r b' → _ :=
    fun tried => tried.moves here working rfl rfl rfl fresh
  cases handled with
  | @confirmed ts success b' tried x y =>
      rcases course tried with
        ⟨_, _, h, -⟩ | ⟨success', expiry, z, us, j, h, rfl, moves, inWork, rfl, sent, id, level⟩
      · cases h
      · obtain rfl := Except.ok.inj h
        have confirmed : Move setup o start _ (past ++ us) _ _ :=
          .confirmed inWork.focused inWork.found sent id level expiry success.index
            success.failures z x y
        refine ⟨?_, .inl (Board.ended_update fun i => i.isTerminal_landed _ _)⟩
        rw [List.append_assoc]
        exact moves.trans confirmed.moves
  | @left ts exhausted b' tried ended last =>
      rcases course tried with ⟨exhausted', j, h, moves, inWork, failures⟩ | ⟨_, _, _, _, _, h, -⟩
      · obtain rfl := Except.error.inj h
        refine ⟨moves, .inr ⟨tried.tellsStop ended (by simp), ?_⟩⟩
        rw [failures]
        exact lastGenuine_eq_none.1 last
      · cases h
  | @failed ts exhausted b' reason tried failing x y =>
      rcases course tried with ⟨exhausted', j, h, moves, inWork, failures⟩ | ⟨_, _, _, _, _, h, -⟩
      · obtain rfl := Except.error.inj h
        obtain ⟨e, last, rfl⟩ :=
          failing.last fun complete => tried.errors_ne_nil (.inr (attempts_ne_nil task)) complete
        have known : start.failures k (past ++ ts ++ [⟨.note (.failed k task e.describe), (), x⟩]) =
            exhausted.errors := by
          rw [Board.failures_append, failures, Board.failures_of_unfailed (by simp [Turn.failure?]),
            List.append_nil]
        have ended : Move setup o start _ _ _ _ :=
          .ended inWork.focused inWork.found inWork.ongoing (known ▸ last) y
        have reported : Move setup o start b' (past ++ ts)
            [⟨.note (.failed k task e.describe), (), x⟩] b' := .plain (Turn.plain_note rfl)
        refine ⟨?_, .inl (Board.ended_update fun i => i.isTerminal_stop rfl _)⟩
        exact moves.trans (.step reported ended.moves)
      · cases h

/-- The rehearsal of an item ends it in moves. -/
lemma Rehearsal.moves (rehearsal : Rehearsal primary k task b ts b') (dry : o.dryRun = true)
    (focused : b.currentIndex = some k) (found : b.items[k]? = some (.signed task)) :
    Moves setup o start b past ts b' := by
  have simulated : ∀ {answer x}, Turn.Plain ⟨.call (.simulate primary), answer, x⟩ :=
    Turn.plain_call (.simulate primary) rfl _ _
  cases rehearsal with
  | passed x y =>
      exact .step (.plain simulated) (Move.rehearsed dry focused found (.inl rfl) y).moves
  | failed e x y z =>
      exact .step (.plain simulated) (.step (.plain (Turn.plain_note rfl))
        (Move.rehearsed dry focused found (.inr rfl) z).moves)

end

/-! ## All items -/

/-- How working on the items in order can go, where `K` is what is done with one item. -/
inductive Rounds (K : Transaction → Nat → Task → Board → List Turn → Board → Prop) :
    List ((Task × Option Transaction) × Nat) → Board → List Turn → Board → Prop
  | done (b) : Rounds K [] b [] b
  | unsigned {task index work b ts b'} (rest : Rounds K work b ts b') :
      Rounds K (((task, none), index) :: work) b ts b'
  | stopped (task primary index work b x) :
      Rounds K (((task, some primary), index) :: work) b [⟨.stopped, true, x⟩] b
  | worked {task primary index work b ts b₁ us b'} (x y)
      (item : K primary index task (b.focus index) ts b₁) (rest : Rounds K work b₁ us b') :
      Rounds K (((task, some primary), index) :: work) b
        (⟨.stopped, false, x⟩ :: ⟨.publish (b.focus index), (), y⟩ :: (ts ++ us)) b'

section

variable {work : List ((Task × Option Transaction) × Nat)} {b b' : Board} {ts : List Turn}

lemma Submitted.rounds {setup : Setup} {s : PlanSettings}
    (submitted : Submitted setup s work b ts b') : Rounds (Handled setup s) work b ts b' := by
  induction submitted with
  | done b => exact .done b
  | unsigned rest ih => exact .unsigned ih
  | stopped task primary index work b x => exact .stopped task primary index work b x
  | handled x y handled rest ih => exact .worked x y handled ih

lemma Rehearsed.rounds (rehearsed : Rehearsed work b ts b') : Rounds Rehearsal work b ts b' := by
  induction rehearsed with
  | done b => exact .done b
  | unsigned rest ih => exact .unsigned ih
  | stopped task primary index work b x => exact .stopped task primary index work b x
  | simulated x y rehearsal rest ih => exact .worked x y rehearsal ih

variable {K : Transaction → Nat → Task → Board → List Turn → Board → Prop} {d : Desk}
  {past : List Turn}

/-- A cancellation that is known keeps the next item from being worked on. -/
lemma Rounds.of_stopped (rounds : Rounds K work b ts b')
    (stopped : (d.afterAll past).stopped = true) (admits : d.Admits (past ++ ts)) :
    b' = b ∧ ∀ t ∈ ts, t.Plain := by
  induction rounds with
  | done => simp
  | unsigned rest ih => exact ih admits
  | stopped => simp
  | worked x y item rest ih =>
      have look := admits.fits.stopped rfl
      rw [stopped] at look
      cases look

/-- What work on one item has to keep to: it touches this item only, it goes in moves, and it ends
the item, unless it was told of a cancellation and no attempt failed for another reason. -/
def Orderly (setup : Setup) (o : Options) (start : Board)
    (K : Transaction → Nat → Task → Board → List Turn → Board → Prop) : Prop :=
  ∀ ⦃primary k task b ts b' past⦄, K primary k task b ts b' → start.afterAll past = b →
    b.currentIndex = some k → b.items[k]? = some (.signed task) → start.failures k past = [] →
    Moves setup o start b past ts b' ∧ b.Touched k b' ∧ Shows (b.Touched k) ts ∧
      (b'.Ended k ∨ (∃ t ∈ ts, t.tellsStop = true) ∧
        ∀ e ∈ start.failures k (past ++ ts), e = .cancelled)

lemma orderly_handled (setup : Setup) (o : Options) (start : Board) :
    Orderly setup o start (Handled setup (setup.planSettings o)) := by
  intro primary k task b ts b' past handled here focused found fresh
  obtain ⟨moves, ended⟩ := handled.moves here focused found fresh
  exact ⟨moves, handled.touched, handled.shows, ended⟩

lemma orderly_rehearsal {o : Options} (dry : o.dryRun = true) (setup : Setup) (start : Board) :
    Orderly setup o start Rehearsal := by
  intro primary k task b ts b' past rehearsal here focused found fresh
  exact ⟨rehearsal.moves dry focused found, rehearsal.touched, rehearsal.shows,
    .inl rehearsal.ended⟩

/-- How the board stands before the item with the index `m` and those behind it are worked on. -/
structure Ready (start b : Board) (past : List Turn) (m : Nat)
    (slots : List (Task × Option Transaction)) : Prop where
  ended : ∀ j < m, b.Ended j
  current : ∀ j, b.currentIndex = some j → j < m
  signed : ∀ {n task primary}, slots[n]? = some (task, some primary) →
    b.items[m + n]? = some (.signed task)
  unsigned : ∀ {n task}, slots[n]? = some (task, none) → b.Ended (m + n)
  fresh : ∀ j, m ≤ j → start.failures j past = []

namespace Ready

variable {start b₁ : Board} {m : Nat} {task : Task} {slots : List (Task × Option Transaction)}
  {us : List Turn}

/-- As long as only plain turns follow, an item without an end has no failures. -/
lemma left (ready : Ready start b past m slots) (plain : ∀ t ∈ ts, t.Plain) (k : Nat) :
    b.Ended k ∨ ∀ e ∈ start.failures k (past ++ ts), e = .cancelled := by
  rcases Nat.lt_or_ge k m with h | h
  · exact .inl (ready.ended k h)
  · refine .inr ?_
    rw [Board.failures_append, ready.fresh k h,
      Board.failures_of_unfailed fun t ht => (plain t ht).unfailed]
    simp

/-- An item without a signature is passed over. -/
lemma skip (ready : Ready start b past m ((task, none) :: slots)) :
    Ready start b past (m + 1) slots where
  ended j h := by
    rcases Nat.lt_succ_iff_lt_or_eq.1 h with h | rfl
    · exact ready.ended j h
    · simpa using ready.unsigned (n := 0) rfl
  current j h := Nat.lt_succ_of_lt (ready.current j h)
  signed h := by simpa [Nat.add_assoc, Nat.add_comm 1] using ready.signed (n := _ + 1) h
  unsigned h := by simpa [Nat.add_assoc, Nat.add_comm 1] using ready.unsigned (n := _ + 1) h
  fresh j h := ready.fresh j (Nat.le_of_succ_le h)

/-- Work on one item tells nothing about the items behind it. -/
lemma fresh_of_touched {slot : Task × Option Transaction}
    (ready : Ready start b past m (slot :: slots)) (here : start.afterAll past = b) {x y : Bool}
    (shows : Shows ((b.focus m).Touched m) ts) {j : Nat} (behind : m < j) :
    start.failures j (past ++ (⟨.stopped, false, x⟩ :: ⟨.publish (b.focus m), (), y⟩ :: ts)) =
      [] := by
  have elsewhere : (b.focus m).currentIndex ≠ some j := by
    simpa [Board.focus] using Nat.ne_of_lt behind
  have later : Shows (fun c => c.currentIndex ≠ some j) ts :=
    shows.mono fun c touched => by rwa [touched.currentIndex]
  have none : (b.focus m).failures j ts = [] := Board.gather_elsewhere elsewhere later
  have begins : b.failures j [⟨.stopped, false, x⟩, ⟨.publish (b.focus m), (), y⟩] = [] :=
    Board.failures_of_unfailed (by simp [Turn.failure?])
  rw [Board.failures_append, ready.fresh j (Nat.le_of_lt behind), here, List.nil_append,
    ← List.nil_append ts, ← List.cons_append, ← List.cons_append, Board.failures_append, begins]
  exact none

/-- When an item has ended, the next ones can be worked on. -/
lemma next {primary : Transaction} (ready : Ready start b past m ((task, some primary) :: slots))
    (here : start.afterAll past = b) {x y : Bool} (touched : (b.focus m).Touched m b₁)
    (shows : Shows ((b.focus m).Touched m) ts) (ended : b₁.Ended m) :
    Ready start b₁ (past ++ (⟨.stopped, false, x⟩ :: ⟨.publish (b.focus m), (), y⟩ :: ts)) (m + 1)
      slots where
  ended j h := by
    rcases Nat.lt_succ_iff_lt_or_eq.1 h with h | rfl
    · exact touched.ended (ready.ended j h)
    · exact ended
  current j h := by
    rw [touched.currentIndex] at h
    obtain rfl := Option.some.inj h
    exact Nat.lt_succ_self m
  signed {n _ _} h := by
    rw [touched.getElem?_of_ne (by omega)]
    simpa [Board.focus, Nat.add_assoc, Nat.add_comm 1] using ready.signed (n := n + 1) h
  unsigned {n _} h := by
    have ended : b.Ended (m + 1 + n) := by
      simpa [Nat.add_assoc, Nat.add_comm 1] using ready.unsigned (n := n + 1) h
    exact touched.ended ended
  fresh j h := ready.fresh_of_touched here shows h

end Ready

lemma slots_of_cons {α : Type} {a : α} {index m : Nat} {work : List (α × Nat)} {slots : List α}
    (inOrder : (a, index) :: work = slots.zipIdx m) :
    ∃ rest, slots = a :: rest ∧ index = m ∧ work = rest.zipIdx (m + 1) := by
  cases slots with
  | nil => simp at inOrder
  | cons c rest =>
      rw [List.zipIdx_cons] at inOrder
      obtain ⟨same, rfl⟩ := List.cons.inj inOrder
      obtain ⟨rfl, rfl⟩ := Prod.mk.inj same
      exact ⟨rest, rfl, rfl, rfl⟩

/-- Between its plan and its end a run works in moves, item by item.  An item that is left without
an end has no failures but cancellations. -/
lemma Rounds.moves {setup : Setup} {o : Options} (orderly : Orderly setup o d.board K)
    (rounds : Rounds K work b ts b') {m : Nat} {slots : List (Task × Option Transaction)}
    (here : d.board.afterAll past = b) (ready : Ready d.board b past m slots)
    (inOrder : work = slots.zipIdx m) (admits : d.Admits (past ++ ts))
    (active : ShowsActive (past ++ ts)) :
    Moves setup o d.board b past ts b' ∧ ∀ k, b'.Ended k ∨
      ∀ e ∈ d.board.failures k (past ++ ts), e = .cancelled := by
  induction rounds generalizing past m slots with
  | done b => exact ⟨.done b past, ready.left (by simp)⟩
  | stopped task primary index work b x =>
      exact ⟨moves_of_plain (by simp), ready.left (by simp)⟩
  | unsigned rest ih =>
      obtain ⟨slots, rfl, rfl, rfl⟩ := slots_of_cons inOrder
      exact ih here ready.skip rfl admits active
  | @worked task primary index work b ts b₁ us b' x y item rest ih =>
      obtain ⟨slots, rfl, rfl, rfl⟩ := slots_of_cons inOrder
      have signed : b.items[index]? = some (.signed task) := ready.signed (n := 0) rfl
      have focuses : Moves setup o d.board b past
          [⟨.stopped, false, x⟩, ⟨.publish (b.focus index), (), y⟩] (b.focus index) :=
        .step (.plain (by simp)) (Move.focused signed ready.current ready.ended y).moves
      have fresh : d.board.failures index
          (past ++ [⟨.stopped, false, x⟩, ⟨.publish (b.focus index), (), y⟩]) = [] := by
        rw [Board.failures_append, ready.fresh index (Nat.le_refl _),
          Board.failures_of_unfailed (by simp [Turn.failure?]), List.append_nil]
      obtain ⟨moves, touched, shows, ended⟩ := orderly item
        (focuses.afterAll here) rfl signed fresh
      -- What comes after the item, from the turns that it took.
      generalize taken : past ++ (⟨.stopped, false, x⟩ :: ⟨.publish (b.focus index), (), y⟩ :: ts) =
        past'
      have split : past ++ (⟨.stopped, false, x⟩ :: ⟨.publish (b.focus index), (), y⟩ :: (ts ++ us))
          = past' ++ us := by simp [← taken]
      have sofar : Moves setup o d.board b past
          (⟨.stopped, false, x⟩ :: ⟨.publish (b.focus index), (), y⟩ :: ts) b₁ :=
        focuses.trans moves
      have there : d.board.afterAll past' = b₁ := by
        rw [← taken, Board.afterAll_append, here, sofar.board]
      rw [split] at admits active ⊢
      rcases ended with ended | ⟨⟨t, mem, tells⟩, cancelled⟩
      · obtain ⟨later, left⟩ := ih there (taken ▸ ready.next here touched shows ended) rfl admits
          active
        exact ⟨sofar.trans (taken ▸ later), left⟩
      · have stopped : (d.afterAll past').stopped = true := by
          refine (Desk.admits_append.1 admits).1.stopped_of_tellsStop ?_ tells
            (shows_append.1 active).1
          simp [← taken, mem]
        obtain ⟨rfl, plain⟩ := rest.of_stopped stopped admits
        refine ⟨sofar.trans (moves_of_plain plain), fun k => ?_⟩
        rw [Board.failures_append, Board.failures_of_unfailed fun t ht => (plain t ht).unfailed,
          List.append_nil, ← taken]
        rcases Nat.lt_trichotomy k index with before | rfl | behind
        · exact .inl (touched.ended (ready.ended k before))
        · exact .inr (by simpa using cancelled)
        · exact .inr (by simp [ready.fresh_of_touched here shows behind])

end

/-! ## Before the work -/

/-- An item as it stands when the outcome of signing is taken in. -/
def settledItem (task : Task) : Option SignerError → Item
  | none => .signed task
  | some e => .refused task e.message

section

variable {setup : Setup} {o : Options} {start b b' : Board} {plan : Plan} {past ts : List Turn}

/-- Before an item comes into work no attempt at it fails. -/
lemma failures_of_idle {k : Nat} (idle : b.currentIndex = none)
    (shows : Shows (fun c => c.currentIndex = none) ts) : b.failures k ts = [] :=
  Board.gather_elsewhere (by simp [idle]) (shows.mono fun c h => by simp [h])

variable {entries : List ((Task × Transaction × Option SignerError) × Nat)}
  {slots : List (Option Transaction)}

lemma Settled.idle (settled : Settled entries b ts slots b') (idle : b.currentIndex = none) :
    b'.currentIndex = none ∧ Shows (fun c => c.currentIndex = none) ts := by
  induction settled with
  | done => exact ⟨idle, shows_nil⟩
  | signed x settled ih | refused x y settled ih =>
      obtain ⟨idle', shows⟩ := ih idle
      exact ⟨idle', by simpa [Step.board?, Board.update, idle] using shows⟩

/-- The items from `m` on are as the outcome of signing makes them. -/
def SettledFrom (m : Nat) (outcomes : List (Task × Transaction × Option SignerError)) (b : Board) :
    Prop :=
  ∀ ⦃n task t error⦄, outcomes[n]? = some (task, t, error) →
    b.items[m + n]? = some (settledItem task error)

/-- The items from `m` on wait for the outcome of signing. -/
def PendingFrom (m : Nat) (outcomes : List (Task × Transaction × Option SignerError)) (b : Board) :
    Prop :=
  ∀ ⦃n task t error⦄, outcomes[n]? = some (task, t, error) → b.items[m + n]? = some (.pending task)

section

variable {m : Nat} {task : Task} {t : Transaction} {error : Option SignerError}
  {outcomes : List (Task × Transaction × Option SignerError)} {change : Item → Item}

lemma PendingFrom.update (pending : PendingFrom m ((task, t, error) :: outcomes) b) :
    PendingFrom (m + 1) outcomes (b.update m change) := by
  intro n _ _ _ h
  rw [Board.getElem?_update, if_neg (by omega)]
  simpa [Nat.add_assoc, Nat.add_comm 1] using pending (n := n + 1) h

/-- One item settled, and then the ones behind it. -/
lemma settledFrom_cons (pending : PendingFrom m ((task, t, error) :: outcomes) b)
    (changes : change (.pending task) = settledItem task error)
    (kept : ∀ j < m + 1, b'.items[j]? = (b.update m change).items[j]?)
    (settled : SettledFrom (m + 1) outcomes b') :
    (∀ j < m, b'.items[j]? = b.items[j]?) ∧ SettledFrom m ((task, t, error) :: outcomes) b' := by
  constructor
  · intro j h
    rw [kept j (Nat.lt_succ_of_lt h), Board.getElem?_update, if_neg (by omega)]
  · intro n task' t' error' h
    cases n with
    | zero =>
        obtain ⟨rfl, rfl, rfl⟩ : task = task' ∧ t = t' ∧ error = error' := by simpa using h
        have found : b.items[m]? = some (.pending task) := pending (n := 0) rfl
        rw [Nat.add_zero, kept m (Nat.lt_succ_self m), Board.getElem?_update, if_pos rfl, found,
          Option.map_some, changes]
    | succ n => simpa [Nat.add_assoc, Nat.add_comm 1] using settled (n := n) (by simpa using h)

end

/-- Once the plan is made, all items wait. -/
lemma pendingFrom_planned (plan : Plan) (slots : List (Transaction × Option SignerError)) :
    PendingFrom 0 (plan.tasks.zip slots) (Board.opened.planned plan.tasks) := by
  intro n task t error h
  have planned := (List.getElem?_zip_eq_some.1 h).1
  simp [Board.planned, planned]

/-- Taking in the outcome of signing goes in moves. -/
lemma Settled.moves (settled : Settled entries b ts slots b') {m : Nat}
    {outcomes : List (Task × Transaction × Option SignerError)}
    (inOrder : entries = outcomes.zipIdx m) (idle : b.currentIndex = none)
    (pending : PendingFrom m outcomes b) : Moves setup o start b past ts b' := by
  induction settled generalizing past m outcomes with
  | done b => exact .done b past
  | signed x settled ih =>
      obtain ⟨outcomes, rfl, rfl, rfl⟩ := slots_of_cons inOrder
      exact .step (.signed idle (pending (n := 0) rfl) x) (ih rfl idle pending.update)
  | refused x y settled ih =>
      obtain ⟨outcomes, rfl, rfl, rfl⟩ := slots_of_cons inOrder
      exact .step (.plain (Turn.plain_note rfl))
        (.step (.refused idle (pending (n := 0) rfl) _ y) (ih rfl idle pending.update))

/-- Taking in the outcome of signing leaves every item as its slot says. -/
lemma Settled.settledFrom (settled : Settled entries b ts slots b') {m : Nat}
    {outcomes : List (Task × Transaction × Option SignerError)}
    (inOrder : entries = outcomes.zipIdx m) (pending : PendingFrom m outcomes b) :
    (∀ j < m, b'.items[j]? = b.items[j]?) ∧ SettledFrom m outcomes b' := by
  induction settled generalizing m outcomes with
  | done b =>
      cases outcomes with
      | nil => exact ⟨by simp, by simp [SettledFrom]⟩
      | cons a rest => simp at inOrder
  | signed x settled ih | refused x y settled ih =>
      obtain ⟨outcomes, rfl, rfl, rfl⟩ := slots_of_cons inOrder
      obtain ⟨kept, others⟩ := ih rfl pending.update
      exact settledFrom_cons pending rfl kept others

/-- Every slot was made from the outcome at its place. -/
lemma Settled.slot_of_getElem? {outcomes : List (Task × Transaction × Option SignerError)}
    (settled : Settled outcomes.zipIdx b ts slots b') {n : Nat} {filling : Option Transaction}
    (h : slots[n]? = some filling) : ∃ task t error, outcomes[n]? = some (task, t, error) ∧
      Slot b' ((task, t, error), n) filling := by
  obtain ⟨inside, rfl⟩ := List.getElem?_eq_some_iff.1 h
  have filled := settled.filled
  have inside' : n < outcomes.length := by simpa [← filled.length_eq] using inside
  refine ⟨_, _, _, List.getElem?_eq_getElem inside', ?_⟩
  have slot := filled.get (i := n) (by simpa using inside') inside
  simpa only [List.get_eq_getElem, List.getElem_zipIdx, Nat.zero_add] using slot

/-- Once the outcome of signing is taken in, the items are ready to be worked on. -/
lemma ready_of_settled {outcome : Signatures}
    (settled : Settled (Run.entries plan outcome) b ts slots b')
    (outcomes : SettledFrom 0 (plan.tasks.zip (outcome.transactions.zip outcome.errors)) b')
    (idle : b'.currentIndex = none) (fresh : ∀ k, start.failures k past = []) :
    Ready start b' past 0 (plan.tasks.zip slots) where
  ended j h := absurd h j.not_lt_zero
  current j h := by
    rw [idle] at h
    cases h
  signed {n task primary} h := by
    obtain ⟨planned, slotted⟩ := List.getElem?_zip_eq_some.1 h
    obtain ⟨task', t, error, found, slot⟩ := settled.slot_of_getElem? slotted
    obtain rfl := Option.some.inj ((List.getElem?_zip_eq_some.1 found).1.symm.trans planned)
    cases slot with
    | signed => exact outcomes found
  unsigned {n task} h := by
    obtain ⟨-, slotted⟩ := List.getElem?_zip_eq_some.1 h
    obtain ⟨task', t, error, found, slot⟩ := settled.slot_of_getElem? slotted
    cases slot with
    | refused _ _ e ended => rwa [Nat.zero_add]
  fresh j _ := fresh j

lemma Worked.moves {d : Desk} {work : List (Task × Option Transaction)}
    (worked : Worked setup o work.zipIdx b ts b') (here : d.board.afterAll past = b)
    (ready : Ready d.board b past 0 work) (admits : d.Admits (past ++ ts))
    (active : ShowsActive (past ++ ts)) :
    Moves setup o d.board b past ts b' ∧ ∀ k, b'.Ended k ∨
      ∀ e ∈ d.board.failures k (past ++ ts), e = .cancelled := by
  cases worked with
  | submitted plain submitted =>
      exact submitted.rounds.moves (orderly_handled setup o d.board) here ready rfl admits active
  | rehearsed dry rehearsed =>
      exact rehearsed.rounds.moves (orderly_rehearsal dry setup d.board) here ready rfl admits
        active

end

/-! ## Whole runs -/

section

variable {d : Desk} {setup : Setup} {o : Options} {plan : Plan} {b b' : Board} {past ts : List Turn}

/-- How a run comes from its plan to the work on the items. -/
lemma ready_to_work {outcome : Signatures} {slots : List (Option Transaction)}
    {us vs : List Turn} {x y : Bool} (ordered : Planning.ClaimsLead plan.tasks)
    (signed : Talk.Goes (signing setup plan) us (some outcome))
    (settled : Settled (entries plan outcome) (Board.opened.planned plan.tasks) vs slots b)
    (here : d.board.afterAll past = Board.opened) (fresh : ∀ k, d.board.failures k past = []) :
    let first := ⟨.publish (Board.opened.planned plan.tasks), (), x⟩ ::
      (us ++ ⟨.note (.signed outcome.path plan.tasks.length outcome.failed), (), y⟩ :: vs)
    Moves setup o d.board Board.opened past first b ∧
      Ready d.board b (past ++ first) 0 (plan.tasks.zip slots) ∧
      SettledFrom 0 (plan.tasks.zip (outcome.transactions.zip outcome.errors)) b ∧
      Shows (fun c => c.currentIndex = none) first := by
  intro first
  have pending := pendingFrom_planned plan (outcome.transactions.zip outcome.errors)
  have quiet := quiet_of_goes_signing signed
  obtain ⟨idle, shows⟩ := settled.idle rfl
  obtain ⟨-, outcomes⟩ := settled.settledFrom rfl pending
  have signs : Moves setup o d.board (Board.opened.planned plan.tasks)
      (past ++ [⟨.publish (Board.opened.planned plan.tasks), (), x⟩])
      (us ++ [⟨.note (.signed outcome.path plan.tasks.length outcome.failed), (), y⟩])
      (Board.opened.planned plan.tasks) := by
    refine moves_of_idle rfl (List.forall_mem_append.2 ⟨fun t ht => (quiet t ht).1, ?_⟩)
    simp [Step.board?]
  have all : Moves setup o d.board Board.opened past first b := by
    have steps := Moves.step (Move.planned ordered x rfl rfl)
      (signs.trans (settled.moves rfl rfl pending))
    simpa [first] using steps
  have silent : Shows (fun c => c.currentIndex = none) first := by
    have planned : (Board.opened.planned plan.tasks).currentIndex = none := rfl
    simp [first, Step.board?, shows, shows_of_quiet quiet, planned]
  refine ⟨all, ready_of_settled settled outcomes idle fun k => ?_, outcomes, silent⟩
  rw [Board.failures_append, fresh k, here, failures_of_idle rfl silent, List.append_nil]

/-- What a run does with its plan goes in moves.  An item that is left without an end has no
failures but cancellations. -/
lemma Acted.moves {r : Except ExitError Unit} (acted : Acted setup o plan Board.opened ts r b')
    (ordered : Planning.ClaimsLead plan.tasks)
    (here : d.board.afterAll past = Board.opened) (fresh : ∀ k, d.board.failures k past = [])
    (admits : d.Admits (past ++ ts)) (active : ShowsActive (past ++ ts)) :
    Moves setup o d.board Board.opened past ts b' ∧ ∀ k, b'.Ended k ∨
      ∀ e ∈ d.board.failures k (past ++ ts), e = .cancelled := by
  -- Up to the work the items wait, and nothing is told about them.
  have waits : ∀ {us : List Turn} {x : Bool}, (∀ t ∈ us, t.step.board? = none) →
      Moves setup o d.board Board.opened past
        (⟨.publish (Board.opened.planned plan.tasks), (), x⟩ :: us)
        (Board.opened.planned plan.tasks) ∧
      ∀ k, (Board.opened.planned plan.tasks).Ended k ∨ ∀ e ∈ d.board.failures k
        (past ++ ⟨.publish (Board.opened.planned plan.tasks), (), x⟩ :: us), e = .cancelled := by
    intro us x silent
    refine ⟨.step (.planned ordered x rfl rfl) (moves_of_idle rfl silent), fun k => .inr ?_⟩
    have planned : (Board.opened.planned plan.tasks).currentIndex = none := rfl
    have shows : Shows (fun c => c.currentIndex = none)
        (⟨.publish (Board.opened.planned plan.tasks), (), x⟩ :: us) := by
      refine shows_cons.2 ⟨by simp [Step.board?, planned], fun t ht c hc => ?_⟩
      rw [silent t ht] at hc
      cases hc
    rw [Board.failures_append, fresh k, here, failures_of_idle rfl shows]
    simp
  cases acted with
  | nothing empty x y | refused refused x y => exact waits (by simp [Step.board?])
  | unsigned passed x signed => exact waits fun t ht => (quiet_of_goes_signing signed t ht).1
  | @worked us outcome vs slots b₁ ws _ passed x signed y settled worked =>
      obtain ⟨moves, ready, -⟩ :=
        ready_to_work (o := o) (x := x) (y := y) ordered signed settled here fresh
      have split : past ++ ⟨.publish (Board.opened.planned plan.tasks), (), x⟩ :: (us ++
            ⟨.note (.signed outcome.path plan.tasks.length outcome.failed), (), y⟩ :: (vs ++ ws))
          = past ++ (⟨.publish (Board.opened.planned plan.tasks), (), x⟩ ::
            (us ++ ⟨.note (.signed outcome.path plan.tasks.length outcome.failed), (), y⟩ :: vs)) ++
              ws := by simp
      rw [split] at admits active ⊢
      obtain ⟨works, left⟩ :=
        worked.moves (moves.afterAll here) ready admits active
      refine ⟨?_, left⟩
      simpa using moves.trans works

/-- What lies between the start of a run and its end goes in moves. -/
lemma Executed.moves {r : Except ExitError Unit} {x : Bool}
    (executed : Executed setup o Board.opened ts r b')
    (admits : d.Admits (⟨.publish Board.opened, (), x⟩ :: ts)) :
    Moves setup o d.board Board.opened [⟨.publish Board.opened, (), x⟩] ts b' ∧
      ∀ k, b'.Ended k ∨
        ∀ e ∈ d.board.failures k (⟨.publish Board.opened, (), x⟩ :: ts), e = .cancelled := by
  have active : ShowsActive (⟨.publish Board.opened, (), x⟩ :: ts) := by
    refine shows_cons.2 ⟨?_, executed.showsActive⟩
    rintro _ ⟨⟩
    rfl
  cases executed with
  | unplanned planned =>
      have quiet := quiet_of_goes_planning planned
      refine ⟨moves_of_idle rfl fun t ht => (quiet t ht).1, fun k => .inl ?_⟩
      simp [Board.Ended, Board.opened]
  | @planned ps plan us _ _ planned acted =>
      have quiet := quiet_of_goes_planning planned
      have plans : Moves setup o d.board Board.opened [⟨.publish Board.opened, (), x⟩] ps
          Board.opened := moves_of_idle rfl fun t ht => (quiet t ht).1
      have fresh : ∀ k, d.board.failures k ([⟨.publish Board.opened, (), x⟩] ++ ps) = [] := by
        intro k
        rw [Board.failures_append, Board.failures_of_unfailed (by simp [Turn.failure?]),
          List.nil_append]
        exact failures_of_idle rfl (shows_of_quiet quiet)
      have split : (⟨.publish Board.opened, (), x⟩ :: (ps ++ us) : List Turn) =
          [⟨.publish Board.opened, (), x⟩] ++ ps ++ us := by simp
      rw [split] at admits active ⊢
      obtain ⟨acts, left⟩ := acted.moves (Planning.claimsLead_of_goes_plan planned)
        (plans.afterAll rfl) fresh admits active
      exact ⟨plans.trans acts, left⟩

end

end Run

/-- Between its first board and its conclusion a run goes in moves.  An item that is left without an
end has no failures but cancellations. -/
lemma Desk.Ran.moves {d : Desk} {setup : Setup} {o : Options} {turns : List Turn}
    {result : Except ExitError Board} (ran : d.Ran setup o turns result) :
    ∃ x us outcome b vs b', turns = ⟨.publish Board.opened, (), x⟩ :: us ++ vs ∧
      Run.Executed setup o Board.opened us outcome b ∧ Run.Concluded b outcome vs result b' ∧
      Run.Moves setup o d.board Board.opened [⟨.publish Board.opened, (), x⟩] us b ∧
      ∀ k, b.Ended k ∨ ∀ e ∈ d.board.failures k (⟨.publish Board.opened, (), x⟩ :: us),
        e = .cancelled := by
  have admits := ran.admits
  obtain ⟨x, us, outcome, b, vs, b', rfl, executed, concluded⟩ := ran.course
  rw [← List.cons_append] at admits ⊢
  exact ⟨x, us, outcome, b, vs, b', rfl, executed, concluded,
    executed.moves (Desk.admits_append.1 admits).1⟩

end PoolExit
