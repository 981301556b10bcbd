import PoolExit.Proofs.Record
import PoolExit.Proofs.Whole

/-!
# What a run does next

From its opening to its end a run goes on in moves, and there are few kinds of them.  `Move` lists
them: each says which item it is about, how this item stood before, and what becomes of the board.
A move is one turn, except where a turn and the board that answers it belong together: what the
ledger takes is shown at once, and so is what it confirms.

`Item.Moved` is a move as one item sees it (`Move.item`).  A law about items or about the order of
the work is then a case analysis over these lists, and holds along the whole run (`Moves.keeps`).
-/

namespace PoolExit

/-! ## One item -/

/-- The last failure that was no cancellation. -/
def lastGenuine (errors : List ExitError) : Option ExitError :=
  errors.reverse.find? fun e => e ≠ .cancelled

lemma lastGenuine_eq_none {errors : List ExitError} :
    lastGenuine errors = none ↔ ∀ e ∈ errors, e = .cancelled := by
  simp [lastGenuine, List.find?_eq_none]

lemma genuine_of_lastGenuine {errors : List ExitError} {e : ExitError}
    (last : lastGenuine errors = some e) : e ∈ errors ∧ e ≠ .cancelled :=
  ⟨List.mem_reverse.1 (List.mem_of_find?_eq_some last), by simpa using List.find?_some last⟩

/-- Where the last failure is no cancellation, it is the last one that counts. -/
lemma lastGenuine_of_getLast? {errors : List ExitError} {e : ExitError}
    (last : errors.getLast? = some e) (genuine : e ≠ .cancelled) : lastGenuine errors = some e := by
  obtain ⟨front, rfl⟩ := List.getLast?_eq_some_iff.1 last
  simp [lastGenuine, genuine]

namespace Item

/-- An item whose primary draft is signed, before its first attempt. -/
def signed (task : Task) : Item := { task, status := .signed }

/-- An item whose primary draft was not signed. -/
def refused (task : Task) (reason : String) : Item :=
  { task, status := .error, error := some reason }

/-- An item that can be worked on: it is signed and has not ended. -/
def Ongoing (i : Item) : Prop := i.status = .signed ∨ i.status = .sent

lemma Ongoing.isTerminal {i : Item} (ongoing : i.Ongoing) : i.status.isTerminal = false := by
  rcases ongoing with h | h <;> rw [h] <;> rfl

/-- An item that has not ended is stopped with the reason. -/
lemma stop_of_not_terminal {i : Item} (goesOn : i.status.isTerminal = false) {next : Status}
    (final : next.isTerminal = true) (reason : String) :
    (i.stop next reason).2 = { i with status := next, error := some reason } := by
  have may : i.status.canAdvanceTo next = true := by
    cases next <;> cases final <;> cases h : i.status <;>
      simp [Status.canAdvanceTo, Status.isTerminal, Status.rank, h] at goesOn ⊢
  simp [stop, advance, may]

lemma stop_of_terminal {i : Item} (ended : i.status.isTerminal = true) (next : Status)
    (reason : String) : (i.stop next reason).2 = i := by
  simp [stop, advance, Status.canAdvanceTo, ended]

/-- A submission is shown on an item in work, whether there was one before or not. -/
lemma submitted_of_ongoing {i : Item} (ongoing : i.Ongoing) (id : String) (fee : UInt64) :
    i.submitted id fee =
      { i with status := .sent, submissionId := some id, feeLevel := some fee } := by
  rcases ongoing with h | h <;>
    simp [submitted, advance, h, Status.canAdvanceTo, Status.isTerminal, Status.rank]

lemma landed_of_ongoing {i : Item} (ongoing : i.Ongoing) (id : String) (fee : UInt64) :
    i.landed id fee =
      { i with status := .confirmed, submissionId := some id, feeLevel := some fee } := by
  rcases ongoing with h | h <;>
    simp [landed, advance, h, Status.canAdvanceTo, Status.isTerminal, Status.rank]

/-- What can become of an item in one move, and what the turns of the move tell about it: what the
ledger took, what it confirmed and which attempt failed.  `past` are the failures before. -/
inductive Moved (dry : Bool) (past : List ExitError) (i : Item) :
    List (Signature × UInt64) → List Signature → List ExitError → Item → Prop
  | stayed : Moved dry past i [] [] [] i
  | failed (e) (ongoing : i.Ongoing) : Moved dry past i [] [] [e] i
  | signed {task} (pending : i = .pending task) : Moved dry past i [] [] [] (.signed task)
  | refused {task} (reason) (pending : i = .pending task) :
      Moved dry past i [] [] [] (.refused task reason)
  | begun (ongoing : i.Ongoing) (left : i.attempts < i.task.attempts.length) :
      Moved dry past i [] [] [] i.attempted
  | taken {v} (signature : Signature) (ongoing : i.Ongoing) (begun : 0 < i.attempts)
      (underWay : i.underWay? = some v) : Moved dry past i [(signature, v.feeLevel)] [] []
        (i.submitted signature.text v.feeLevel)
  | confirmed {signature : Signature} {fee} (sent : i.status = .sent)
      (id : i.submissionId = some signature.text) (level : i.feeLevel = some fee) :
      Moved dry past i [] [signature] [] (i.landed signature.text fee)
  | ended {e} (ongoing : i.Ongoing) (last : lastGenuine past = some e) :
      Moved dry past i [] [] [] (i.fail e.describe).2
  | rehearsed {task next reason} (dryRun : dry = true) (signed : i = .signed task)
      (final : next = .skipped ∨ next = .error) :
      Moved dry past i [] [] [] (i.stop next reason).2

end Item

/-- A move whose turns tell nothing. -/
lemma Item.Moved.of_untold {dry : Bool} {past : List ExitError} {i j : Item} {b : Board} {k : Nat}
    {ts : List Turn} (untaken : ∀ t ∈ ts, t.taken? = none)
    (unconfirmed : ∀ t ∈ ts, t.confirmed? = none) (unfailed : ∀ t ∈ ts, t.failure? = none)
    (moved : i.Moved dry past [] [] [] j) :
    i.Moved dry past (b.receipts k ts) (b.confirmations k ts) (b.failures k ts) j := by
  rwa [Board.receipts_of_untaken untaken, Board.confirmations_of_unconfirmed unconfirmed,
    Board.failures_of_unfailed unfailed]

namespace Run

/-- Once an attempt has begun, the board that is shown differs in its item only. -/
lemma Attempted.touched_within {setup : Setup} {s : PlanSettings} {primary : Transaction}
    {k number : Nat} {task : Task} {v : Variant} {b b' : Board} {ts : List Turn}
    {r : Except ExitError (Signature × UInt64)}
    (attempted : Attempted setup s primary k task number v b ts r b') {first last : List Turn}
    (split : ts = first ++ last) (begun : first ≠ []) (start : Board) (earlier : List Turn) :
    b.Touched k (start.afterAll (earlier ++ first)) := by
  have shows : Shows (b.Touched k) first := by
    have all := attempted.shows
    rw [split] at all
    exact (shows_append.1 all).1
  obtain ⟨t, rest, rfl⟩ := List.exists_cons_of_ne_nil begun
  have counts : ∃ x, t = ⟨.publish (b.update k Item.attempted), (), x⟩ := by
    cases attempted with
    | landed x sent | failed x y sent => exact ⟨x, (List.cons.inj split).1.symm⟩
  obtain ⟨x, rfl⟩ := counts
  rw [Board.afterAll_append, Board.afterAll_cons, Board.next_publish]
  exact Board.afterAll_of_shows (shows_cons.1 shows).2 (touched_attempted b k)

/-! ## The run -/

section

variable (setup : Setup) (o : Options) (start : Board)

/-- The turns end with an attempt at the item in work that failed. -/
def FailedAttempt (k : Nat) (turns : List Turn) (e : ExitError) : Prop :=
  ∃ before ts primary i v b', turns = before ++ ts ∧
    (start.afterAll before).currentIndex = some k ∧ (start.afterAll before).items[k]? = some i ∧
    i.task.attempts[i.attempts]? = some v ∧
    Goes (attempt setup (setup.planSettings o) primary k i.task i.attempts v)
      (start.afterAll before) ts (.error e) b'

/-- What a run that began on the board `start` can do next, after the turns `past`. -/
inductive Move (b : Board) (past : List Turn) : List Turn → Board → Prop
  | plain {t} (plain : t.Plain) : Move b past [t] b
  | idle {t} (silent : t.step.board? = none) (idle : b.currentIndex = none) : Move b past [t] b
  | planned {tasks} (ordered : Planning.ClaimsLead tasks) (x) (fresh : b.items = [])
      (idle : b.currentIndex = none) :
      Move b past [⟨.publish (b.planned tasks), (), x⟩] (b.planned tasks)
  | signed {k task} (idle : b.currentIndex = none) (found : b.items[k]? = some (.pending task))
      (x) : Move b past [⟨.publish (b.update k fun i => (i.advance .signed).2), (), x⟩]
        (b.update k fun i => (i.advance .signed).2)
  | refused {k task} (idle : b.currentIndex = none) (found : b.items[k]? = some (.pending task))
      (reason x) : Move b past [⟨.publish (b.update k fun i => (i.fail reason).2), (), x⟩]
        (b.update k fun i => (i.fail reason).2)
  | focused {k task} (found : b.items[k]? = some (.signed task))
      (later : ∀ j, b.currentIndex = some j → j < k) (ended : ∀ j < k, b.Ended j) (x) :
      Move b past [⟨.publish (b.focus k), (), x⟩] (b.focus k)
  | begun {k i} (focused : b.currentIndex = some k) (found : b.items[k]? = some i)
      (ongoing : i.Ongoing) (left : i.attempts < i.task.attempts.length) (x) :
      Move b past [⟨.publish (b.update k Item.attempted), (), x⟩] (b.update k Item.attempted)
  | failed {k i number fee e x} (focused : b.currentIndex = some k)
      (found : b.items[k]? = some i) (ongoing : i.Ongoing)
      (failed : FailedAttempt setup o start k
        (past ++ [⟨.note (.attemptFailed k i.task number fee e), (), x⟩]) e) :
      Move b past [⟨.note (.attemptFailed k i.task number fee e), (), x⟩] b
  | taken {k i v} (focused : b.currentIndex = some k) (found : b.items[k]? = some i)
      (ongoing : i.Ongoing) (begun : 0 < i.attempts) (underWay : i.underWay? = some v)
      (tx) (signature : Signature) (x y) :
      Move b past [⟨.call (.submit tx), .ok signature, x⟩,
          ⟨.publish (b.update k fun i => i.submitted signature.text v.feeLevel), (), y⟩]
        (b.update k fun i => i.submitted signature.text v.feeLevel)
  | confirmed {k i} {signature : Signature} {fee} (focused : b.currentIndex = some k)
      (found : b.items[k]? = some i) (sent : i.status = .sent)
      (id : i.submissionId = some signature.text) (level : i.feeLevel = some fee)
      (expiry variant failures x y z) :
      Move b past [⟨.call (.confirm signature expiry), .ok (), x⟩,
          ⟨.note (.confirmed k i.task signature fee variant failures), (), y⟩,
          ⟨.publish (b.update k fun i => i.landed signature.text fee), (), z⟩]
        (b.update k fun i => i.landed signature.text fee)
  | ended {k i e} (focused : b.currentIndex = some k) (found : b.items[k]? = some i)
      (ongoing : i.Ongoing) (last : lastGenuine (start.failures k past) = some e) (x) :
      Move b past [⟨.publish (b.update k fun i => (i.fail e.describe).2), (), x⟩]
        (b.update k fun i => (i.fail e.describe).2)
  | rehearsed {k task next reason} (dryRun : o.dryRun = true) (focused : b.currentIndex = some k)
      (found : b.items[k]? = some (.signed task)) (final : next = .skipped ∨ next = .error) (x) :
      Move b past [⟨.publish (b.update k fun i => (i.stop next reason).2), (), x⟩]
        (b.update k fun i => (i.stop next reason).2)

/-- One move after the other. -/
inductive Moves : Board → List Turn → List Turn → Board → Prop
  | done (b past) : Moves b past [] b
  | step {b past us b₁ ts b'} (move : Move setup o start b past us b₁)
      (rest : Moves b₁ (past ++ us) ts b') : Moves b past (us ++ ts) b'

end

section

variable {setup : Setup} {o : Options} {start b b₁ b' : Board} {past ts us : List Turn}

lemma Move.moves (move : Move setup o start b past us b') : Moves setup o start b past us b' := by
  simpa using Moves.step move (.done _ _)

lemma Moves.trans (first : Moves setup o start b past ts b₁)
    (second : Moves setup o start b₁ (past ++ ts) us b') :
    Moves setup o start b past (ts ++ us) b' := by
  induction first with
  | done b past => simpa using second
  | step move rest ih =>
      rw [List.append_assoc]
      exact .step move (ih (by simpa using second))

lemma moves_of_plain (plain : ∀ t ∈ ts, t.Plain) : Moves setup o start b past ts b := by
  induction ts generalizing past with
  | nil => exact .done b past
  | cons t ts ih => exact .step (.plain (plain t (by simp))) (ih fun u hu => plain u (by simp [hu]))

/-- Before the work on the items begins, turns that show no board are of no account. -/
lemma moves_of_idle (idle : b.currentIndex = none) (silent : ∀ t ∈ ts, t.step.board? = none) :
    Moves setup o start b past ts b := by
  induction ts generalizing past with
  | nil => exact .done b past
  | cons t ts ih =>
      exact .step (.idle (silent t (by simp)) idle) (ih fun u hu => silent u (by simp [hu]))

/-- A move ends on the board that is shown then. -/
lemma Move.board (move : Move setup o start b past us b') : b.afterAll us = b' := by
  cases move with
  | plain plain => exact Board.next_of_silent plain.silent
  | idle silent => exact Board.next_of_silent silent
  | _ => rfl

lemma Moves.board (moves : Moves setup o start b past ts b') : b.afterAll ts = b' := by
  induction moves with
  | done => rfl
  | step move rest ih => rw [Board.afterAll_append, move.board, ih]

lemma Moves.afterAll (moves : Moves setup o start b past ts b') (here : start.afterAll past = b) :
    start.afterAll (past ++ ts) = b' := by
  rw [Board.afterAll_append, here, moves.board]

/-- What every move keeps holds in the end. -/
theorem Moves.keeps {I : Board → List Turn → Prop}
    (keeps : ∀ {b past us b'}, start.afterAll past = b → I b past →
      Move setup o start b past us b' → I b' (past ++ us))
    (moves : Moves setup o start b past ts b') (here : start.afterAll past = b) (holds : I b past) :
    I b' (past ++ ts) := by
  induction moves with
  | done => simpa using holds
  | step move rest ih =>
      rw [← List.append_assoc]
      exact ih (move.moves.afterAll here) (keeps here holds move)

/-! ## Places among the moves -/

/-- Every turn stands within a move, with moves before and after. -/
lemma Moves.place (moves : Moves setup o start b past ts b') {before after : List Turn} {t : Turn}
    (split : ts = before ++ t :: after) :
    ∃ first first' last' last b₁ b₂, before = first ++ first' ∧ after = last' ++ last ∧
      Moves setup o start b past first b₁ ∧
      Move setup o start b₁ (past ++ first) (first' ++ t :: last') b₂ ∧
      Moves setup o start b₂ (past ++ first ++ (first' ++ t :: last')) last b' := by
  induction moves generalizing before with
  | done => simp at split
  | @step b past us b₁ ts b' move rest ih =>
      rcases place_cases split with ⟨last', rfl, rfl⟩ | ⟨between, rfl, rfl⟩
      · exact ⟨[], before, last', ts, b, b₁, rfl, rfl, .done _ _, by simpa using move,
          by simpa using rest⟩
      · obtain ⟨first, first', last', last, c, c', rfl, rfl, earlier, here, later⟩ := ih rfl
        refine ⟨us ++ first, first', last', last, c, c', by simp, rfl, .step move earlier, ?_, ?_⟩
        · simpa using here
        · simpa using later

/-- A call begins its move. -/
lemma Move.first_of_call (move : Move setup o start b past us b') {before after : List Turn}
    {t : Turn} {c : Call} (calls : t.step.call? = some c) (split : us = before ++ t :: after) :
    before = [] := by
  have only : ∀ {u : Turn} {vs : List Turn}, (∀ v ∈ vs, ¬ v.step.call? = some c) →
      u :: vs = before ++ t :: after → before = [] := by
    intro u vs callless same
    cases before with
    | nil => rfl
    | cons v before =>
        obtain ⟨rfl, rfl⟩ := List.cons.inj same
        exact absurd calls (callless t (by simp))
  cases move <;> exact only (by simp [Step.call?]) split

/-- At a call the moves can be cut in two. -/
lemma Moves.cut (moves : Moves setup o start b past ts b') {before after : List Turn} {t : Turn}
    {c : Call} (calls : t.step.call? = some c) (split : ts = before ++ t :: after) :
    ∃ b₁, Moves setup o start b past before b₁ ∧
      Moves setup o start b₁ (past ++ before) (t :: after) b' := by
  obtain ⟨first, first', last', last, b₁, b₂, rfl, rfl, earlier, move, later⟩ := moves.place split
  obtain rfl := move.first_of_call calls rfl
  rw [List.append_nil]
  exact ⟨b₁, earlier, .step move later⟩

/-- A board that is shown ends its move. -/
lemma Move.last_of_shown (move : Move setup o start b past us b') {before after : List Turn}
    {t : Turn} {c : Board} (shows : t.step.board? = some c) (split : us = before ++ t :: after) :
    after = [] ∧ b' = c := by
  have only : ∀ (vs : List Turn) {d : Board} {x : Bool}, (∀ v ∈ vs, v.step.board? = none) →
      vs ++ [(⟨.publish d, (), x⟩ : Turn)] = before ++ t :: after → after = [] ∧ d = c := by
    intro vs d x silent same
    obtain ⟨-, rfl, rfl⟩ := place_unique (P := fun t => t.step.board? = some c) vs [] shows
      (fun v hv => by simp [silent v hv]) (by simp) same
    exact ⟨rfl, Option.some.inj shows⟩
  have none : ∀ {u : Turn}, u.step.board? = none → [u] ≠ before ++ t :: after := by
    intro u silent same
    have mem : t ∈ [u] := by simp [same]
    rw [List.mem_singleton.1 mem, silent] at shows
    cases shows
  cases move with
  | plain plain => exact absurd split (none plain.silent)
  | idle silent => exact absurd split (none silent)
  | failed => exact absurd split (none rfl)
  | planned | signed | refused | focused | begun | ended | rehearsed =>
      exact only [] (by simp) split
  | taken => exact only [_] (by simp [Step.board?]) split
  | confirmed => exact only [_, _] (by simp [Step.board?]) split

/-! ## A move as an item sees it -/

/-- A board that is shown with one item changed moves this item, and tells nothing. -/
lemma moved_of_shown {dryRun : Bool} {k k₀ : Nat} {i i₀ : Item} {change : Item → Item} {x : Bool}
    (found : b.items[k]? = some i) (found₀ : b.items[k₀]? = some i₀)
    (moved : i₀.Moved dryRun (start.failures k₀ past) [] [] [] (change i₀)) :
    ∃ j, (b.update k₀ change).items[k]? = some j ∧
      i.Moved dryRun (start.failures k past)
        (b.receipts k [⟨.publish (b.update k₀ change), (), x⟩])
        (b.confirmations k [⟨.publish (b.update k₀ change), (), x⟩])
        (b.failures k [⟨.publish (b.update k₀ change), (), x⟩]) j := by
  rw [Board.getElem?_update]
  by_cases here : k₀ = k
  · subst here
    obtain rfl := Option.some.inj (found₀.symm.trans found)
    refine ⟨change i₀, by simp [found], moved.of_untold ?_ ?_ ?_⟩ <;>
      simp [Turn.taken?, Turn.confirmed?, Turn.failure?]
  · refine ⟨i, by simpa [here] using found, Item.Moved.stayed.of_untold ?_ ?_ ?_⟩ <;>
      simp [Turn.taken?, Turn.confirmed?, Turn.failure?]

/-- What a move means to one item. -/
theorem Move.item (move : Move setup o start b past us b') (k : Nat) (i : Item)
    (found : b.items[k]? = some i) : ∃ j, b'.items[k]? = some j ∧
      i.Moved o.dryRun (start.failures k past) (b.receipts k us) (b.confirmations k us)
        (b.failures k us) j := by
  cases move with
  | plain plain =>
      refine ⟨i, found, Item.Moved.stayed.of_untold ?_ ?_ ?_⟩ <;>
        simp [plain.untaken, plain.unconfirmed, plain.unfailed]
  | @idle t silent idle =>
      have elsewhere : b.currentIndex ≠ some k := by simp [idle]
      have none : Shows (fun c => c.currentIndex ≠ some k) [t] := by simp [silent]
      refine ⟨i, found, ?_⟩
      rw [Board.receipts, Board.confirmations, Board.failures,
        Board.gather_elsewhere elsewhere none, Board.gather_elsewhere elsewhere none,
        Board.gather_elsewhere elsewhere none]
      exact .stayed
  | planned ordered x fresh idle => simp [fresh] at found
  | signed idle pending x => exact moved_of_shown found pending (.signed rfl)
  | refused idle pending reason x => exact moved_of_shown found pending (.refused reason rfl)
  | focused signed later ended x =>
      refine ⟨i, found, Item.Moved.stayed.of_untold ?_ ?_ ?_⟩ <;>
        simp [Turn.taken?, Turn.confirmed?, Turn.failure?]
  | begun focused found₀ ongoing left x => exact moved_of_shown found found₀ (.begun ongoing left)
  | ended focused found₀ ongoing last x => exact moved_of_shown found found₀ (.ended ongoing last)
  | rehearsed dryRun focused found₀ final x => exact moved_of_shown found found₀ (.rehearsed dryRun rfl final)
  | @failed k₀ i₀ number fee e x focused found₀ ongoing failed =>
      refine ⟨i, found, ?_⟩
      by_cases here : k₀ = k
      · subst here
        obtain rfl := Option.some.inj (found₀.symm.trans found)
        simpa [Board.receipts, Board.confirmations, Board.failures, Board.whileInWork, focused,
          Turn.taken?, Turn.confirmed?, Turn.failure?, found] using Item.Moved.failed e ongoing
      · simpa [Board.receipts, Board.confirmations, Board.failures, Board.whileInWork, focused,
          here] using Item.Moved.stayed
  | @taken k₀ i₀ v focused found₀ ongoing begun underWay tx signature x y =>
      rw [Board.getElem?_update]
      by_cases here : k₀ = k
      · subst here
        obtain rfl := Option.some.inj (found₀.symm.trans found)
        refine ⟨_, by rw [if_pos rfl, found]; rfl, ?_⟩
        simpa [Board.receipts, Board.confirmations, Board.failures, Board.whileInWork, focused,
          Turn.taken?, Turn.confirmed?, Turn.failure?, found, underWay, Board.next, Step.board?]
          using Item.Moved.taken signature ongoing begun underWay
      · refine ⟨i, by simpa [here] using found, ?_⟩
        simpa [Board.receipts, Board.confirmations, Board.failures, Board.whileInWork, focused,
          here, Board.next, Step.board?] using Item.Moved.stayed
  | @confirmed k₀ i₀ signature fee focused found₀ sent id level expiry variant failures x y z =>
      rw [Board.getElem?_update]
      by_cases here : k₀ = k
      · subst here
        obtain rfl := Option.some.inj (found₀.symm.trans found)
        refine ⟨_, by rw [if_pos rfl, found]; rfl, ?_⟩
        simpa [Board.receipts, Board.confirmations, Board.failures, Board.whileInWork, focused,
          Turn.taken?, Turn.confirmed?, Turn.failure?, found, Board.next, Step.board?]
          using Item.Moved.confirmed sent id level
      · refine ⟨i, by simpa [here] using found, ?_⟩
        simpa [Board.receipts, Board.confirmations, Board.failures, Board.whileInWork, focused,
          here, Board.next, Step.board?] using Item.Moved.stayed

end

end Run

end PoolExit
