import PoolExit.Proofs.Bookkeeping
import PoolExit.Proofs.Ending
import PoolExit.Proofs.Sequence

/-!
# The stint of an item

A run comes to each item at most once.  Everything that it asks for or reports of an attempt while
the item at a place is in work stands in one stretch of the run, the stint of the item, and the
stint is the work on this item from its signed draft on (`Desk.Ran.stints`).  A call in the stint
of a plain run lies within an attempt at the item, with the variant whose turn it is (`Trial`).

A law about all attempts at an item is then an induction over its stint alone.
-/

namespace PoolExit

namespace Turn

/-- The fee of the attempt whose end a turn reports. -/
def tried? : Turn → Option UInt64
  | ⟨.note (.attemptFailed _ _ _ fee _), _, _⟩ => some fee
  | ⟨.note (.confirmed _ _ _ fee _ _), _, _⟩ => some fee
  | _ => none

/-- A turn that makes a call or reports the end of an attempt. -/
def Busy (t : Turn) : Prop := t.step.call?.isSome = true ∨ t.tried?.isSome = true

lemma busy_of_call {t : Turn} {c : Call} (calls : t.step.call? = some c) : t.Busy := by
  rw [Busy, calls]
  exact .inl rfl

end Turn

lemma Item.attempts_stop (i : Item) (next : Status) (reason : String) :
    (i.stop next reason).2.attempts = i.attempts := by
  unfold Item.stop Item.advance
  split
  next h =>
    split at h <;> cases h
    rfl
  next h =>
    split at h <;> cases h
    rfl

namespace Run

/-! ## Stretches that begin with the board that is shown -/

/-- Around the turn there is a stretch of a kind, which begins with the board that is shown then. -/
def StretchFrom (K : Board → List Turn → Prop) (start : Board) (before : List Turn) (t : Turn)
    (after : List Turn) : Prop :=
  ∃ earlier first last later, before = earlier ++ first ∧ after = last ++ later ∧
    K (start.afterAll earlier) (first ++ t :: last)

namespace StretchFrom

variable {K L : Board → List Turn → Prop} {start : Board} {before after : List Turn} {t : Turn}

lemma whole (h : K start (before ++ t :: after)) : StretchFrom K start before t after :=
  ⟨[], before, after, [], rfl, by simp, h⟩

lemma mono (hKL : ∀ b ts, K b ts → L b ts) (h : StretchFrom K start before t after) :
    StretchFrom L start before t after := by
  obtain ⟨earlier, first, last, later, rfl, rfl, h⟩ := h
  exact ⟨earlier, first, last, later, rfl, rfl, hKL _ _ h⟩

lemma append_left (ts : List Turn) (h : StretchFrom K (start.afterAll ts) before t after) :
    StretchFrom K start (ts ++ before) t after := by
  obtain ⟨earlier, first, last, later, rfl, rfl, h⟩ := h
  refine ⟨ts ++ earlier, first, last, later, by simp, rfl, ?_⟩
  rwa [Board.afterAll_append]

lemma append_right (ts : List Turn) (h : StretchFrom K start before t after) :
    StretchFrom K start before t (after ++ ts) := by
  obtain ⟨earlier, first, last, later, rfl, rfl, h⟩ := h
  exact ⟨earlier, first, last, later ++ ts, rfl, by simp, h⟩

end StretchFrom

/-! ## Attempts at the item in work -/

/-- The turns `ts`, which begin with the board `b`, are an attempt at the item `i` in work at the
place `k` with the variant `v` whose turn it is, and `r` comes of it. -/
structure Trial (setup : Setup) (o : Options) (b : Board) (ts : List Turn) (k : Nat) (i : Item)
    (v : Variant) (r : Except ExitError (Signature × UInt64)) : Prop where
  working : Working k b i
  variant : i.task.attempts[i.attempts]? = some v
  goes : ∃ primary b',
    Goes (attempt setup (setup.planSettings o) primary k i.task i.attempts v) b ts r b'

section

variable {setup : Setup} {o : Options} {primary : Transaction} {k number : Nat} {task : Task}
  {i : Item} {b b' : Board} {ts : List Turn}

lemma afterAll_of_looked {us : List Turn} (looked : Looked number us) (b : Board) :
    b.afterAll us = b :=
  Board.afterAll_of_silent fun t ht => (looked.plain t ht).silent

/-- A failed attempt leaves the item in work, counted once more. -/
lemma working_of_failed {v : Variant} {e : ExitError}
    (went : Goes (attempt setup (setup.planSettings o) primary k i.task i.attempts v) b ts
      (.error e) b') (working : Working k b i) (variant : i.task.attempts[i.attempts]? = some v) :
    b.afterAll ts = b' ∧
      ∃ j, Working k b' j ∧ j.task = i.task ∧ j.attempts = i.attempts + 1 := by
  rcases moves_of_goes_attempt went (show b.afterAll [] = b from rfl) working variant with
    ⟨_, j, -, moves, working', same, count, -⟩ | ⟨_, _, _, _, _, h, -⟩
  · exact ⟨moves.board, j, working', same, count⟩
  · cases h

/-- A call made while trying the drafts of an item lies within an attempt with the variant whose
turn it is. -/
lemma Tried.trial {errors : List ExitError} {variants : List Variant}
    {r : Except (Exhausted ExitError) (Success (Signature × UInt64))}
    (tried : Tried setup (setup.planSettings o) primary k task number errors variants b ts r b')
    (working : Working k b i) (same : i.task = task) (count : i.attempts = number)
    (rest : task.attempts.drop number = variants) {u : Turn} {c : Call}
    (calls : u.step.call? = some c) {before after : List Turn} (split : ts = before ++ u :: after) :
    StretchFrom (fun b as => ∃ i v r, i.task = task ∧ Trial setup o b as k i v r) b before u
      after := by
  induction tried generalizing i before with
  | exhausted => simp at split
  | stopped number errors v rest' b x =>
      obtain ⟨rfl, rfl, rfl⟩ := place_unique (P := fun u => u.step.call? = some c) [] [] calls
        (by simp) (by simp) split
      cases calls
  | @landed number errors v rest' b us ts value b' looked went =>
      obtain ⟨variant, -⟩ := variant_of_drop rest
      subst same count
      have looks : ∀ t ∈ us, ¬ t.step.call? = some c :=
        fun t ht hc => (looked.quiet (K := fun _ => False) t ht).2 c hc
      obtain ⟨between, rfl, rfl⟩ := place_of_append (P := fun u => u.step.call? = some c) us calls
        looks split
      refine .append_left us ?_
      rw [afterAll_of_looked looked]
      exact .whole ⟨i, v, _, rfl, working, variant, _, _, went⟩
  | @failed number errors v rest' b us ts e b₁ vs r b' looked went tried ih =>
      obtain ⟨variant, rest''⟩ := variant_of_drop rest
      subst same count
      have looks : ∀ t ∈ us, ¬ t.step.call? = some c :=
        fun t ht hc => (looked.quiet (K := fun _ => False) t ht).2 c hc
      rw [List.append_assoc] at split
      obtain ⟨between, rfl, inside⟩ := place_of_append (P := fun u => u.step.call? = some c) us
        calls looks split
      refine .append_left us ?_
      rw [afterAll_of_looked looked]
      obtain ⟨ends, j, working', same, count⟩ := working_of_failed went working variant
      rcases place_cases inside with ⟨last, rfl, rfl⟩ | ⟨first, rfl, rfl⟩
      · exact .append_right vs (.whole ⟨i, v, _, rfl, working, variant, _, _, went⟩)
      · refine .append_left ts ?_
        rw [ends]
        exact ih working' same count rest'' rfl

/-- Every call in the work on an item lies within an attempt at it. -/
lemma Handled.trial (handled : Handled setup (setup.planSettings o) primary k task b ts b')
    (working : Working k b (.signed task)) {u : Turn} {c : Call} (calls : u.step.call? = some c)
    {before after : List Turn} (split : ts = before ++ u :: after) :
    StretchFrom (fun b as => ∃ i v r, i.task = task ∧ Trial setup o b as k i v r) b before u
      after := by
  cases handled with
  | left tried ended last => exact tried.trial working rfl rfl rfl calls split
  | confirmed tried x y | failed tried failing x y =>
      obtain ⟨between, rfl, rfl⟩ := place_of_append_left (P := fun u => u.step.call? = some c) calls
        (by simp [Step.call?]) split
      exact (tried.trial working rfl rfl rfl calls rfl).append_right _

end

/-! ## The work on one item -/

/-- What a run does with an item: it tries its drafts, or simulates it in a dry run. -/
inductive WorkedOn (setup : Setup) (o : Options) (primary : Transaction) (k : Nat) (task : Task)
    (b : Board) (ts : List Turn) (b' : Board) : Prop
  | handled (plain : o.dryRun = false)
      (handled : Handled setup (setup.planSettings o) primary k task b ts b')
  | rehearsed (dry : o.dryRun = true) (rehearsal : Rehearsal primary k task b ts b')

section

variable {setup : Setup} {o : Options} {primary : Transaction} {k : Nat} {task : Task}
  {b b' : Board} {ts : List Turn} {work : List ((Task × Option Transaction) × Nat)}

/-- The work on an item begins when the run turns to it, and touches this item only. -/
lemma WorkedOn.touches (workedOn : WorkedOn setup o primary k task b ts b')
    (focused : b.currentIndex = some k) (found : b.items[k]? = some (.signed task)) :
    b.Touched k b' ∧ Shows (b.Touched k) ts ∧ b.afterAll ts = b' := by
  cases workedOn with
  | handled plain handled =>
      obtain ⟨moves, touched, shows, -⟩ :=
        orderly_handled setup o b handled (show b.afterAll [] = b from rfl) focused found rfl
      exact ⟨touched, shows, moves.board⟩
  | rehearsed dry rehearsal =>
      obtain ⟨moves, touched, shows, -⟩ :=
        orderly_rehearsal dry setup b rehearsal (show b.afterAll [] = b from rfl) focused found rfl
      exact ⟨touched, shows, moves.board⟩

lemma Rounds.mono {K L : Transaction → Nat → Task → Board → List Turn → Board → Prop}
    (hKL : ∀ {primary k task b ts b'}, K primary k task b ts b' → L primary k task b ts b')
    (rounds : Rounds K work b ts b') : Rounds L work b ts b' := by
  induction rounds with
  | done b => exact .done b
  | unsigned rest ih => exact .unsigned ih
  | stopped task primary index work b x => exact .stopped task primary index work b x
  | worked x y item rest ih => exact .worked x y (hKL item) ih

lemma Worked.rounds (worked : Worked setup o work b ts b') :
    Rounds (WorkedOn setup o) work b ts b' := by
  cases worked with
  | submitted plain submitted => exact submitted.rounds.mono (.handled plain)
  | rehearsed dry rehearsed => exact rehearsed.rounds.mono (.rehearsed dry)

/-- Every item with a signed draft waits for its attempts. -/
def Staged (work : List ((Task × Option Transaction) × Nat)) (b : Board) : Prop :=
  ∀ ⦃task primary index⦄, ((task, some primary), index) ∈ work →
    b.items[index]? = some (.signed task)

lemma Staged.of_touched {e : (Task × Option Transaction) × Nat} {b₁ : Board}
    (staged : Staged (e :: work) b) (touched : (b.focus e.2).Touched e.2 b₁)
    (others : e.2 ∉ work.map Prod.snd) : Staged work b₁ := by
  intro task primary index mem
  have ne : e.2 ≠ index := fun same => others (List.mem_map.2 ⟨_, mem, same.symm⟩)
  rw [touched.getElem?_of_ne ne]
  exact staged (List.mem_cons_of_mem _ mem)

/-- In the turns, the item at the place `k` is not in work where something is done. -/
def Elsewhere (k : Nat) (b : Board) (ts : List Turn) : Prop :=
  ∀ ⦃before u after⦄, ts = before ++ u :: after → u.Busy →
    (b.afterAll before).currentIndex ≠ some k

lemma elsewhere_of_idle (idle : ∀ t ∈ ts, ¬ t.Busy) : Elsewhere k b ts := by
  rintro before u after rfl busy
  exact absurd busy (idle u (by simp))

lemma Elsewhere.append {us : List Turn} (first : Elsewhere k b ts)
    (second : Elsewhere k (b.afterAll ts) us) : Elsewhere k b (ts ++ us) := by
  intro before u after split busy
  rcases place_cases split with ⟨between, rfl, rfl⟩ | ⟨between, rfl, rfl⟩
  · exact first rfl busy
  · rw [Board.afterAll_append]
    exact second rfl busy

/-- The two turns with which the work on an item begins do nothing yet. -/
lemma elsewhere_begins (b : Board) (index : Nat) (x y : Bool) :
    Elsewhere k b [⟨.stopped, false, x⟩, ⟨.publish (b.focus index), (), y⟩] :=
  elsewhere_of_idle (by simp [Turn.Busy, Step.call?, Turn.tried?])

/-- While the work on an item goes on, no other item is in work. -/
lemma WorkedOn.elsewhere {index : Nat} (workedOn : WorkedOn setup o primary index task b ts b')
    (focused : b.currentIndex = some index) (found : b.items[index]? = some (.signed task))
    (ne : k ≠ index) : Elsewhere k b ts := by
  rintro before u after rfl -
  obtain ⟨-, shows, -⟩ := workedOn.touches focused found
  have touched := Board.afterAll_of_shows (shows_append.1 shows).1 (.refl index b)
  rw [touched.currentIndex, focused]
  exact fun h => ne (Option.some.inj h).symm

/-- Work on other items leaves an item alone. -/
lemma Rounds.elsewhere (rounds : Rounds (WorkedOn setup o) work b ts b') (staged : Staged work b)
    (distinct : (work.map Prod.snd).Nodup) (others : k ∉ work.map Prod.snd) :
    b'.items[k]? = b.items[k]? ∧ Elsewhere k b ts := by
  induction rounds with
  | done => exact ⟨rfl, elsewhere_of_idle (by simp)⟩
  | stopped => exact ⟨rfl, elsewhere_of_idle (by simp [Turn.Busy, Step.call?, Turn.tried?])⟩
  | unsigned rest ih =>
      exact ih (fun _ _ _ mem => staged (List.mem_cons_of_mem _ mem)) (List.nodup_cons.1 distinct).2
        fun mem => others (List.mem_cons_of_mem _ mem)
  | @worked task primary index work b ts b₁ us b' x y item rest ih =>
      obtain ⟨first, distinct⟩ := List.nodup_cons.1 distinct
      obtain ⟨ne, others⟩ : k ≠ index ∧ k ∉ work.map Prod.snd := by simpa using others
      have signed : (b.focus index).items[index]? = some (.signed task) :=
        staged List.mem_cons_self
      obtain ⟨touched, -, ends⟩ := item.touches rfl signed
      obtain ⟨kept, later⟩ := ih (staged.of_touched touched first) distinct others
      refine ⟨kept.trans (touched.getElem?_of_ne ne.symm), ?_⟩
      exact (elsewhere_begins b index x y).append ((item.elsewhere rfl signed ne).append
        (by simpa [ends] using later))

/-- All that is done while the item at the place `k` is in work stands in the stretch `us` behind
`pre`, and this is the work on the item. -/
structure Stint (setup : Setup) (o : Options) (start : Board) (ts : List Turn) (k : Nat)
    (task : Task) (primary : Transaction) (pre us post : List Turn) (b' : Board) : Prop where
  split : ts = pre ++ (us ++ post)
  working : Working k (start.afterAll pre) (.signed task)
  item : WorkedOn setup o primary k task (start.afterAll pre) us b'
  earlier : Elsewhere k start pre
  later : Elsewhere k b' post

namespace Stint

variable {vs pre us post : List Turn}

lemma append_left (stint : Stint setup o (b.afterAll vs) ts k task primary pre us post b')
    (elsewhere : Elsewhere k b vs) :
    Stint setup o b (vs ++ ts) k task primary (vs ++ pre) us post b' where
  split := by rw [stint.split, List.append_assoc]
  working := by
    rw [Board.afterAll_append]
    exact stint.working
  item := by
    rw [Board.afterAll_append]
    exact stint.item
  earlier := elsewhere.append stint.earlier
  later := stint.later

lemma append_right (stint : Stint setup o b ts k task primary pre us post b')
    (idle : ∀ t ∈ vs, ¬ t.Busy) :
    Stint setup o b (ts ++ vs) k task primary pre us (post ++ vs) b' where
  split := by rw [stint.split, List.append_assoc, List.append_assoc]
  working := stint.working
  item := stint.item
  earlier := stint.earlier
  later := stint.later.append (elsewhere_of_idle idle)

/-- Where something is done while the item is in work, this is in its stint. -/
lemma place (stint : Stint setup o b ts k task primary pre us post b') {before after : List Turn}
    {u : Turn} (split : ts = before ++ u :: after) (busy : u.Busy)
    (focused : (b.afterAll before).currentIndex = some k) :
    ∃ first last, before = pre ++ first ∧ us = first ++ u :: last ∧ after = last ++ post := by
  rw [stint.split] at split
  rcases place_cases split with ⟨between, rfl, rfl⟩ | ⟨between, rfl, inside⟩
  · exact absurd focused (stint.earlier rfl busy)
  · rcases place_cases inside with ⟨last, rfl, rfl⟩ | ⟨between, rfl, rfl⟩
    · exact ⟨between, last, rfl, rfl, rfl⟩
    · obtain ⟨-, -, ends⟩ := stint.item.touches stint.working.focused stint.working.found
      rw [Board.afterAll_append, Board.afterAll_append, ends] at focused
      exact absurd focused (stint.later rfl busy)

end Stint

/-- An item has one stint in the work on all items, or the run never comes to it. -/
lemma Rounds.stint (rounds : Rounds (WorkedOn setup o) work b ts b') (staged : Staged work b)
    (distinct : (work.map Prod.snd).Nodup) (k : Nat) :
    (b'.items[k]? = b.items[k]? ∧ Elsewhere k b ts) ∨
      ∃ task primary pre us post b₁, ((task, some primary), k) ∈ work ∧
        Stint setup o b ts k task primary pre us post b₁ ∧ b'.items[k]? = b₁.items[k]? := by
  induction rounds with
  | done => exact .inl ⟨rfl, elsewhere_of_idle (by simp)⟩
  | stopped => exact .inl ⟨rfl, elsewhere_of_idle (by simp [Turn.Busy, Step.call?, Turn.tried?])⟩
  | unsigned rest ih =>
      refine (ih (fun _ _ _ mem => staged (List.mem_cons_of_mem _ mem))
        (List.nodup_cons.1 distinct).2).imp id ?_
      rintro ⟨task, primary, pre, us, post, b₁, mem, stint⟩
      exact ⟨task, primary, pre, us, post, b₁, List.mem_cons_of_mem _ mem, stint⟩
  | @worked task primary index work b ts b₁ us b' x y item rest ih =>
      obtain ⟨first, distinct'⟩ := List.nodup_cons.1 distinct
      have signed : (b.focus index).items[index]? = some (.signed task) :=
        staged List.mem_cons_self
      obtain ⟨touched, -, ends⟩ := item.touches rfl signed
      have staged' : Staged work b₁ := staged.of_touched touched first
      have begins := elsewhere_begins b (k := k) index x y
      by_cases here : k = index
      · subst here
        obtain ⟨kept, later⟩ := rest.elsewhere staged' distinct' first
        have working : Working k (b.focus k) (.signed task) := ⟨rfl, signed, .inl rfl⟩
        exact .inr ⟨task, primary, [⟨.stopped, false, x⟩, ⟨.publish (b.focus k), (), y⟩], ts, us,
          b₁, List.mem_cons_self, ⟨rfl, working, item, begins, later⟩, kept⟩
      · have goesOn : Elsewhere k b (⟨.stopped, false, x⟩ :: ⟨.publish (b.focus index), (), y⟩ ::
            ts) := begins.append (item.elsewhere rfl signed here)
        have there : b.afterAll (⟨.stopped, false, x⟩ :: ⟨.publish (b.focus index), (), y⟩ :: ts) =
            b₁ := ends
        rcases ih staged' distinct' with
          ⟨kept, later⟩ | ⟨task', primary', pre, vs, post, b₂, mem, stint, kept⟩
        · exact .inl ⟨kept.trans (touched.getElem?_of_ne (Ne.symm here)),
            goesOn.append (there ▸ later)⟩
        · exact .inr ⟨task', primary', _, vs, post, b₂, List.mem_cons_of_mem _ mem,
            Stint.append_left (there ▸ stint) goesOn, kept⟩

/-- The work on all items leaves the board that was shown last. -/
lemma Rounds.board (rounds : Rounds (WorkedOn setup o) work b ts b') (staged : Staged work b)
    (distinct : (work.map Prod.snd).Nodup) : b.afterAll ts = b' := by
  induction rounds with
  | done | stopped => rfl
  | unsigned rest ih =>
      exact ih (fun _ _ _ mem => staged (List.mem_cons_of_mem _ mem)) (List.nodup_cons.1 distinct).2
  | @worked task primary index work b ts b₁ us b' x y item rest ih =>
      obtain ⟨first, distinct'⟩ := List.nodup_cons.1 distinct
      obtain ⟨touched, -, ends⟩ := item.touches rfl (staged List.mem_cons_self)
      have begins : b.afterAll (⟨.stopped, false, x⟩ :: ⟨.publish (b.focus index), (), y⟩ ::
          (ts ++ us)) = (b.focus index).afterAll (ts ++ us) := rfl
      rw [begins, Board.afterAll_append, ends, ih (staged.of_touched touched first) distinct']

end

/-! ## From the start to the work -/

section

variable {setup : Setup} {o : Options} {plan : Plan} {d : Desk} {start b b' : Board}
  {past ts : List Turn}

/-- Where no item is in work, nothing is done for one. -/
lemma elsewhere_of_shows (idle : b.currentIndex = none)
    (shows : Shows (fun c => c.currentIndex = none) ts) (k : Nat) : Elsewhere k b ts := by
  rintro before u after rfl - focused
  rw [Board.afterAll_of_shows (shows_append.1 shows).1 idle] at focused
  cases focused

/-- The turns `first` bring a run to the work on the items, with the board `b`: no item is in work
or was tried, and each one with a signed draft waits. -/
structure Prepared (start : Board) (first : List Turn) (b : Board) (tasks : List Task)
    (work : List ((Task × Option Transaction) × Nat)) : Prop where
  here : start.afterAll first = b
  elsewhere : ∀ k, Elsewhere k start first
  untried : ∀ {k : Nat} {i : Item}, b.items[k]? = some i → i.attempts = 0
  tasks : b.tasks = tasks
  staged : Staged work b
  distinct : (work.map Prod.snd).Nodup

/-- From its opening on a run shows no item in work before it turns to one. -/
lemma elsewhere_opened {x : Bool} (shows : Shows (fun c => c.currentIndex = none) ts) (k : Nat) :
    Elsewhere k start (⟨.publish Board.opened, (), x⟩ :: ts) := by
  have opens : Elsewhere k start [⟨.publish Board.opened, (), x⟩] :=
    elsewhere_of_idle (by simp [Turn.Busy, Step.call?, Turn.tried?])
  exact opens.append (elsewhere_of_shows rfl shows k)

/-- A run that acts on its plan prepares the work on the items, and then works on them. -/
lemma Acted.rounds {r : Except ExitError Unit}
    (acted : Acted setup o plan Board.opened ts r b') (ordered : Planning.ClaimsLead plan.tasks)
    {ps : List Turn} (silent : ∀ t ∈ ps, t.step.board? = none) (start : Board) (x : Bool) :
    ∃ first ws work b, ts = first ++ ws ∧
      Prepared start (⟨.publish Board.opened, (), x⟩ :: (ps ++ first)) b plan.tasks work ∧
      Rounds (WorkedOn setup o) work b ws b' := by
  have shown : ∀ {us : List Turn}, Shows (fun c => c.currentIndex = none) us →
      Shows (fun c => c.currentIndex = none) (ps ++ us) := by
    refine fun shows => shows_append.2 ⟨fun t ht c hc => ?_, shows⟩
    rw [silent t ht] at hc
    cases hc
  have comes : ∀ us : List Turn, start.afterAll (⟨.publish Board.opened, (), x⟩ :: (ps ++ us)) =
      Board.opened.afterAll us := by
    intro us
    rw [Board.afterAll_cons, Board.next_publish, Board.afterAll_append,
      Board.afterAll_of_silent silent]
  -- Without work the run ends on the board of its plan.
  have waits : ∀ {us : List Turn} {y : Bool}, (∀ t ∈ us, t.step.board? = none) →
      ∃ first ws work b, ⟨.publish (Board.opened.planned plan.tasks), (), y⟩ :: us = first ++ ws ∧
        Prepared start (⟨.publish Board.opened, (), x⟩ :: (ps ++ first)) b plan.tasks work ∧
        Rounds (WorkedOn setup o) work b ws (Board.opened.planned plan.tasks) := by
    intro us y quiet
    have planned : (Board.opened.planned plan.tasks).currentIndex = none := rfl
    refine ⟨_, [], [], _, (List.append_nil _).symm, ⟨?_, ?_, ?_, tasks_planned _ _, ?_, ?_⟩, .done _⟩
    · rw [comes, Board.afterAll_cons, Board.next_publish, Board.afterAll_of_silent quiet]
    · refine elsewhere_opened (shown (shows_cons.2 ⟨by simp [Step.board?, planned], ?_⟩))
      intro t ht c hc
      rw [quiet t ht] at hc
      cases hc
    · intro k i found
      obtain ⟨task, -, rfl⟩ := Option.map_eq_some_iff.1 (List.getElem?_map.symm.trans found)
      rfl
    · simp [Staged]
    · simp
  cases acted with
  | nothing empty y z | refused refused y z => exact waits (by simp [Step.board?])
  | unsigned passed y signed => exact waits fun t ht => (quiet_of_goes_signing signed t ht).1
  | @worked us outcome vs slots b₁ ws _ passed y signed z settled worked =>
      obtain ⟨moves, ready, -, shows⟩ := ready_to_work (d := ⟨Board.opened, none⟩)
        (o := o) (x := y) (y := z) ordered signed settled
        (show Board.opened.afterAll [] = Board.opened from rfl) fun k => rfl
      have idle : b₁.currentIndex = none := by
        rw [← moves.board]
        exact Board.afterAll_of_shows shows rfl
      refine ⟨_, ws, (plan.tasks.zip slots).zipIdx, b₁, by simp,
        ⟨(comes _).trans moves.board, elsewhere_opened (shown shows), ?_, ?_, ?_, ?_⟩,
        worked.rounds⟩
      · intro k i found
        exact ((moves.inTurn Board.inTurn_opened).later k i (by simp [idle]) found).1
      · exact settled.onward.tasks.trans (tasks_planned _ _)
      · intro task primary index mem
        simpa using ready.signed (List.mem_zipIdx_iff_getElem?.1 mem)
      · rw [List.zipIdx_map_snd]
        exact List.nodup_range'

end

end Run

namespace Desk.Ran

open Run

variable {d : Desk} {setup : Setup} {o : Options} {turns : List Turn}
  {result : Except ExitError Board}

/-- A run prepares the work on its items, works on them, and concludes. -/
lemma rounds (ran : d.Ran setup o turns result) :
    ∃ first ws last tasks work b outcome b' b'', turns = first ++ (ws ++ last) ∧
      Prepared d.board first b tasks work ∧
      (∀ task ∈ tasks, ∃ plan, Planned setup o turns plan ∧ task ∈ plan.tasks) ∧
      Rounds (WorkedOn setup o) work b ws b' ∧ Concluded b' outcome last result b'' := by
  obtain ⟨x, us, outcome, b, vs, b', rfl, executed, concluded⟩ := ran.course
  cases executed with
  | unplanned planned =>
      have quiet := quiet_of_goes_planning planned
      refine ⟨⟨.publish Board.opened, (), x⟩ :: us, [], vs, [], [], _, _, _, b', rfl,
        ⟨?_, elsewhere_opened (shows_of_quiet quiet), ?_, rfl, ?_, ?_⟩, by simp, .done _, concluded⟩
      · exact Board.afterAll_of_silent fun t ht => (quiet t ht).1
      · intro k i found
        simp [Board.opened] at found
      · simp [Staged]
      · simp
  | @planned ps plan us _ _ planned acted =>
      have quiet := quiet_of_goes_planning planned
      obtain ⟨first, ws, work, b₁, rfl, prepared, rounds⟩ := acted.rounds
        (Planning.claimsLead_of_goes_plan planned) (fun t ht => (quiet t ht).1) d.board x
      refine ⟨_, ws, vs, plan.tasks, work, b₁, outcome, b, b', by simp, prepared, ?_, rounds,
        concluded⟩
      exact fun task mem => ⟨plan, ⟨x, ps, first ++ ws ++ vs, by simp, planned⟩, mem⟩

/-- The end of a run closes the board, and nothing more is done for an item. -/
lemma idle_of_concluded {b b' : Board} {outcome : Except ExitError Unit} {last : List Turn}
    (concluded : Concluded b outcome last result b') :
    (∀ t ∈ last, ¬ t.Busy) ∧ b.afterAll last = b' ∧ ∃ error cancelled, b' = b.closed error cancelled := by
  cases concluded with
  | finished harmless cancelled x y z =>
      exact ⟨by simp [Turn.Busy, Step.call?, Turn.tried?], rfl, _, _, rfl⟩
  | givenUp harmful cancelled x y z =>
      exact ⟨by simp [Turn.Busy, Step.call?, Turn.tried?], rfl, _, _, rfl⟩

/-- **The stint of an item.**  Either a run never comes to the item at a place, or all that it does
while this item is in work stands in one stretch, and this is the work on the item. -/
theorem stint (ran : d.Ran setup o turns result) (k : Nat) :
    (Elsewhere k d.board turns ∧
      ∀ i, (d.afterAll turns).board.items[k]? = some i → i.attempts = 0) ∨
    ∃ task primary pre us post b, Stint setup o d.board turns k task primary pre us post b ∧
      (∃ plan, Planned setup o turns plan ∧ task ∈ plan.tasks) ∧
      ∀ i, (d.afterAll turns).board.items[k]? = some i →
        ∃ j, b.items[k]? = some j ∧ i.task = j.task ∧ i.attempts = j.attempts := by
  obtain ⟨first, ws, last, tasks, work, b, outcome, b', b'', rfl, prepared, planned, rounds,
    concluded⟩ := ran.rounds
  obtain ⟨idle, ends, error, cancelled, rfl⟩ := idle_of_concluded concluded
  have final : (d.afterAll (first ++ (ws ++ last))).board = b'.closed error cancelled := by
    rw [board_afterAll_eq, Board.afterAll_append, prepared.here, Board.afterAll_append,
      rounds.board prepared.staged prepared.distinct, ends]
  have left : ∀ i, (d.afterAll (first ++ (ws ++ last))).board.items[k]? = some i →
      ∃ j, b'.items[k]? = some j ∧ i.task = j.task ∧ i.attempts = j.attempts := by
    intro i found
    rw [final, Board.getElem?_closed] at found
    cases cancelled with
    | false => exact ⟨i, found, rfl, rfl⟩
    | true =>
        obtain ⟨j, found', rfl⟩ := Option.map_eq_some_iff.1 found
        exact ⟨j, found', (Item.follows_stop j rfl _).task, j.attempts_stop _ _⟩
  rcases rounds.stint prepared.staged prepared.distinct k with
    ⟨kept, elsewhere⟩ | ⟨task, primary, pre, us, post, b₁, mem, stint, kept⟩
  · refine .inl ⟨(prepared.elsewhere k).append ?_, fun i found => ?_⟩
    · rw [prepared.here]
      exact elsewhere.append (elsewhere_of_idle idle)
    · obtain ⟨j, found', -, count⟩ := left i found
      rw [count]
      exact prepared.untried (kept ▸ found')
  · refine .inr ⟨task, primary, _, us, _, b₁,
      Stint.append_left (prepared.here ▸ stint.append_right idle) (prepared.elsewhere k), ?_, ?_⟩
    · have mem' : task ∈ b.tasks :=
        List.mem_map.2 ⟨_, List.mem_of_getElem? (prepared.staged mem), rfl⟩
      exact planned task (prepared.tasks ▸ mem')
    · intro i found
      rw [← kept]
      exact left i found

/-- A call that a plain run makes while an item is in work lies within an attempt at this item. -/
lemma trial_of_call (ran : d.Ran setup o turns result) (plain : o.dryRun = false)
    {before after : List Turn} {u : Turn} {c : Call} (split : turns = before ++ u :: after)
    (calls : u.step.call? = some c) {k : Nat}
    (focused : (d.afterAll before).board.currentIndex = some k) :
    StretchFrom (fun b ts => ∃ i v r, Trial setup o b ts k i v r) d.board before u after := by
  have busy := Turn.busy_of_call calls
  rw [board_afterAll_eq] at focused
  rcases ran.stint k with ⟨elsewhere, -⟩ | ⟨task, primary, pre, us, post, b, stint, -⟩
  · exact absurd focused (elsewhere split busy)
  · obtain ⟨first, last, rfl, rfl, rfl⟩ := stint.place split busy focused
    refine .append_left pre (.append_right post ?_)
    cases stint.item with
    | handled _ handled =>
        exact (handled.trial stint.working calls rfl).mono
          fun b ts ⟨i, v, r, _, trial⟩ => ⟨i, v, r, trial⟩
    | rehearsed dry =>
        rw [plain] at dry
        cases dry

/-- Whatever a run submits or waits for it does so in an attempt. -/
lemma trial_of_submission (ran : d.Ran setup o turns result) {before after : List Turn} {u : Turn}
    {c : Call} (split : turns = before ++ u :: after) (calls : u.step.call? = some c)
    (tells : c.telling = true) :
    StretchFrom (fun b ts => ∃ k i v r, Trial setup o b ts k i v r) d.board before u after := by
  have sends : Sends c := by cases c <;> trivial
  obtain ⟨k, i, focused, -⟩ := ran.exists_item_in_work ⟨u, after, split, calls⟩ sends
  obtain ⟨tasks, work, -, -, ⟨plain, -⟩ | ⟨-, rehearsing⟩⟩ :=
    (ran.placed calls split).1.sending calls sends
  · exact (ran.trial_of_call plain split calls focused).mono fun b ts trial => ⟨k, trial⟩
  · cases rehearsing with
    | intro =>
        obtain rfl := Option.some.inj calls
        cases tells

/-- The boards of a run show tasks of its plan only. -/
lemma tasks_shown (ran : d.Ran setup o turns result) :
    ∃ tasks, (∀ task ∈ tasks, ∃ plan, Planned setup o turns plan ∧ task ∈ plan.tasks) ∧
      Shows (fun b => b.tasks ⊆ tasks) turns := by
  obtain ⟨x, us, outcome, b, vs, b', rfl, executed, concluded⟩ := ran.course
  have closes : ∀ {tasks : List Task}, b.tasks ⊆ tasks → Shows (fun c => c.tasks ⊆ tasks) vs := by
    intro tasks sub
    cases concluded <;> simpa [Step.board?, Board.tasks_closed] using sub
  cases executed with
  | unplanned planned =>
      refine ⟨[], by simp, shows_cons.2 ⟨by simp [Step.board?, Board.opened, Board.tasks], ?_⟩⟩
      exact shows_append.2 ⟨shows_of_quiet (quiet_of_goes_planning planned), closes (by
        simp [Board.opened, Board.tasks])⟩
  | @planned ps plan us _ _ planned acted =>
      refine ⟨plan.tasks, fun task mem => ⟨plan, ⟨x, ps, us ++ vs, by simp, planned⟩, mem⟩, ?_⟩
      have acts : Shows (fun c => c.tasks ⊆ plan.tasks) us :=
        acted.shows.mono fun c onward => by rw [onward.tasks, tasks_planned]; exact fun _ h => h
      refine shows_cons.2 ⟨by simp [Step.board?, Board.opened, Board.tasks], shows_append.2
        ⟨shows_append.2 ⟨shows_of_quiet (quiet_of_goes_planning planned), acts⟩, closes ?_⟩⟩
      rw [acted.tasks]
      exact fun _ h => h

/-- Whatever a run attempts was planned. -/
lemma planned_of_trial (ran : d.Ran setup o turns result) {before ts after : List Turn} {k : Nat}
    {i : Item} {v : Variant} {r : Except ExitError (Signature × UInt64)}
    (split : turns = before ++ (ts ++ after))
    (trial : Trial setup o (d.afterAll before).board ts k i v r) :
    ∃ plan, Planned setup o turns plan ∧ i.task ∈ plan.tasks := by
  obtain ⟨tasks, planned, shows⟩ := ran.tasks_shown
  obtain ⟨primary, b', goes⟩ := trial.goes
  -- An attempt shows the board on which it is counted.
  obtain ⟨x, us, rfl⟩ : ∃ x us, ts =
      ⟨.publish ((d.afterAll before).board.update k Item.attempted), (), x⟩ :: us := by
    cases attempted_of_goes goes <;> exact ⟨_, _, rfl⟩
  have listed : i.task ∈ ((d.afterAll before).board.update k Item.attempted).tasks := by
    rw [(touched_attempted _ k).tasks]
    exact List.mem_map.2 ⟨i, List.mem_of_getElem? trial.working.found, rfl⟩
  have shown : (⟨.publish ((d.afterAll before).board.update k Item.attempted), (), x⟩ : Turn) ∈
      turns := by simp [split]
  exact planned _ (shows _ shown _ rfl listed)

end Desk.Ran

end PoolExit
