import PoolExit.Proofs.Course

/-!
# What the parts of a run keep

Between the plan and the end of a run the tasks on the board stay, every board shown is that of a
run under way, and what has ended stays ended (`Board.Onward`).  Every item that a run works on has
ended afterwards, unless a turn told of a cancellation.  A call made while working lies within an
attempt at one of the items, which is the one in work then (`Submitted.stretch`); in a dry run it
is the simulation of the primary draft of the item in work (`Rehearsed.stretch`).
-/

namespace PoolExit

namespace Run

/-! ## The drafts of one item -/

section

variable {setup : Setup} {s : PlanSettings} {primary : Transaction} {index : Nat} {task : Task}
  {number : Nat} {errors : List ExitError} {variants : List Variant} {b b' : Board} {ts : List Turn}
  {r : Except (Exhausted ExitError) (Success (Signature × UInt64))}

lemma Looked.quiet {K : Call → Prop} (looked : Looked number ts) : ∀ t ∈ ts, t.step.Quiet K := by
  cases looked <;> simp [Step.Quiet, Step.board?, Step.call?]

lemma Tried.touched
    (tried : Tried setup s primary index task number errors variants b ts r b') :
    b.Touched index b' := by
  induction tried with
  | exhausted | stopped => exact .refl index _
  | landed looked went => exact (attempted_of_goes went).touched
  | failed looked went tried ih => exact (attempted_of_goes went).touched.trans ih

lemma Tried.shows (tried : Tried setup s primary index task number errors variants b ts r b') :
    Shows (b.Touched index) ts := by
  induction tried with
  | exhausted => exact shows_nil
  | stopped => simp [Step.board?]
  | landed looked went =>
      exact shows_append.2
        ⟨shows_of_quiet (looked.quiet (K := fun _ => True)), (attempted_of_goes went).shows⟩
  | failed looked went tried ih =>
      have attempted := attempted_of_goes went
      exact shows_append.2 ⟨shows_append.2
        ⟨shows_of_quiet (looked.quiet (K := fun _ => True)), attempted.shows⟩,
        ih.mono fun _ => attempted.touched.trans⟩

/-- Attempts that a cancellation ended were told of it. -/
lemma Tried.tellsStop {exhausted : Exhausted ExitError}
    (tried : Tried setup s primary index task number errors variants b ts (.error exhausted) b')
    (ended : endedByCancel exhausted = true) (before : errors.getLast? ≠ some .cancelled) :
    ∃ t ∈ ts, t.tellsStop = true := by
  generalize h : Except.error exhausted = r at tried
  induction tried with
  | exhausted number errors b =>
      obtain rfl := Except.error.inj h
      simp [endedByCancel, Exhausted.last?, before] at ended
  | stopped number errors v rest b x => exact ⟨⟨.stopped, true, x⟩, by simp, rfl⟩
  | landed => cases h
  | @failed number errors v rest b us ts e b₁ vs r b' looked went tried ih =>
      by_cases cancelled : e = .cancelled
      · subst cancelled
        obtain ⟨t, ht, tells⟩ := (attempted_of_goes went).tellsStop
        exact ⟨t, by simp [ht], tells⟩
      · obtain ⟨t, ht, tells⟩ := ih (by simpa using cancelled) h
        exact ⟨t, by simp [ht], tells⟩

/-- A call made while trying the drafts of an item lies within an attempt at one of them. -/
theorem Tried.stretch
    (tried : Tried setup s primary index task number errors variants b ts r b') {u : Turn}
    {c : Call} (calls : u.step.call? = some c) {before after : List Turn}
    (split : ts = before ++ u :: after) :
    Stretch (fun as => ∃ number, ∃ v ∈ variants, ∃ b₁ r b₂, b.Touched index b₁ ∧
      Attempted setup s primary index task number v b₁ as r b₂) before u after := by
  induction tried generalizing before with
  | exhausted => simp at split
  | stopped number errors v rest b x =>
      obtain ⟨rfl, rfl, rfl⟩ := place_unique (P := fun u => u.step.call? = some c) [] [] calls
        (by simp) (by simp) split
      cases calls
  | @landed number errors v rest b us ts value b' looked went =>
      have looks : ∀ t ∈ us, ¬ t.step.call? = some c :=
        fun t ht hc => (looked.quiet (K := fun _ => False) t ht).2 c hc
      obtain ⟨between, rfl, rfl⟩ := place_of_append (P := fun u => u.step.call? = some c) us calls
        looks split
      exact Stretch.append_left us
        (.whole ⟨number, v, by simp, b, _, _, .refl index b, attempted_of_goes went⟩)
  | @failed number errors v rest b us ts e b₁ vs r b' looked went tried ih =>
      have attempted := attempted_of_goes went
      have looks : ∀ t ∈ us, ¬ t.step.call? = some c :=
        fun t ht hc => (looked.quiet (K := fun _ => False) t ht).2 c hc
      rw [List.append_assoc] at split
      obtain ⟨between, rfl, rest⟩ := place_of_append (P := fun u => u.step.call? = some c) us calls
        looks split
      refine Stretch.append_left us ?_
      rcases place_cases rest with ⟨last, rfl, rfl⟩ | ⟨first, rfl, rfl⟩
      · exact Stretch.append_right vs
          (.whole ⟨number, v, by simp, b, _, _, .refl index b, attempted⟩)
      · refine Stretch.append_left ts ((ih rfl).mono ?_)
        rintro as ⟨number', v', hv', b₂, r', b₃, touched, attempt⟩
        exact ⟨number', v', by simp [hv'], b₂, r', b₃, attempted.touched.trans touched, attempt⟩

end

/-! ## One item -/

section

variable {setup : Setup} {s : PlanSettings} {primary : Transaction} {index : Nat} {task : Task}
  {b b' : Board} {ts : List Turn}

lemma Handled.touched (handled : Handled setup s primary index task b ts b') :
    b.Touched index b' := by
  cases handled with
  | confirmed tried x y =>
      exact tried.touched.trans (Board.touched_update fun i => i.onward_landed _ _)
  | left tried ended last => exact tried.touched
  | failed tried failing x y =>
      exact tried.touched.trans (Board.touched_update fun i => i.onward_stop _ _)

lemma Handled.shows (handled : Handled setup s primary index task b ts b') :
    Shows (b.Touched index) ts := by
  have last := handled.touched
  cases handled with
  | left tried ended last => exact tried.shows
  | confirmed tried x y | failed tried failing x y => simpa [Step.board?, tried.shows] using last

/-- Work on an item ends it, unless it was told of a cancellation. -/
lemma Handled.ended (handled : Handled setup s primary index task b ts b') :
    b'.Ended index ∨ ∃ t ∈ ts, t.tellsStop = true := by
  cases handled with
  | confirmed tried x y => exact .inl (Board.ended_update fun i => i.isTerminal_landed _ _)
  | left tried ended last => exact .inr (tried.tellsStop ended (by simp))
  | failed tried failing x y => exact .inl (Board.ended_update fun i => i.isTerminal_stop rfl _)

theorem Handled.stretch (handled : Handled setup s primary index task b ts b') {u : Turn} {c : Call}
    (calls : u.step.call? = some c) {before after : List Turn} (split : ts = before ++ u :: after) :
    Stretch (fun as => ∃ number, ∃ v ∈ task.attempts, ∃ b₁ r b₂, b.Touched index b₁ ∧
      Attempted setup s primary index task number v b₁ as r b₂) before u after := by
  cases handled with
  | left tried ended last => exact tried.stretch calls split
  | confirmed tried x y | failed tried failing x y =>
      obtain ⟨between, rfl, rfl⟩ := place_of_append_left (P := fun u => u.step.call? = some c) calls
        (by simp [Step.call?]) split
      exact (tried.stretch calls rfl).append_right _

end

/-! ## All items -/

/-- A stretch of a run that is an attempt at one of the items it works on, and this item is the one
in work. -/
inductive Attempting (setup : Setup) (s : PlanSettings) (tasks : List Task)
    (work : List ((Task × Option Transaction) × Nat)) : List Turn → Prop
  | intro {task primary index number v b ts r b'} (mem : ((task, some primary), index) ∈ work)
      (variant : v ∈ task.attempts) (focused : b.currentIndex = some index)
      (planned : b.tasks = tasks)
      (attempted : Attempted setup s primary index task number v b ts r b') :
      Attempting setup s tasks work ts

section

variable {setup : Setup} {s : PlanSettings} {work : List ((Task × Option Transaction) × Nat)}
  {b b' : Board} {ts : List Turn}

lemma Attempting.mono {tasks : List Task} {work' : List ((Task × Option Transaction) × Nat)}
    (sub : work ⊆ work') (attempting : Attempting setup s tasks work ts) :
    Attempting setup s tasks work' ts := by
  obtain ⟨mem, variant, focused, planned, attempted⟩ := attempting
  exact ⟨sub mem, variant, focused, planned, attempted⟩

lemma Submitted.onward (submitted : Submitted setup s work b ts b') : b.Onward b' := by
  induction submitted with
  | done | stopped => exact .refl _
  | unsigned rest ih => exact ih
  | handled x y handled rest ih =>
      exact (Board.onward_focus _ _).trans (handled.touched.onward.trans ih)

lemma Submitted.shows (submitted : Submitted setup s work b ts b') : Shows b.Onward ts := by
  induction submitted with
  | done => exact shows_nil
  | stopped => simp [Step.board?]
  | unsigned rest ih => exact ih
  | @handled task primary index work b ts b₁ us b' x y handled rest ih =>
      have focused := b.onward_focus index
      have working := handled.shows.mono fun _ touched => focused.trans touched.onward
      have later := ih.mono fun _ => (focused.trans handled.touched.onward).trans
      simp [Step.board?, focused, working, later]

/-- Every item that was worked on has ended, unless there was a cancellation. -/
lemma Submitted.ended (submitted : Submitted setup s work b ts b') :
    (∀ {task primary index}, ((task, some primary), index) ∈ work → b'.Ended index) ∨
      ∃ t ∈ ts, t.tellsStop = true := by
  induction submitted with
  | done => exact .inl (by simp)
  | stopped task primary index work b x => exact .inr ⟨⟨.stopped, true, x⟩, by simp, rfl⟩
  | unsigned rest ih =>
      refine ih.imp (fun all => ?_) id
      intro task primary index mem
      exact all (by simpa using mem)
  | handled x y handled rest ih =>
      rcases handled.ended with ended | ⟨t, ht, tells⟩
      · rcases ih with all | ⟨t, ht, tells⟩
        · refine .inl ?_
          intro task primary index mem
          rcases List.mem_cons.1 mem with h | mem
          · cases h
            exact rest.onward.ended ended
          · exact all mem
        · exact .inr ⟨t, by simp [ht], tells⟩
      · exact .inr ⟨t, by simp [ht], tells⟩

/-- A call made while working on the items lies within an attempt at the item in work. -/
theorem Submitted.stretch (submitted : Submitted setup s work b ts b') {u : Turn} {c : Call}
    (calls : u.step.call? = some c) {before after : List Turn} (split : ts = before ++ u :: after) :
    Stretch (Attempting setup s b.tasks work) before u after := by
  induction submitted generalizing before with
  | done => simp at split
  | stopped task primary index work b x =>
      obtain ⟨rfl, rfl, rfl⟩ := place_unique (P := fun u => u.step.call? = some c) [] [] calls
        (by simp) (by simp) split
      cases calls
  | unsigned rest ih => exact (ih split).mono fun _ => .mono (by simp)
  | @handled task primary index work b ts b₁ us b' x y handled rest ih =>
      obtain ⟨between, rfl, rest'⟩ := place_of_append (P := fun u => u.step.call? = some c)
        [_, _] calls (by simp [Step.call?]) split
      refine Stretch.append_left _ ?_
      rcases place_cases rest' with ⟨last, rfl, rfl⟩ | ⟨first, rfl, rfl⟩
      · refine Stretch.append_right us ((handled.stretch calls rfl).mono ?_)
        rintro as ⟨number, v, variant, b₂, r, b₃, touched, attempted⟩
        exact ⟨by simp, variant, touched.currentIndex, touched.tasks, attempted⟩
      · have tasks : b₁.tasks = b.tasks := handled.touched.tasks
        rw [tasks] at ih
        exact Stretch.append_left ts ((ih rfl).mono fun _ => .mono (by simp))

end

/-! ## Dry runs -/

/-- A signed primary draft is simulated while its item is in work. -/
inductive Rehearsing (tasks : List Task) (work : List ((Task × Option Transaction) × Nat)) :
    List Turn → Turn → Prop
  | intro {task primary index board} (earlier : List Turn) (x answer y)
      (mem : ((task, some primary), index) ∈ work) (focused : board.currentIndex = some index)
      (planned : board.tasks = tasks) :
      Rehearsing tasks work (earlier ++ [⟨.publish board, (), x⟩])
        ⟨.call (.simulate primary), answer, y⟩

section

variable {work : List ((Task × Option Transaction) × Nat)} {b b' : Board} {ts : List Turn}

lemma Rehearsing.mono {tasks : List Task} {work' : List ((Task × Option Transaction) × Nat)}
    {u : Turn} (sub : work ⊆ work') (rehearsing : Rehearsing tasks work ts u) :
    Rehearsing tasks work' ts u := by
  obtain ⟨earlier, x, answer, y, mem, focused, planned⟩ := rehearsing
  exact ⟨earlier, x, answer, y, sub mem, focused, planned⟩

lemma Rehearsing.append_left {tasks : List Task} {u : Turn} (us : List Turn)
    (rehearsing : Rehearsing tasks work ts u) : Rehearsing tasks work (us ++ ts) u := by
  obtain ⟨earlier, x, answer, y, mem, focused, planned⟩ := rehearsing
  rw [← List.append_assoc]
  exact ⟨us ++ earlier, x, answer, y, mem, focused, planned⟩

section

variable {primary : Transaction} {index : Nat} {task : Task}

lemma Rehearsal.touched (rehearsal : Rehearsal primary index task b ts b') :
    b.Touched index b' := by
  cases rehearsal <;> exact Board.touched_update fun i => i.onward_stop _ _

lemma Rehearsal.shows (rehearsal : Rehearsal primary index task b ts b') :
    Shows (b.Touched index) ts := by
  have shown := rehearsal.touched
  cases rehearsal <;> simpa [Step.board?] using shown

/-- A rehearsal ends its item, whatever the ledger answers. -/
lemma Rehearsal.ended (rehearsal : Rehearsal primary index task b ts b') : b'.Ended index := by
  cases rehearsal <;> exact Board.ended_update fun i => i.isTerminal_stop rfl _

lemma Rehearsal.first (rehearsal : Rehearsal primary index task b ts b') {u : Turn} {c : Call}
    (calls : u.step.call? = some c) {before after : List Turn} (split : ts = before ++ u :: after) :
    before = [] ∧ ∃ answer x, u = ⟨.call (.simulate primary), answer, x⟩ := by
  cases rehearsal with
  | passed x y | failed e x y z =>
      obtain ⟨rfl, rfl, -⟩ := place_unique (P := fun u => u.step.call? = some c) [] _ calls
        (by simp) (by simp [Step.call?]) split
      exact ⟨rfl, _, x, rfl⟩

end

lemma Rehearsed.onward (rehearsed : Rehearsed work b ts b') : b.Onward b' := by
  induction rehearsed with
  | done | stopped => exact .refl _
  | unsigned rest ih => exact ih
  | simulated x y rehearsal rest ih =>
      exact (Board.onward_focus _ _).trans (rehearsal.touched.onward.trans ih)

lemma Rehearsed.shows (rehearsed : Rehearsed work b ts b') : Shows b.Onward ts := by
  induction rehearsed with
  | done => exact shows_nil
  | stopped => simp [Step.board?]
  | unsigned rest ih => exact ih
  | @simulated task primary index work b ts b₁ us b' x y rehearsal rest ih =>
      have focused := b.onward_focus index
      have working := rehearsal.shows.mono fun _ touched => focused.trans touched.onward
      have later := ih.mono fun _ => (focused.trans rehearsal.touched.onward).trans
      simp [Step.board?, focused, working, later]

/-- Every item that was rehearsed has ended, unless there was a cancellation. -/
lemma Rehearsed.ended (rehearsed : Rehearsed work b ts b') :
    (∀ {task primary index}, ((task, some primary), index) ∈ work → b'.Ended index) ∨
      ∃ t ∈ ts, t.tellsStop = true := by
  induction rehearsed with
  | done => exact .inl (by simp)
  | stopped task primary index work b x => exact .inr ⟨⟨.stopped, true, x⟩, by simp, rfl⟩
  | unsigned rest ih =>
      refine ih.imp (fun all => ?_) id
      intro task primary index mem
      exact all (by simpa using mem)
  | simulated x y rehearsal rest ih =>
      rcases ih with all | ⟨t, ht, tells⟩
      · refine .inl ?_
        intro task primary index mem
        rcases List.mem_cons.1 mem with h | mem
        · cases h
          exact rest.onward.ended rehearsal.ended
        · exact all mem
      · exact .inr ⟨t, by simp [ht], tells⟩

/-- The only calls of a dry run are simulations of the primary draft of the item in work. -/
lemma Rehearsed.rehearsing (rehearsed : Rehearsed work b ts b') {u : Turn} {c : Call}
    (calls : u.step.call? = some c) {before after : List Turn} (split : ts = before ++ u :: after) :
    Rehearsing b.tasks work before u := by
  induction rehearsed generalizing before with
  | done => simp at split
  | stopped task primary index work b x =>
      obtain ⟨rfl, rfl, rfl⟩ := place_unique (P := fun u => u.step.call? = some c) [] [] calls
        (by simp) (by simp) split
      cases calls
  | unsigned rest ih => exact (ih split).mono (by simp)
  | @simulated task primary index work b ts b₁ us b' x y rehearsal rest ih =>
      obtain ⟨between, rfl, rest'⟩ := place_of_append (P := fun u => u.step.call? = some c)
        [_, _] calls (by simp [Step.call?]) split
      rcases place_cases rest' with ⟨last, rfl, rfl⟩ | ⟨first, rfl, rfl⟩
      · obtain ⟨rfl, answer, z, rfl⟩ := rehearsal.first calls rfl
        exact ⟨[_], y, answer, z, List.mem_cons_self, rfl, rfl⟩
      · have tasks : b₁.tasks = b.tasks := rehearsal.touched.tasks
        rw [tasks] at ih
        exact ((ih rfl).mono (by simp)).append_left (_ :: _ :: ts)

end

/-! ## The outcome of signing -/

/-- The slot of a signed primary draft holds the transaction; without a signature it is empty, and
the item has ended. -/
inductive Slot (b : Board) :
    (Task × Transaction × Option SignerError) × Nat → Option Transaction → Prop
  | signed (task transaction index) : Slot b ((task, transaction, none), index) (some transaction)
  | refused (task transaction e) {index} (ended : b.Ended index) :
      Slot b ((task, transaction, some e), index) none

section

variable {entries : List ((Task × Transaction × Option SignerError) × Nat)}
  {slots : List (Option Transaction)} {b b' : Board} {ts : List Turn}

lemma Settled.onward (settled : Settled entries b ts slots b') : b.Onward b' := by
  induction settled with
  | done => exact .refl _
  | signed x settled ih => exact (Board.onward_update fun i => i.onward_advance _).trans ih
  | refused x y settled ih => exact (Board.onward_update fun i => i.onward_stop _ _).trans ih

lemma Settled.shows (settled : Settled entries b ts slots b') : Shows b.Onward ts := by
  induction settled with
  | done => exact shows_nil
  | @signed task transaction index rest b ts slots b' x settled ih =>
      have moved : b.Onward (b.update index fun i => (i.advance .signed).2) :=
        Board.onward_update fun i => i.onward_advance .signed
      simpa [Step.board?, moved] using ih.mono fun _ => moved.trans
  | @refused task transaction e index rest b ts slots b' x y settled ih =>
      have moved : b.Onward (b.update index fun i => (i.fail e.message).2) :=
        Board.onward_update fun i => i.onward_stop .error e.message
      simpa [Step.board?, moved] using ih.mono fun _ => moved.trans

lemma Settled.callless (settled : Settled entries b ts slots b') :
    ∀ t ∈ ts, t.step.call? = none := by
  induction settled with
  | done => simp
  | signed x settled ih | refused x y settled ih => simpa [Step.call?] using ih

lemma Settled.filled (settled : Settled entries b ts slots b') :
    List.Forall₂ (Slot b') entries slots := by
  induction settled with
  | done => exact .nil
  | signed x settled ih => exact .cons (.signed _ _ _) ih
  | refused x y settled ih =>
      have ended := settled.onward.ended (Board.ended_update fun i => i.isTerminal_stop rfl _)
      exact .cons (.refused _ _ _ ended) ih

/-- Every task has its slot, made from a transaction with the message of its primary draft. -/
lemma Settled.slot {plan : Plan} {outcome : Signatures}
    (settled : Settled (Run.entries plan outcome) b ts slots b')
    (aligned : Signing.Aligned (plan.tasks.map fun t => t.primary.transaction) outcome)
    {index : Nat} (h : index < plan.tasks.length) :
    ∃ t error filling, slots[index]? = some filling ∧
      t.message = plan.tasks[index].primary.transaction.message ∧
      Slot b' ((plan.tasks[index], t, error), index) filling := by
  have transactions : outcome.transactions.length = plan.tasks.length := by
    simpa using aligned.messages.length_eq.symm
  have errors : outcome.errors.length = plan.tasks.length := by simpa using aligned.errors
  have filled := settled.filled
  have lengths : slots.length = plan.tasks.length := by
    rw [← filled.length_eq]
    simp [Run.entries, transactions, errors]
  refine ⟨outcome.transactions[index], outcome.errors[index], slots[index],
    List.getElem?_eq_getElem _, ?_, ?_⟩
  · have message := aligned.messages.get (i := index) (by simpa using h) (by omega)
    simpa only [List.get_eq_getElem, List.getElem_map] using message
  · have slot := filled.get (i := index) (by simp [Run.entries]; omega) (by omega)
    simpa only [List.get_eq_getElem, Run.entries, List.getElem_zipIdx, List.getElem_zip,
      Nat.zero_add] using slot

/-- The slots are in line with the tasks: a filled one holds the primary draft's own message, and
the item of an empty one has ended. -/
lemma Settled.work {plan : Plan} {outcome : Signatures}
    (settled : Settled (Run.entries plan outcome) b ts slots b')
    (aligned : Signing.Aligned (plan.tasks.map fun t => t.primary.transaction) outcome) :
    (∀ {task primary index}, ((task, some primary), index) ∈ (plan.tasks.zip slots).zipIdx →
      plan.tasks[index]? = some task ∧ primary.message = task.primary.transaction.message) ∧
    ∀ {index}, index < plan.tasks.length →
      b'.Ended index ∨
        ∃ task primary, ((task, some primary), index) ∈ (plan.tasks.zip slots).zipIdx := by
  constructor
  · intro task primary index mem
    obtain ⟨planned, slotted⟩ :
        plan.tasks[index]? = some task ∧ slots[index]? = some (some primary) :=
      List.getElem?_zip_eq_some.1 (List.mem_zipIdx_iff_getElem?.1 mem)
    obtain ⟨h, rfl⟩ := List.getElem?_eq_some_iff.1 planned
    obtain ⟨t, error, filling, found, message, slot⟩ := settled.slot aligned h
    obtain rfl := Option.some.inj (found.symm.trans slotted)
    cases slot
    exact ⟨planned, message⟩
  · intro index h
    obtain ⟨t, error, filling, found, -, slot⟩ := settled.slot aligned h
    cases slot with
    | refused task t e ended => exact .inl ended
    | signed task t =>
        have here : (plan.tasks.zip slots)[index]? = some (plan.tasks[index], some t) :=
          List.getElem?_zip_eq_some.2 ⟨List.getElem?_eq_getElem h, found⟩
        exact .inr ⟨plan.tasks[index], t, List.mem_zipIdx_iff_getElem?.2 here⟩

end

end Run

end PoolExit
