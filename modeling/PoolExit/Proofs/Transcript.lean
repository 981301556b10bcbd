import PoolExit.Exit.Desk
import Mathlib.Data.List.DropRight
import Mathlib.Tactic.Common

/-!
# Transcripts of talks

A law about a run has to hold whatever the venues, the wallet and the ledger answer, and whenever
the run is cancelled.  So it is stated over transcripts.  A `Turn` is one step of a talk with its
answer, and it says whether the run was cancelled between this step and the next one.

What a transcript has to satisfy comes in two parts that do not meet until the end:

* `Talk.Goes` reads the talk alone: from the answers it follows which step comes next and what the
  result is.  Its laws (`goes_bind`, `goes_call`, ...) take a talk apart into its pieces.
* `Desk.Admits` reads the desk alone: the question whether the run is cancelled is answered with
the
  truth, and a call is only given up where the run is cancelled.

`Desk.Ran` puts both together for a whole run.  Everything else is free, so a transcript stands for
every wallet, every ledger and every moment of cancellation there can be.
-/

namespace PoolExit

/-- A step of a talk and its answer.  `aborted` says whether the run was cancelled after the step
was begun and before the next one. -/
structure Turn where
  step : Step
  answer : step.Answer
  aborted : Bool

/-- The call that a step makes, if it makes one. -/
def Step.call? : Step → Option Call
  | .call c | .race c => some c
  | _ => none

/-- A call is waited for, or raced. -/
lemma Step.call_or_race {s : Step} {c : Call} (calls : s.call? = some c) :
    s = .call c ∨ s = .race c := by
  cases s with
  | call c' => exact .inl (congrArg Step.call (Option.some.inj calls))
  | race c' => exact .inr (congrArg Step.race (Option.some.inj calls))
  | stopped | publish | note => cases calls

/-- The board that a step shows, if it shows one. -/
def Step.board? : Step → Option Board
  | .publish b => some b
  | _ => none

/-- The event that a step shows, if it shows one. -/
def Step.notice? : Step → Option Notice
  | .note n => some n
  | _ => none

/-- The item that an event is about. -/
def Notice.index? : Notice → Option Nat
  | .attempt index .. | .attemptFailed index .. | .confirmed index .. | .failed index .. => some index
  | _ => none

/-- The counts that the last event of a run shows, and whether the run was cancelled. -/
def Notice.finished? : Notice → Option (Summary × Bool)
  | .finished summary cancelled => some (summary, cancelled)
  | _ => none

/-- An event that is neither about an item nor the last one of a run. -/
structure Notice.Aside (n : Notice) : Prop where
  index : n.index? = none
  finished : n.finished? = none

/-- A step that shows no board and makes a call of one kind, if it makes one. -/
def Step.Quiet (K : Call → Prop) (s : Step) : Prop := s.board? = none ∧ ∀ c, s.call? = some c → K c

lemma Step.Quiet.mono {K L : Call → Prop} (hKL : ∀ c, K c → L c) {s : Step} (h : s.Quiet K) :
    s.Quiet L := ⟨h.1, fun c hc => hKL c (h.2 c hc)⟩

/-- A quiet step that shows an event of one kind, if it shows one. -/
structure Step.Held (K : Call → Prop) (N : Notice → Prop) (s : Step) : Prop where
  quiet : s.Quiet K
  notices : ∀ n, s.notice? = some n → N n

namespace Step

variable {K : Call → Prop} {N : Notice → Prop}

lemma Held.mono {L : Call → Prop} (hKL : ∀ c, K c → L c) {s : Step} (h : s.Held K N) :
    s.Held L N := ⟨h.quiet.mono hKL, h.notices⟩

lemma held_call {c : Call} (h : K c) : Held K N (.call c) := by
  refine ⟨⟨rfl, fun c' calls => ?_⟩, fun _ shown => nomatch shown⟩
  obtain rfl := Option.some.inj calls
  exact h

lemma held_race {c : Call} (h : K c) : Held K N (.race c) := by
  refine ⟨⟨rfl, fun c' calls => ?_⟩, fun _ shown => nomatch shown⟩
  obtain rfl := Option.some.inj calls
  exact h

lemma held_stopped : Held K N .stopped := ⟨⟨rfl, nofun⟩, fun _ shown => nomatch shown⟩

lemma held_note {n : Notice} (h : N n) : Held K N (.note n) := by
  refine ⟨⟨rfl, nofun⟩, fun n' shown => ?_⟩
  obtain rfl := Option.some.inj shown
  exact h

end Step

/-! ## Paths through a talk -/

namespace Talk

variable {α β : Type}

/-- The talk goes through the turns and ends with the result. -/
def Goes : Talk α → List Turn → α → Prop
  | .done b, turns, a => turns = [] ∧ b = a
  | .ask step next, turns, a => ∃ answer aborted rest,
      turns = ⟨step, answer, aborted⟩ :: rest ∧ Goes (next answer) rest a

@[simp] lemma goes_pure {b a : α} {ts : List Turn} :
    Goes (pure b : Talk α) ts a ↔ ts = [] ∧ b = a := Iff.rfl

/-- A talk made of two pieces goes through the turns of the first and then of the second. -/
theorem goes_bind {p : Talk α} {f : α → Talk β} {ts : List Turn} {b : β} :
    Goes (p >>= f) ts b ↔ ∃ a us vs, ts = us ++ vs ∧ Goes p us a ∧ Goes (f a) vs b := by
  induction p generalizing ts with
  | done c =>
      constructor
      · intro h
        exact ⟨c, [], ts, rfl, ⟨rfl, rfl⟩, h⟩
      · rintro ⟨a, us, vs, rfl, ⟨rfl, rfl⟩, h⟩
        exact h
  | ask s next ih =>
      constructor
      · rintro ⟨answer, aborted, rest, rfl, h⟩
        obtain ⟨a, us, vs, rfl, h₁, h₂⟩ := (ih answer).1 h
        exact ⟨a, _, vs, rfl, ⟨answer, aborted, us, rfl, h₁⟩, h₂⟩
      · rintro ⟨a, us, vs, rfl, ⟨answer, aborted, us', rfl, h₁⟩, h₂⟩
        exact ⟨answer, aborted, us' ++ vs, rfl, (ih answer).2 ⟨a, us', vs, rfl, h₁, h₂⟩⟩

lemma goes_map {p : Talk α} {f : α → β} {ts : List Turn} {b : β} :
    Goes (f <$> p) ts b ↔ ∃ a, Goes p ts a ∧ f a = b := by
  rw [map_eq_pure_bind, goes_bind]
  constructor
  · rintro ⟨a, us, vs, rfl, h, rfl, rfl⟩
    exact ⟨a, by simpa using h, rfl⟩
  · rintro ⟨a, h, rfl⟩
    exact ⟨a, ts, [], by simp, h, rfl, rfl⟩

/-- A talk that goes through the beginning of a transcript has no choice where it ends and how. -/
lemma Goes.unique {p : Talk α} {ts us vs ws : List Turn} {a b : α} (h : Goes p ts a)
    (h' : Goes p us b) (same : ts ++ vs = us ++ ws) : ts = us ∧ a = b ∧ vs = ws := by
  induction p generalizing ts us with
  | done c =>
      obtain ⟨rfl, rfl⟩ := h
      obtain ⟨rfl, rfl⟩ := h'
      exact ⟨rfl, rfl, same⟩
  | ask s next ih =>
      obtain ⟨answer, aborted, ts, rfl, h⟩ := h
      obtain ⟨answer', aborted', us, rfl, h'⟩ := h'
      obtain ⟨turn, rest⟩ := List.cons.inj same
      cases turn
      obtain ⟨rfl, rfl, rfl⟩ := ih answer h h' rest
      exact ⟨rfl, rfl, rfl⟩

lemma goes_question {s : Step} {ts : List Turn} {a : s.Answer} :
    Goes (Flow.question s) ts a ↔ ∃ x, ts = [⟨s, a, x⟩] := by
  constructor
  · rintro ⟨answer, aborted, rest, rfl, rfl, rfl⟩
    exact ⟨aborted, rfl⟩
  · rintro ⟨x, rfl⟩
    exact ⟨a, x, [], rfl, rfl, rfl⟩

@[simp] theorem goes_call {c : Call} {ts : List Turn} {a : c.Answer} :
    Goes (Talk.call c) ts a ↔ ∃ x, ts = [⟨.call c, a, x⟩] := goes_question

@[simp] lemma goes_stopped {ts : List Turn} {a : Bool} :
    Goes Talk.stopped ts a ↔ ∃ x, ts = [⟨.stopped, a, x⟩] := goes_question

@[simp] lemma goes_note {n : Notice} {ts : List Turn} {a : Unit} :
    Goes (Talk.note n) ts a ↔ ∃ x, ts = [⟨.note n, a, x⟩] := goes_question

@[simp] lemma goes_publish {b : Board} {ts : List Turn} {a : Unit} :
    Goes (Talk.publish b) ts a ↔ ∃ x, ts = [⟨.publish b, a, x⟩] := goes_question

/-! ## What a talk asks at all -/

/-- Whatever is answered, the talk shows no board and makes only calls of one kind. -/
def CallsOnly (K : Call → Prop) : Talk α → Prop
  | .done _ => True
  | .ask step next => step.Quiet K ∧ ∀ answer, CallsOnly K (next answer)

/-- Whatever is answered, the talk shows no board, makes only calls of one kind and shows only
events of one kind. -/
def Only (K : Call → Prop) (N : Notice → Prop) : Talk α → Prop
  | .done _ => True
  | .ask step next => step.Held K N ∧ ∀ answer, Only K N (next answer)

variable {K : Call → Prop} {N : Notice → Prop}

lemma Only.callsOnly {p : Talk α} (h : Only K N p) : CallsOnly K p := by
  induction p with
  | done a => trivial
  | ask s next ih => exact ⟨h.1.quiet, fun answer => ih answer (h.2 answer)⟩

lemma CallsOnly.of_goes {p : Talk α} (h : CallsOnly K p) {ts : List Turn} {a : α}
    (go : Goes p ts a) : ∀ t ∈ ts, t.step.Quiet K := by
  induction p generalizing ts with
  | done b =>
      obtain ⟨rfl, rfl⟩ := go
      simp
  | ask s next ih =>
      obtain ⟨answer, aborted, rest, rfl, go⟩ := go
      intro t ht
      rcases List.mem_cons.1 ht with rfl | ht
      · exact h.1
      · exact ih answer (h.2 answer) go t ht

lemma CallsOnly.mono {L : Call → Prop} {p : Talk α} (hKL : ∀ c, K c → L c)
    (h : CallsOnly K p) : CallsOnly L p := by
  induction p with
  | done a => trivial
  | ask s next ih => exact ⟨h.1.mono hKL, fun answer => ih answer (h.2 answer)⟩

lemma Only.of_goes {p : Talk α} (h : Only K N p) {ts : List Turn} {a : α}
    (go : Goes p ts a) : ∀ t ∈ ts, t.step.Held K N := by
  induction p generalizing ts with
  | done b =>
      obtain ⟨rfl, rfl⟩ := go
      simp
  | ask s next ih =>
      obtain ⟨answer, aborted, rest, rfl, go⟩ := go
      intro t ht
      rcases List.mem_cons.1 ht with rfl | ht
      · exact h.1
      · exact ih answer (h.2 answer) go t ht

lemma Only.mono {L : Call → Prop} {p : Talk α} (hKL : ∀ c, K c → L c) (h : Only K N p) :
    Only L N p := by
  induction p with
  | done a => trivial
  | ask s next ih => exact ⟨h.1.mono hKL, fun answer => ih answer (h.2 answer)⟩

lemma Only.quiet_of_goes {p : Talk α} (h : Only K N p) {ts : List Turn} {a : α}
    (go : Goes p ts a) : ∀ t ∈ ts, t.step.Quiet K := fun t ht => (h.of_goes go t ht).quiet

lemma only_pure (a : α) : Only K N (pure a : Talk α) := trivial

lemma Only.bind {p : Talk α} {f : α → Talk β} (hp : Only K N p) (hf : ∀ a, Only K N (f a)) :
    Only K N (p >>= f) := by
  induction p with
  | done a => exact hf a
  | ask s next ih => exact ⟨hp.1, fun answer => ih answer (hp.2 answer)⟩

lemma Only.map {p : Talk α} (hp : Only K N p) (f : α → β) : Only K N (f <$> p) := by
  rw [map_eq_pure_bind]
  exact hp.bind fun a => only_pure _

lemma only_question {s : Step} (held : s.Held K N) : Only K N (Flow.question s) :=
  ⟨held, fun _ => trivial⟩

lemma only_call {c : Call} (h : K c) : Only K N (Talk.call c) := only_question (Step.held_call h)

lemma only_stopped : Only K N Talk.stopped := only_question Step.held_stopped

lemma only_note {n : Notice} (h : N n) : Only K N (Talk.note n) := only_question (Step.held_note h)

lemma only_noteAll : ∀ {ns : List Notice}, (∀ n ∈ ns, N n) → Only K N (noteAll ns)
  | [], _ => trivial
  | n :: _, h => (only_note (h n List.mem_cons_self)).bind fun _ =>
      only_noteAll fun n hn => h n (List.mem_cons_of_mem _ hn)

lemma interruptible_call (c : Call) (next : c.Answer → Talk α) :
    interruptible (.ask (.call c) next) =
      .ask (.race c) fun answer => answer.elim (.done none) fun a => interruptible (next a) := by
  rw [interruptible]
  congr 1
  funext answer
  cases answer <;> rfl

/-- Giving up early adds no new calls and no new events. -/
lemma Only.interruptible {p : Talk α} (h : Only K N p) : Only K N p.interruptible := by
  induction p with
  | done a => trivial
  | ask s next ih =>
      cases s with
      | call c =>
          rw [interruptible_call]
          refine ⟨⟨h.1.quiet, fun _ shown => nomatch shown⟩, fun answer => ?_⟩
          cases answer with
          | none => trivial
          | some a => exact ih a (h.2 a)
      | race _ | stopped | publish _ | note _ =>
          exact ⟨h.1, fun answer => ih answer (h.2 answer)⟩

lemma Only.untilStopped {p : Talk α} (h : Only K N p) : Only K N p.untilStopped := by
  refine only_stopped.bind fun b => ?_
  cases b with
  | true => exact only_pure _
  | false => exact h.interruptible

end Talk

/-! ## Calls that lose against a cancellation -/

namespace Turn

/-- The turn as it reads where its call is raced. -/
def raced : Turn → Turn
  | ⟨.call c, a, x⟩ => ⟨.race c, some a, x⟩
  | t => t

/-- Whether a turn tells the talk that the run is cancelled. -/
def tellsStop : Turn → Bool
  | ⟨.stopped, b, _⟩ => b
  | ⟨.race _, none, _⟩ => true
  | _ => false

end Turn

namespace Talk

variable {α : Type}

/-- A talk that was not given up went through the turns of the plain talk, its calls raced. -/
lemma Goes.of_interruptible_some {p : Talk α} {ts : List Turn} {a : α}
    (h : Goes p.interruptible ts (some a)) : ∃ us, Goes p us a ∧ ts = us.map Turn.raced := by
  induction p generalizing ts with
  | done b =>
      obtain ⟨rfl, h⟩ := h
      exact ⟨[], ⟨rfl, Option.some.inj h⟩, rfl⟩
  | ask s next ih =>
      cases s with
      | call c =>
          rw [interruptible_call] at h
          obtain ⟨answer, x, rest, rfl, h⟩ := h
          cases answer with
          | none =>
              obtain ⟨-, h⟩ := h
              cases h
          | some b =>
              obtain ⟨us, go, rfl⟩ := ih b h
              exact ⟨⟨.call c, b, x⟩ :: us, ⟨b, x, us, rfl, go⟩, rfl⟩
      | race _ | stopped | publish _ | note _ =>
          obtain ⟨answer, x, rest, rfl, h⟩ := h
          obtain ⟨us, go, rfl⟩ := ih answer h
          exact ⟨⟨_, answer, x⟩ :: us, ⟨answer, x, us, rfl, go⟩, rfl⟩

/-- A talk that was given up ended with the call that lost. -/
lemma Goes.of_interruptible_none {p : Talk α} {ts : List Turn}
    (h : Goes p.interruptible ts none) : ∃ us c x, ts = us ++ [⟨.race c, none, x⟩] := by
  induction p generalizing ts with
  | done b =>
      obtain ⟨-, h⟩ := h
      cases h
  | ask s next ih =>
      have step : ∀ {t : Turn} {rest : List Turn},
          (∃ us c x, rest = us ++ [⟨.race c, none, x⟩]) →
          ∃ us c x, t :: rest = us ++ [⟨.race c, none, x⟩] := by
        rintro t _ ⟨us, c, x, rfl⟩
        exact ⟨t :: us, c, x, rfl⟩
      cases s with
      | call c =>
          rw [interruptible_call] at h
          obtain ⟨answer, x, rest, rfl, h⟩ := h
          cases answer with
          | none =>
              obtain ⟨rfl, -⟩ := h
              exact ⟨[], c, x, rfl⟩
          | some b => exact step (ih b h)
      | race _ | stopped | publish _ | note _ =>
          obtain ⟨answer, x, rest, rfl, h⟩ := h
          exact step (ih answer h)

/-- Every call of a talk that may be given up is raced. -/
lemma Goes.raced_of_interruptible {p : Talk α} {ts : List Turn} {r : Option α}
    (h : Goes p.interruptible ts r) : ∀ t ∈ ts, ∀ c, t.step ≠ .call c := by
  induction p generalizing ts with
  | done b =>
      obtain ⟨rfl, -⟩ := h
      simp
  | ask s next ih =>
      cases s with
      | call c =>
          rw [interruptible_call] at h
          obtain ⟨answer, x, rest, rfl, h⟩ := h
          refine List.forall_mem_cons.2 ⟨nofun, ?_⟩
          cases answer with
          | none =>
              obtain ⟨rfl, -⟩ := h
              simp
          | some b => exact ih b h
      | race _ | stopped | publish _ | note _ =>
          obtain ⟨answer, x, rest, rfl, h⟩ := h
          exact List.forall_mem_cons.2 ⟨nofun, ih answer h⟩

lemma Goes.raced_of_untilStopped {p : Talk α} {ts : List Turn} {r : Option α}
    (h : Goes p.untilStopped ts r) : ∀ t ∈ ts, ∀ c, t.step ≠ .call c := by
  obtain ⟨b, us, vs, rfl, hs, go⟩ := goes_bind.1 h
  obtain ⟨x, rfl⟩ := goes_stopped.1 hs
  refine List.forall_mem_cons.2 ⟨nofun, ?_⟩
  cases b with
  | true =>
      obtain ⟨rfl, -⟩ := goes_pure.1 go
      simp
  | false => exact Goes.raced_of_interruptible go

/-- A talk that may be given up either goes through to its end, or the last turn tells why not. -/
lemma Goes.of_untilStopped {p : Talk α} {ts : List Turn} {r : Option α}
    (h : Goes p.untilStopped ts r) :
    (∃ a x us, r = some a ∧ ts = ⟨.stopped, false, x⟩ :: us.map Turn.raced ∧ Goes p us a) ∨
      (r = none ∧ ∃ us t, ts = us ++ [t] ∧ t.tellsStop = true) := by
  obtain ⟨b, us, vs, rfl, hs, go⟩ := goes_bind.1 h
  obtain ⟨x, rfl⟩ := goes_stopped.1 hs
  cases b with
  | true =>
      obtain ⟨rfl, rfl⟩ := goes_pure.1 go
      exact .inr ⟨rfl, [], _, rfl, rfl⟩
  | false =>
      cases r with
      | none =>
          obtain ⟨us, c, y, rfl⟩ := Goes.of_interruptible_none go
          exact .inr ⟨rfl, _ :: us, _, rfl, rfl⟩
      | some a =>
          obtain ⟨us, plain, rfl⟩ := Goes.of_interruptible_some go
          exact .inl ⟨a, x, us, rfl, rfl, plain⟩

/-- A single call is either not made, or made and raced. -/
lemma Goes.of_untilStopped_call {c : Call} {ts : List Turn} {r : Option c.Answer}
    (h : Goes (Talk.call c).untilStopped ts r) :
    (∃ x, ts = [⟨.stopped, true, x⟩] ∧ r = none) ∨
      ∃ x y, ts = [⟨.stopped, false, x⟩, ⟨.race c, r, y⟩] := by
  obtain ⟨b, us, vs, rfl, hs, go⟩ := goes_bind.1 h
  obtain ⟨x, rfl⟩ := goes_stopped.1 hs
  cases b with
  | true =>
      obtain ⟨rfl, rfl⟩ := goes_pure.1 go
      exact .inl ⟨x, rfl, rfl⟩
  | false =>
      rw [if_neg Bool.false_ne_true, Talk.call, Flow.question, interruptible_call] at go
      obtain ⟨answer, y, rest, rfl, done⟩ := go
      refine .inr ⟨x, y, ?_⟩
      cases answer with
      | none | some a =>
          obtain ⟨rfl, rfl⟩ := done
          rfl

end Talk

/-! ## The boards of a transcript -/

/-- Every board that is shown has a property. -/
def Shows (P : Board → Prop) (ts : List Turn) : Prop := ∀ t ∈ ts, ∀ b, t.step.board? = some b → P b

section

variable {P Q : Board → Prop} {t : Turn} {ts us : List Turn}

@[simp] lemma shows_nil : Shows P [] := by simp [Shows]

@[simp] lemma shows_cons :
    Shows P (t :: ts) ↔ (∀ b, t.step.board? = some b → P b) ∧ Shows P ts := List.forall_mem_cons

@[simp] lemma shows_append : Shows P (ts ++ us) ↔ Shows P ts ∧ Shows P us :=
  List.forall_mem_append

lemma Shows.mono (hPQ : ∀ b, P b → Q b) (h : Shows P ts) : Shows Q ts :=
  fun t ht b hb => hPQ b (h t ht b hb)

lemma shows_of_quiet {K : Call → Prop} (quiet : ∀ t ∈ ts, t.step.Quiet K) : Shows P ts := by
  intro t ht b hb
  rw [(quiet t ht).1] at hb
  cases hb

end

/-- Every board that is shown is that of a run under way. -/
abbrev ShowsActive (ts : List Turn) : Prop := Shows (fun b => b.isActive = true) ts

/-! ## What a desk admits -/

namespace Desk

/-- The desk after a step, before the next cancellation. -/
def see (d : Desk) : Step → Desk
  | .publish b => d.publish b
  | _ => d

/-- The desk after a turn. -/
def after (d : Desk) (t : Turn) : Desk :=
  if t.aborted then (d.see t.step).abort.2 else d.see t.step

/-- The desk after several turns. -/
def afterAll (d : Desk) (ts : List Turn) : Desk := ts.foldl after d

@[simp] lemma afterAll_nil (d : Desk) : d.afterAll [] = d := rfl

@[simp] lemma afterAll_cons (d : Desk) (t : Turn) (ts : List Turn) :
    d.afterAll (t :: ts) = (d.after t).afterAll ts := rfl

@[simp] lemma afterAll_append (d : Desk) (ts us : List Turn) :
    d.afterAll (ts ++ us) = (d.afterAll ts).afterAll us := List.foldl_append

end Desk

/-- A turn fits a desk: only a run under way is cancelled, the question whether it is cancelled is
answered with the truth, and a call is given up only if it is. -/
structure Turn.Fits (t : Turn) (d : Desk) : Prop where
  token : t.aborted = true → (d.see t.step).token.isSome = true
  stopped : ∀ {b x}, t = ⟨.stopped, b, x⟩ → b = d.stopped
  givenUp : ∀ {c x}, t = ⟨.race c, none, x⟩ → (d.after t).stopped = true

namespace Turn

variable {c : Call} {x : Bool} {d : Desk}

lemma fits_call {answer : c.Answer} (running : x = true → d.token.isSome = true) :
    Fits ⟨.call c, answer, x⟩ d := ⟨running, nofun, nofun⟩

/-- A raced call may be given up where the run is cancelled by its end. -/
lemma fits_race {answer : Option c.Answer} (running : x = true → d.token.isSome = true)
    (givenUp : answer = none → (d.after ⟨.race c, answer, x⟩).stopped = true) :
    Fits ⟨.race c, answer, x⟩ d := by
  refine ⟨running, nofun, ?_⟩
  rintro _ _ h
  cases h
  exact givenUp rfl

lemma fits_stopped (d : Desk) : Fits ⟨.stopped, d.stopped, false⟩ d := by
  refine ⟨nofun, ?_, nofun⟩
  rintro _ _ h
  cases h
  rfl

lemma fits_publish (b : Board) (d : Desk) : Fits ⟨.publish b, (), false⟩ d :=
  ⟨nofun, nofun, nofun⟩

lemma fits_note (n : Notice) (d : Desk) : Fits ⟨.note n, (), false⟩ d := ⟨nofun, nofun, nofun⟩

end Turn

namespace Desk

/-- Every turn fits the desk at which it is taken. -/
def Admits (d : Desk) : List Turn → Prop
  | [] => True
  | t :: ts => t.Fits d ∧ (d.after t).Admits ts

lemma admits_append {d : Desk} {ts us : List Turn} :
    d.Admits (ts ++ us) ↔ d.Admits ts ∧ (d.afterAll ts).Admits us := by
  induction ts generalizing d with
  | nil => simp [Admits]
  | cons t ts ih => simp [Admits, ih, and_assoc]

/-! ## Cancellation at a desk -/

lemma stopped_abort {d : Desk} (h : d.token.isSome = true) : d.abort.2.stopped = true := by
  obtain ⟨b, hb⟩ := Option.isSome_iff_exists.1 h
  simp [abort, stopped, hb]

lemma stopped_abort_of_stopped {d : Desk} (h : d.stopped = true) : d.abort.2.stopped = true := by
  unfold abort
  split
  · rfl
  · exact h

/-- After a cancellation the desk knows of it. -/
lemma stopped_after_of_aborted {d : Desk} {t : Turn} (fits : t.Fits d)
    (aborted : t.aborted = true) : (d.after t).stopped = true := by
  rw [after, if_pos aborted]
  exact stopped_abort (fits.token aborted)

/-- While only boards of a run under way are shown, a cancellation stays known. -/
lemma stopped_after {d : Desk} {t : Turn} (h : d.stopped = true)
    (active : ∀ b, t.step.board? = some b → b.isActive = true) : (d.after t).stopped = true := by
  have seen : (d.see t.step).stopped = true := by
    unfold see
    split
    next b hb =>
      have act : b.isActive = true := active b (by rw [hb]; rfl)
      rw [publish, if_pos act]
      simpa [stopped] using h
    next => exact h
  unfold after
  split
  · exact stopped_abort_of_stopped seen
  · exact seen

lemma stopped_afterAll {d : Desk} {ts : List Turn} (h : d.stopped = true)
    (active : ShowsActive ts) : (d.afterAll ts).stopped = true := by
  induction ts generalizing d with
  | nil => exact h
  | cons t ts ih =>
      exact ih (stopped_after h (active t (by simp))) fun u hu => active u (by simp [hu])

/-- A turn that tells the talk of a cancellation tells the truth. -/
lemma stopped_of_tellsStop {d : Desk} {t : Turn} (fits : t.Fits d) (tells : t.tellsStop = true) :
    (d.after t).stopped = true := by
  obtain ⟨step, answer, x⟩ := t
  cases step with
  | stopped =>
      have hb : answer = true := tells
      have known : d.stopped = true := by rw [← fits.stopped rfl, hb]
      exact stopped_after known (by simp [Step.board?])
  | race c =>
      cases answer with
      | none => exact fits.givenUp rfl
      | some a => cases tells
  | call _ | publish _ | note _ => cases tells

lemma Admits.fits {d : Desk} {ts us : List Turn} {t : Turn} (h : d.Admits (ts ++ t :: us)) :
    t.Fits (d.afterAll ts) := (admits_append.1 h).2.1

/-- A cancellation is known as long as the run is under way. -/
lemma Admits.stopped_of_aborted {d : Desk} {ts us : List Turn} {t : Turn}
    (h : d.Admits (ts ++ t :: us)) (aborted : t.aborted = true) (active : ShowsActive us) :
    (d.afterAll (ts ++ t :: us)).stopped = true := by
  rw [afterAll_append, afterAll_cons]
  exact stopped_afterAll (stopped_after_of_aborted h.fits aborted) active

lemma Admits.stopped_of_tellsStop {d : Desk} {ts : List Turn} {t : Turn} (h : d.Admits ts)
    (mem : t ∈ ts) (tells : t.tellsStop = true) (active : ShowsActive ts) :
    (d.afterAll ts).stopped = true := by
  obtain ⟨before, after, rfl⟩ := List.append_of_mem mem
  rw [afterAll_append, afterAll_cons]
  refine stopped_afterAll (Desk.stopped_of_tellsStop h.fits tells) ?_
  exact (shows_cons.1 (shows_append.1 active).2).2

/-! ## Desks with and without a token -/

/-- The desk holds a token just while a run is under way. -/
def Sound (d : Desk) : Prop := d.token.isSome = d.board.isActive

lemma sound_default : Sound {} := rfl

lemma sound_publish (d : Desk) (b : Board) : (d.publish b).Sound := by
  unfold Sound publish
  cases b.isActive <;> rfl

section

variable {d : Desk}

lemma Sound.abort (sound : d.Sound) : d.abort.2.Sound := by
  unfold Sound Desk.abort at *
  split
  next b token =>
    rw [token] at sound
    exact sound
  next => exact sound

lemma Sound.drop (sound : d.Sound) : d.drop.Sound := by
  unfold Desk.drop
  split
  · exact sound_publish d _
  · exact sound

lemma Sound.after (sound : d.Sound) (t : Turn) : (d.after t).Sound := by
  have seen : (d.see t.step).Sound := by
    unfold see
    split
    · exact sound_publish d _
    · exact sound
  unfold Desk.after
  split
  · exact seen.abort
  · exact seen

/-- A desk that takes on a run has not heard of a cancellation yet. -/
lemma Sound.stopped_eq_false (sound : d.Sound) {o : Options} (accepted : d.accept o = .ok ()) :
    d.stopped = false := by
  have idle : d.board.isActive = false := by
    unfold accept at accepted
    split at accepted
    · cases accepted
    · simpa using accepted
  have none : d.token = none := by
    rw [Sound, idle] at sound
    simpa using sound
  rw [stopped, none]
  rfl

/-- What a desk knows of a cancellation it knew before, or there was one. -/
lemma aborted_of_stopped {ts : List Turn} (stopped : (d.afterAll ts).stopped = true) :
    d.stopped = true ∨ ∃ t ∈ ts, t.aborted = true := by
  induction ts generalizing d with
  | nil => exact .inl stopped
  | cons t ts ih =>
      rcases ih stopped with known | ⟨u, hu, aborted⟩
      · cases aborted : t.aborted with
        | true => exact .inr ⟨t, by simp, aborted⟩
        | false =>
            refine .inl ?_
            rw [after, if_neg (by simp [aborted])] at known
            unfold see at known
            split at known
            next b =>
              unfold publish Desk.stopped at known
              split at known
              · exact known
              · cases known
            next => exact known
      · exact .inr ⟨u, by simp [hu], aborted⟩

end

/-! ## The board that is shown -/

lemma board_after (d : Desk) (t : Turn) : (d.after t).board = t.step.board?.getD d.board := by
  have aborts : ∀ e : Desk, e.abort.2.board = e.board := by
    intro e
    unfold abort
    split <;> rfl
  have sees : (d.see t.step).board = t.step.board?.getD d.board := by
    cases t.step <;> rfl
  unfold after
  split
  · rw [aborts, sees]
  · exact sees

/-- Turns that show no board leave the board as it is. -/
lemma board_afterAll_of_silent {d : Desk} {ts : List Turn}
    (silent : ∀ t ∈ ts, t.step.board? = none) : (d.afterAll ts).board = d.board := by
  induction ts generalizing d with
  | nil => rfl
  | cons t ts ih =>
      rw [afterAll_cons, ih fun u hu => silent u (by simp [hu]), board_after, silent t (by simp)]
      rfl

/-- The board is the last one shown. -/
lemma board_afterAll_of_shown {d : Desk} {b : Board} {answer : (Step.publish b).Answer} {x : Bool}
    {ts us : List Turn} (silent : ∀ t ∈ us, t.step.board? = none) :
    (d.afterAll (ts ++ ⟨.publish b, answer, x⟩ :: us)).board = b := by
  rw [afterAll_append, afterAll_cons, board_afterAll_of_silent silent, board_after]
  rfl

end Desk

/-- The turns since a board was last shown.  An attempt at an item begins with a board that counts
it, and shows none before its submission, so up to there these are the turns of the attempt. -/
def sinceShown (ts : List Turn) : List Turn := ts.rtakeWhile fun t => t.step.board?.isNone

lemma sinceShown_append {ts us : List Turn} (silent : ∀ u ∈ us, u.step.board? = none) :
    sinceShown (ts ++ us) = sinceShown ts ++ us := by
  have keeps : ∀ u ∈ us.reverse, u.step.board?.isNone = true := by
    intro u hu
    rw [silent u (List.mem_reverse.1 hu)]
    rfl
  rw [sinceShown, List.rtakeWhile, List.reverse_append, List.takeWhile_append_of_pos keeps,
    List.reverse_append, List.reverse_reverse]
  rfl

lemma sinceShown_of_shown {t : Turn} {ts us : List Turn} (shown : t.step.board?.isSome = true)
    (silent : ∀ u ∈ us, u.step.board? = none) : sinceShown (ts ++ t :: us) = us := by
  have stops : sinceShown (ts ++ [t]) = [] := by
    refine List.rtakeWhile_concat_neg _ _ _ ?_
    simp [Option.isSome_iff_ne_none.1 shown]
  rw [List.append_cons, sinceShown_append silent, stops, List.nil_append]

/-! ## Places in a transcript -/

/-- A turn of two parts stands in the first or in the second. -/
lemma place_cases {t : Turn} {ts us before after : List Turn}
    (split : ts ++ us = before ++ t :: after) :
    (∃ between, after = between ++ us ∧ ts = before ++ t :: between) ∨
      ∃ between, before = ts ++ between ∧ us = between ++ t :: after := by
  rcases List.append_eq_append_iff.1 split with ⟨between, rfl, rest⟩ | ⟨between, rfl, rest⟩
  · exact .inr ⟨between, rfl, rest⟩
  · cases between with
    | nil => exact .inr ⟨[], by simp, by simpa using rest.symm⟩
    | cons u between =>
        obtain ⟨rfl, rfl⟩ := List.cons.inj rest
        exact .inl ⟨between, rfl, rfl⟩

/-- A turn that the first part cannot hold stands in the second part. -/
lemma place_of_append {P : Turn → Prop} {t : Turn} (ts : List Turn)
    {us before after : List Turn} (ht : P t) (without : ∀ u ∈ ts, ¬ P u)
    (split : ts ++ us = before ++ t :: after) :
    ∃ between, before = ts ++ between ∧ us = between ++ t :: after := by
  rcases place_cases split with ⟨between, rfl, rfl⟩ | second
  · exact absurd ht (without t (by simp))
  · exact second

/-- A turn that the second part cannot hold stands in the first part. -/
lemma place_of_append_left {P : Turn → Prop} {t : Turn} {ts us before after : List Turn}
    (ht : P t) (without : ∀ u ∈ us, ¬ P u) (split : ts ++ us = before ++ t :: after) :
    ∃ between, after = between ++ us ∧ ts = before ++ t :: between := by
  rcases place_cases split with first | ⟨between, rfl, rfl⟩
  · exact first
  · exact absurd ht (without t (by simp))

/-- A turn that neither the first nor the last part can hold stands between them. -/
lemma place_between {P : Turn → Prop} {t : Turn} (ts us vs : List Turn)
    {before after : List Turn} (ht : P t) (earlier : ∀ u ∈ ts, ¬ P u) (later : ∀ u ∈ vs, ¬ P u)
    (split : ts ++ (us ++ vs) = before ++ t :: after) :
    ∃ first last, before = ts ++ first ∧ us = first ++ t :: last ∧ after = last ++ vs := by
  obtain ⟨first, rfl, rest⟩ := place_of_append ts ht earlier split
  obtain ⟨last, rfl, rfl⟩ := place_of_append_left ht later rest
  exact ⟨first, last, rfl, rfl, rfl⟩

/-- A turn of a sort that occurs only once has its place there. -/
lemma place_unique {P : Turn → Prop} {t u : Turn} (ts us : List Turn) {before after : List Turn}
    (ht : P t) (earlier : ∀ v ∈ ts, ¬ P v) (later : ∀ v ∈ us, ¬ P v)
    (split : ts ++ u :: us = before ++ t :: after) : before = ts ∧ t = u ∧ after = us := by
  obtain ⟨between, rfl, rest⟩ := place_of_append ts ht earlier split
  cases between with
  | nil =>
      obtain ⟨rfl, rfl⟩ := List.cons.inj rest
      simp
  | cons v between =>
      obtain ⟨rfl, rfl⟩ := List.cons.inj rest
      exact absurd ht (later t (by simp))

/-- Around the turn there is a stretch of a kind. -/
def Stretch (K : List Turn → Prop) (before : List Turn) (t : Turn) (after : List Turn) : Prop :=
  ∃ earlier first last later, before = earlier ++ first ∧ after = last ++ later ∧
    K (first ++ t :: last)

namespace Stretch

variable {K L : List Turn → Prop} {before after : List Turn} {t : Turn}

lemma whole (h : K (before ++ t :: after)) : Stretch K before t after :=
  ⟨[], before, after, [], rfl, by simp, h⟩

lemma mono (hKL : ∀ ts, K ts → L ts) (h : Stretch K before t after) :
    Stretch L before t after := by
  obtain ⟨earlier, first, last, later, rfl, rfl, h⟩ := h
  exact ⟨earlier, first, last, later, rfl, rfl, hKL _ h⟩

lemma append_left (ts : List Turn) (h : Stretch K before t after) :
    Stretch K (ts ++ before) t after := by
  obtain ⟨earlier, first, last, later, rfl, rfl, h⟩ := h
  exact ⟨ts ++ earlier, first, last, later, by simp, rfl, h⟩

lemma append_right (ts : List Turn) (h : Stretch K before t after) :
    Stretch K before t (after ++ ts) := by
  obtain ⟨earlier, first, last, later, rfl, rfl, h⟩ := h
  exact ⟨earlier, first, last, later ++ ts, rfl, by simp, h⟩

end Stretch

/-! ## Whole runs -/

/-- The desk took on a run with the options, and the run went through the turns to its result. -/
structure Desk.Ran (d : Desk) (setup : Setup) (o : Options) (turns : List Turn)
    (result : Except ExitError Board) : Prop where
  accepted : d.accept o = .ok ()
  goes : Talk.Goes (Run.whole setup o) turns result
  admits : d.Admits turns

end PoolExit
