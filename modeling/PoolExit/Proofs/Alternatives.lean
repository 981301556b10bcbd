import PoolExit.Exit.Retry
import PoolExit.Proofs.Requests
import Mathlib.Data.List.Basic

/-!
# Alternatives in turn

A search for a success asks how an attempt comes out, and between two attempts whether to stop.
Where the answers are left open it is a flow, and in every monad it goes as this flow does
(`Search.firstSuccessFrom_eq_perform`).  So what a search does is read off the paths through the
flow.

From an attempt on there are four ways to go (`Search.Tries`): it succeeds, or it fails and was the
last one, or the search is stopped behind it, or the next alternative is tried.  Each law of a path
is an induction over these four, and `Search.Recounts` puts the laws together.  They hold of all
attempts that share a state with the question whether to stop (`Search.tried_in_turn`), so an
attempt may itself be what stops the search.
-/

namespace PoolExit

open PoolExit.Flow (takes_ask takes_pure)

/-! ## The questions of a search -/

/-- What a search for a success asks. -/
inductive SearchQuestion (π : Type) where
  /-- Whether to stop. -/
  | look
  /-- How the attempt at an alternative comes out. -/
  | attempt (index : Nat) (alternative : π)

/-- What a question of a search is answered with. -/
abbrev SearchQuestion.Answer {π : Type} (ε α : Type) : SearchQuestion π → Type
  | .look => Bool
  | .attempt .. => Except ε α

/-- A question of a search, with its answer. -/
abbrev SearchTurn (π ε α : Type) := Flow.Asked (SearchQuestion π) (SearchQuestion.Answer ε α)

/-- The questions of a search in their order, with their answers. -/
abbrev SearchPath (π ε α : Type) := List (SearchTurn π ε α)

/-- A search whose questions are open. -/
abbrev OpenSearch (π ε α : Type) : Type → Type :=
  Flow (SearchQuestion π) (SearchQuestion.Answer ε α)

variable {π ε α : Type}

namespace SearchTurn

/-- It was looked whether to stop. -/
def look (stop : Bool) : SearchTurn π ε α := ⟨.look, stop⟩

/-- An alternative was tried. -/
def trial (index : Nat) (p : π) (result : Except ε α) : SearchTurn π ε α :=
  ⟨.attempt index p, result⟩

/-- The alternative that is tried, with its index. -/
def tried? : SearchTurn π ε α → Option (π × Nat)
  | ⟨.attempt index p, _⟩ => some (p, index)
  | ⟨.look, _⟩ => none

/-- How the attempt came out. -/
def result? : SearchTurn π ε α → Option (Except ε α)
  | ⟨.attempt .., result⟩ => some result
  | ⟨.look, _⟩ => none

end SearchTurn

namespace Search

/-! ## The search as a flow -/

section

variable {m : Type → Type} [Monad m]

/-- The look before the attempt with an index. -/
def lookBefore (stopped : Option (m Bool)) : Nat → m Bool
  | 0 => pure false
  | _ + 1 => stopped.getD (pure false)

/-- The search from the attempt at `p` on. -/
def onward (stopped : Option (m Bool)) (attempt : Nat → π → m (Except ε α)) (i : Nat)
    (errors : List ε) (p : π) (rest : List π) : m (Except (Exhausted ε) (Success α)) := do
  match ← attempt i p with
  | .ok value => return .ok ⟨i, value, errors.length⟩
  | .error e => firstSuccessFrom stopped attempt (i + 1) (errors ++ [e]) rest

/-- How the questions of a search are answered. -/
def answer (stopped : Option (m Bool)) (attempt : Nat → π → m (Except ε α)) :
    (q : SearchQuestion π) → m (q.Answer ε α)
  | .look => stopped.getD (pure false)
  | .attempt i p => attempt i p

/-- The question whether to stop, where there is something to look at. -/
def looking (watched : Bool) : Option (OpenSearch π ε α Bool) :=
  if watched then some (Flow.question SearchQuestion.look) else none

/-- The question how the attempt at an alternative comes out. -/
def trying (i : Nat) (p : π) : OpenSearch π ε α (Except ε α) :=
  Flow.question (SearchQuestion.attempt i p)

variable [LawfulMonad m] {stopped : Option (m Bool)} {attempt : Nat → π → m (Except ε α)}

lemma firstSuccessFrom_cons (i : Nat) (errors : List ε) (p : π) (rest : List π) :
    firstSuccessFrom stopped attempt i errors (p :: rest) = (do
      if ← lookBefore stopped i then return .error ⟨errors, true⟩
      onward stopped attempt i errors p rest) := by
  cases stopped with
  | none =>
      cases i <;> simp only [firstSuccessFrom, lookBefore, Option.getD_none, pure_bind,
        Bool.false_eq_true, if_false] <;> exact bind_congr fun x => by cases x <;> rfl
  | some ask =>
      cases i with
      | zero =>
          simp only [firstSuccessFrom, lookBefore, if_true, pure_bind, Bool.false_eq_true, if_false]
          exact bind_congr fun x => by cases x <;> rfl
      | succ i =>
          rw [firstSuccessFrom, if_neg i.succ_ne_zero]
          refine bind_congr fun stop => ?_
          cases stop with
          | true => rfl
          | false => exact bind_congr fun x => by cases x <;> rfl

lemma perform_lookBefore (i : Nat) :
    (lookBefore (looking (π := π) (ε := ε) (α := α) stopped.isSome) i).perform
      (answer stopped attempt) = lookBefore stopped i := by
  cases i with
  | zero => rfl
  | succ i =>
      cases stopped with
      | none => rfl
      | some ask => exact Flow.perform_question (answer (some ask) attempt) .look

/-- Whoever answers, a search goes as it goes alone. -/
theorem firstSuccessFrom_eq_perform (i : Nat) (errors : List ε) (ps : List π) :
    firstSuccessFrom stopped attempt i errors ps =
      (firstSuccessFrom (looking stopped.isSome) trying i errors ps).perform
        (answer stopped attempt) := by
  induction ps generalizing i errors with
  | nil => rfl
  | cons p rest ih =>
      rw [firstSuccessFrom_cons, firstSuccessFrom_cons, Flow.perform_bind, perform_lookBefore]
      refine bind_congr fun stop => ?_
      cases stop with
      | true => rfl
      | false =>
          refine bind_congr fun x => ?_
          cases x with
          | ok v => rfl
          | error e => exact ih (i + 1) (errors ++ [e])

end

/-! ## Readings of a path -/

/-- The alternatives that were tried, with their indices. -/
def tried (path : SearchPath π ε α) : List (π × Nat) := path.filterMap SearchTurn.tried?

/-- How the attempts came out. -/
def results (path : SearchPath π ε α) : List (Except ε α) := path.filterMap SearchTurn.result?

/-- The attempts of a path, without the looks. -/
def trials (path : SearchPath π ε α) : SearchPath π ε α := path.filter fun t => t.tried?.isSome

section

variable (i : Nat) (p : π) (x : Except ε α) (stop : Bool) (path : SearchPath π ε α)

@[simp] lemma tried_nil : tried ([] : SearchPath π ε α) = [] := rfl

@[simp] lemma tried_trial : tried (.trial i p x :: path) = (p, i) :: tried path := rfl

@[simp] lemma results_trial : results (.trial i p x :: path) = x :: results path := rfl

@[simp] lemma trials_trial : trials (.trial i p x :: path) = .trial i p x :: trials path := rfl

@[simp] lemma tried_look : tried (.look stop :: path) = tried path := rfl

@[simp] lemma trials_look : trials (.look stop :: path) = trials path := rfl

end

/-- The look between two attempts, where there is something to look at. -/
def between (watched : Bool) : SearchPath π ε α := if watched then [.look false] else []

/-- Attempts in their order, with a look between any two of them. -/
def spaced (watched : Bool) (turns : SearchPath π ε α) : SearchPath π ε α :=
  if watched then turns.intersperse (.look false) else turns

/-- The search was given up before all alternatives had been tried. -/
def gaveUp : Except (Exhausted ε) (Success α) → Bool
  | .ok _ => false
  | .error exhausted => exhausted.cancelled

@[simp] lemma tried_between (watched : Bool) (path : SearchPath π ε α) :
    tried (between watched ++ path) = tried path := by cases watched <;> rfl

@[simp] lemma results_between (watched : Bool) (path : SearchPath π ε α) :
    results (between watched ++ path) = results path := by cases watched <;> rfl

/-! ## Ways through a search -/

/-- How a search can go from the attempt at `p` on; `errors` are the failures before it, and behind
it are the alternatives `rest`. -/
inductive Tries (watched : Bool) : Nat → List ε → π → List π → SearchPath π ε α →
    Except (Exhausted ε) (Success α) → Prop
  | succeeds (i errors p rest v) :
      Tries watched i errors p rest [.trial i p (.ok v)] (.ok ⟨i, v, errors.length⟩)
  | last (i errors p e) :
      Tries watched i errors p [] [.trial i p (.error e)] (.error ⟨errors ++ [e], false⟩)
  | stopped (i errors p e q rest) (heeds : watched = true) :
      Tries watched i errors p (q :: rest) [.trial i p (.error e), .look true]
        (.error ⟨errors ++ [e], true⟩)
  | fails {i errors p e q rest path r} (next : Tries watched (i + 1) (errors ++ [e]) q rest path r) :
      Tries watched i errors p (q :: rest) (.trial i p (.error e) :: (between watched ++ path)) r

section

variable {watched : Bool} {i : Nat} {errors : List ε} {p : π} {rest : List π}
  {path : SearchPath π ε α} {r : Except (Exhausted ε) (Success α)}

/-- Behind a failure the next alternative is tried, or the search is stopped. -/
lemma next_of_takes {q : π}
    (takes : (firstSuccessFrom (looking watched) trying (i + 1) errors (q :: rest)).Takes path r) :
    (∃ later, path = between watched ++ later ∧
        (onward (looking watched) trying (i + 1) errors q rest).Takes later r) ∨
      watched = true ∧ path = [.look true] ∧ r = .error ⟨errors, true⟩ := by
  rw [firstSuccessFrom_cons] at takes
  cases watched with
  | false => exact .inl ⟨path, rfl, takes⟩
  | true =>
      obtain ⟨stop, later, rfl, heeding⟩ := takes_ask.1 takes
      cases stop with
      | false => exact .inl ⟨later, rfl, heeding⟩
      | true =>
          obtain ⟨rfl, rfl⟩ := takes_pure.1 heeding
          exact .inr ⟨rfl, rfl, rfl⟩

/-- An attempt ends the search by its success, or the search goes on behind its failure. -/
lemma attempt_of_takes (takes : (onward (looking watched) trying i errors p rest).Takes path r) :
    (∃ v, path = [.trial i p (.ok v)] ∧ r = .ok ⟨i, v, errors.length⟩) ∨
      ∃ e later, path = .trial i p (.error e) :: later ∧
        (firstSuccessFrom (looking watched) trying (i + 1) (errors ++ [e]) rest).Takes later r := by
  obtain ⟨result, later, rfl, going⟩ := takes_ask.1 takes
  cases result with
  | ok v =>
      obtain ⟨rfl, rfl⟩ := takes_pure.1 going
      exact .inl ⟨v, rfl, rfl⟩
  | error e => exact .inr ⟨e, later, rfl, going⟩

/-- From an attempt on, a search goes in one of the four ways. -/
lemma tries_of_takes (takes : (onward (looking watched) trying i errors p rest).Takes path r) :
    Tries watched i errors p rest path r := by
  induction rest generalizing i errors p path with
  | nil =>
      rcases attempt_of_takes takes with ⟨v, rfl, rfl⟩ | ⟨e, later, rfl, going⟩
      · exact .succeeds i errors p [] v
      · obtain ⟨rfl, rfl⟩ := takes_pure.1 going
        exact .last i errors p e
  | cons q rest ih =>
      rcases attempt_of_takes takes with ⟨v, rfl, rfl⟩ | ⟨e, later, rfl, going⟩
      · exact .succeeds i errors p (q :: rest) v
      · rcases next_of_takes going with ⟨later, rfl, again⟩ | ⟨heeds, rfl, rfl⟩
        · exact .fails (ih again)
        · exact .stopped i errors p e q rest heeds

/-! ## What a way tells -/

namespace Tries

variable (tries : Tries watched i errors p rest path r)

include tries

/-- The attempt is the first thing that is done. -/
lemma first : ∃ result later, path = .trial i p result :: later := by
  cases tries <;> exact ⟨_, _, rfl⟩

/-- The alternatives are tried in their order. -/
lemma in_order : tried path <+: (p :: rest).zipIdx i := by
  induction tries with
  | succeeds i errors p rest v => simp
  | last i errors p e => simp
  | stopped i errors p e q rest heeds => simp
  | fails next ih => simpa using ih

/-- What stands between the attempts, and behind them. -/
lemma path_eq : path = spaced watched (trials path) ++ if gaveUp r then [.look true] else [] := by
  induction tries with
  | succeeds i errors p rest v => cases watched <;> rfl
  | last i errors p e => cases watched <;> rfl
  | stopped i errors p e q rest heeds => subst heeds; rfl
  | fails next ih =>
      obtain ⟨x, later, rfl⟩ := next.first
      cases watched with
      | false => simpa [between, spaced] using ih
      | true => simpa [between, spaced] using ih

/-- The attempts failed up to the last one, and the result keeps what they came out with. -/
lemma outcome : ∃ more : List ε,
    (∃ v, r = .ok ⟨i + more.length, v, errors.length + more.length⟩ ∧
      results path = more.map .error ++ [.ok v]) ∨
    ∃ cancelled, r = .error ⟨errors ++ more, cancelled⟩ ∧ results path = more.map .error := by
  induction tries with
  | succeeds i errors p rest v => exact ⟨[], .inl ⟨v, rfl, rfl⟩⟩
  | last i errors p e => exact ⟨[e], .inr ⟨false, rfl, rfl⟩⟩
  | stopped i errors p e q rest heeds => exact ⟨[e], .inr ⟨true, rfl, rfl⟩⟩
  | @fails i errors p e q rest path r next ih =>
      obtain ⟨more, ⟨v, rfl, came⟩ | ⟨cancelled, rfl, came⟩⟩ := ih
      · refine ⟨e :: more, .inl ⟨v, ?_, by simp [came]⟩⟩
        simp [Nat.add_assoc, Nat.add_comm 1]
      · exact ⟨e :: more, .inr ⟨cancelled, by simp, by simp [came]⟩⟩

/-- The search is given up where it is stopped before the next attempt. -/
lemma gaveUp_iff : gaveUp r = true ↔
    watched = true ∧ (tried path).length < rest.length + 1 ∧
      path.getLast? = some (.look true) := by
  induction tries with
  | succeeds i errors p rest v => simp [gaveUp, SearchTurn.trial, SearchTurn.look]
  | last i errors p e => simp [gaveUp, SearchTurn.trial, SearchTurn.look]
  | stopped i errors p e q rest heeds => simp [gaveUp, heeds]
  | @fails i errors p e q rest path r next ih =>
      have same : (.trial i p (.error e) :: (between watched ++ path)).getLast? =
          path.getLast? := by
        obtain ⟨x, later, rfl⟩ := next.first
        cases watched <;> simp [between]
      rw [ih, same, tried_trial, tried_between, List.length_cons, List.length_cons,
        Nat.add_lt_add_iff_right]

/-- Where a search without a success is not given up, every alternative was tried. -/
lemma all_tried {exhausted : Exhausted ε} (failed : r = .error exhausted)
    (through : exhausted.cancelled = false) : tried path = (p :: rest).zipIdx i := by
  induction tries with
  | succeeds i errors p rest v => cases failed
  | last i errors p e => simp
  | stopped i errors p e q rest heeds =>
      obtain rfl := Except.error.inj failed
      cases through
  | fails next ih => simpa using ih failed

end Tries

end

/-! ## A whole search -/

lemma length_tried (path : SearchPath π ε α) : (tried path).length = (results path).length := by
  induction path with
  | nil => rfl
  | cons t path ih =>
      obtain ⟨question, answer⟩ := t
      cases question with
      | look => exact ih
      | attempt index p => exact congrArg (· + 1) ih

/-- What a path tells of a search through alternatives that came to a result.  The search is
`watched` where there is something to look at whether to stop. -/
structure Recounts (watched : Bool) (ps : List π) (path : SearchPath π ε α)
    (r : Except (Exhausted ε) (Success α)) : Prop where
  /-- The alternatives are tried in order, each of them once at most. -/
  inOrder : tried path <+: ps.zipIdx
  /-- Before the first one is tried, nothing is asked. -/
  first : ∀ p ∈ ps.head?, ∃ result later, path = .trial 0 p result :: later
  /-- Where there is something to look at, there is one look between two attempts, and it says no.
  A look that says yes ends the search. -/
  looks : path = spaced watched (trials path) ++ if gaveUp r then [.look true] else []
  /-- The first success ends the search. -/
  succeeded : ∀ success, r = .ok success →
    success.index < ps.length ∧ success.failures = success.index ∧
      tried path = ps.zipIdx.take (success.index + 1) ∧
      ∃ errors : List ε, results path = errors.map .error ++ [.ok success.value]
  /-- Without a success the errors are those of all attempts, in their order. -/
  failed : ∀ exhausted, r = .error exhausted →
    results path = exhausted.errors.map .error ∧
      exhausted.errors.length = (tried path).length
  /-- A search is cancelled where alternatives are left behind an attempt and it is to be stopped
  right before the next one, and nowhere else. -/
  cancelled : ∀ exhausted, r = .error exhausted → (exhausted.cancelled = true ↔
    watched = true ∧ 0 < (tried path).length ∧ (tried path).length < ps.length ∧
      path.getLast? = some (.look true))
  /-- A search that fails without being stopped has tried everything. -/
  through : ∀ exhausted, r = .error exhausted → exhausted.cancelled = false →
    tried path = ps.zipIdx
  /-- A success is not lost, whatever is said about stopping. -/
  kept : ∀ v, .ok v ∈ results path → ∃ success, r = .ok success ∧ success.value = v

/-- A path from the first attempt on tells what the search did. -/
lemma Tries.recounts {watched : Bool} {p : π} {rest : List π} {path : SearchPath π ε α}
    {r : Except (Exhausted ε) (Success α)} (tries : Tries watched 0 [] p rest path r) :
    Recounts watched (p :: rest) path r := by
  obtain ⟨more, outcome⟩ := tries.outcome
  have some_tried : 0 < (tried path).length := by
    obtain ⟨result, later, rfl⟩ := tries.first
    exact Nat.zero_lt_succ _
  refine
    { inOrder := tries.in_order
      first := fun q head => Option.some.inj head ▸ tries.first
      looks := tries.path_eq
      succeeded := fun success won => ?_
      failed := fun exhausted lost => ?_
      cancelled := fun exhausted lost => ?_
      through := fun exhausted lost => tries.all_tried lost
      kept := fun v came => ?_ }
  · obtain ⟨w, rfl, came⟩ | ⟨c, rfl, -⟩ := outcome
    · obtain rfl := Except.ok.inj won
      have count : (tried path).length = more.length + 1 := by simp [length_tried, came]
      have within := tries.in_order.length_le
      rw [count, List.length_zipIdx] at within
      refine ⟨by simpa [Nat.lt_add_one_iff] using within, by simp, ?_, more, came⟩
      simpa [count] using List.prefix_iff_eq_take.1 tries.in_order
    · cases won
  · obtain ⟨w, rfl, -⟩ | ⟨c, rfl, came⟩ := outcome
    · cases lost
    · obtain rfl := Except.error.inj lost
      exact ⟨came, by simp [length_tried, came]⟩
  · subst lost
    refine tries.gaveUp_iff.trans ⟨?_, ?_⟩
    · rintro ⟨heeds, left, last⟩
      exact ⟨heeds, some_tried, left, last⟩
    · rintro ⟨heeds, -, left, last⟩
      exact ⟨heeds, left, last⟩
  · obtain ⟨w, rfl, all⟩ | ⟨c, -, all⟩ := outcome
    · refine ⟨_, rfl, ?_⟩
      simpa [all, eq_comm] using came
    · simp [all] at came

/-- Every path through a search tells what the search did. -/
lemma recounts_of_takes {watched : Bool} {ps : List π} {path : SearchPath π ε α}
    {r : Except (Exhausted ε) (Success α)}
    (takes : (firstSuccess ps (looking watched) trying).Takes path r) :
    Recounts watched ps path r := by
  cases ps with
  | nil =>
      obtain ⟨rfl, rfl⟩ := takes_pure.1 takes
      exact
        { inOrder := List.nil_prefix
          first := nofun
          looks := by cases watched <;> rfl
          succeeded := nofun
          failed := fun _ lost => Except.error.inj lost ▸ ⟨rfl, rfl⟩
          cancelled := fun _ lost => Except.error.inj lost ▸ by simp
          through := fun _ _ _ => rfl
          kept := nofun }
  | cons p rest =>
      rw [firstSuccess, firstSuccessFrom_cons] at takes
      exact (tries_of_takes takes).recounts

/-- **Alternatives in turn.**  Whatever the attempts do to the state, and whenever it says that the
search is to be stopped, the search asks its questions one after the other, from the first state to
the last, and its result tells how they were answered.  The alternatives are tried in order up to
the first success, the first of them in any case.  A success has the index of its alternative and
that many failures before it; without one the errors are those of all attempts that were made.  The
search is cancelled exactly where alternatives were left and it was to be stopped when the next one
was about to be tried. -/
theorem tried_in_turn {σ : Type} (ps : List π) (stopped : Option (StateM σ Bool))
    (attempt : Nat → π → StateM σ (Except ε α)) (s : σ) :
    ∃ path : SearchPath π ε α,
      Flow.Answers (answer stopped attempt) s path
        ((firstSuccess ps stopped attempt).run s).2 ∧
      Recounts stopped.isSome ps path ((firstSuccess ps stopped attempt).run s).1 := by
  obtain ⟨path, takes, answers⟩ := Flow.exists_answers (answer stopped attempt)
    (firstSuccess ps (looking stopped.isSome) trying) s
  rw [firstSuccess, ← firstSuccessFrom_eq_perform] at takes answers
  exact ⟨path, answers, recounts_of_takes takes⟩

/-- The first attempt has the search stopped, and its failure is kept. -/
example : StateT.run (m := Id) (firstSuccess [1, 2, 3] (some get) fun _ _ => do
    set true
    return (.error "boom" : Except String Unit)) false = (.error ⟨["boom"], true⟩, true) := rfl

end Search

end PoolExit
