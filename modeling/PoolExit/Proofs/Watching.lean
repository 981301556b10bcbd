import PoolExit.Ledger.Watch
import PoolExit.Proofs.Requests

/-!
# What a watch makes of the answers

A watch goes in rounds.  In an idle round the ledger has not spoken, the expiry height has not passed
and time has not run out, so another round follows; any other round is the last one and decides the
verdict (`Watch.Ends`).  By induction on the number of rounds every path through a watch is some idle
rounds with a last one behind them (`Watch.report_of_takes`), and the laws of `Watched.Report` say
what the verdict tells of the answers: it is what the ledger said first, and only where the ledger
has said nothing is it about the expiry height, the time or a node that does not answer.
-/

namespace PoolExit

open PoolExit.Flow (takes_ask)

/-- A question of a watch, with its answer. -/
abbrev WatchTurn := Flow.Asked WatchQuestion WatchQuestion.Answer

/-- The questions of a watch in their order, with their answers. -/
abbrev WatchPath := List WatchTurn

namespace WatchTurn

/-- What was answered when the status was looked at. -/
def look? : WatchTurn → Option (Except LedgerError Sighting)
  | ⟨.status, seen⟩ => some seen
  | _ => none

/-- What was answered when the height was asked for. -/
def height? : WatchTurn → Option (Except LedgerError UInt64)
  | ⟨.height, answer⟩ => some answer
  | _ => none

/-- The ledger has said what has become of the transaction. -/
def Speaks (t : WatchTurn) : Prop := ∃ seen, t = ⟨.status, .ok seen⟩ ∧ seen ≠ .pending

/-- Where a node fails, it has given no answer. -/
def Honest : WatchTurn → Prop
  | ⟨.status, .error e⟩ => ∃ reason, e = .unanswered reason
  | ⟨.height, .error e⟩ => ∃ reason, e = .unanswered reason
  | _ => True

end WatchTurn

/-- The answers to the looks at the status. -/
def looks (path : WatchPath) : List (Except LedgerError Sighting) :=
  path.filterMap WatchTurn.look?

/-- The answers to the questions for the height. -/
def heightAnswers (path : WatchPath) : List (Except LedgerError UInt64) :=
  path.filterMap WatchTurn.height?

/-- What the ledger has said first of the transaction, if it has said anything. -/
def firstWord (path : WatchPath) : Option Sighting :=
  ((looks path).filterMap Except.toOption).find? (· ≠ .pending)

@[simp] lemma looks_nil : looks [] = [] := rfl

@[simp] lemma looks_cons (t : WatchTurn) (path : WatchPath) :
    looks (t :: path) = t.look?.toList ++ looks path := by
  cases h : t.look? <;> simp [looks, h]

@[simp] lemma heightAnswers_nil : heightAnswers [] = [] := rfl

@[simp] lemma heightAnswers_cons (t : WatchTurn) (path : WatchPath) :
    heightAnswers (t :: path) = t.height?.toList ++ heightAnswers path := by
  cases h : t.height? <;> simp [heightAnswers, h]

@[simp] lemma firstWord_nil : firstWord [] = none := rfl

@[simp] lemma firstWord_cons (t : WatchTurn) (path : WatchPath) :
    firstWord (t :: path) =
      ((t.look?.bind Except.toOption).filter (· ≠ .pending)).or (firstWord path) := by
  rcases h : t.look? with _ | _ | seen
  · simp [firstWord, h]
  · simp [firstWord, h, Except.toOption]
  · by_cases silent : seen = .pending <;>
      simp [firstWord, h, Except.toOption, silent, Option.filter]

namespace Watched

/-- What the verdict on a watched transaction tells of the answers. -/
structure Report (w : Watched) (path : WatchPath) (verdict : Except LedgerError Unit) : Prop where
  confirmed : verdict = .ok () ↔ firstWord path = some .confirmed
  failed : ∀ failure,
    verdict = .error (.failedOnChain failure) ↔ firstWord path = some (.failed failure)
  /-- Once the ledger has spoken, nothing is asked any more. -/
  silent : path.Pairwise fun t u => t.Speaks → u.question = .announce
  /-- The expiry height has passed, and the status was looked at once more behind that. -/
  expired : ∀ height expiry, verdict = .error (.expired height expiry) →
    expiry = w.expiryHeight ∧ w.expiryHeight < height ∧
      ∃ before, path = before ++ [⟨.height, .ok height⟩, ⟨.status, .ok .pending⟩]
  outOfTime : ∀ text waitedMs, verdict = .error (.unconfirmed text waitedMs) →
    (looks path).getLast? = some (.ok .pending) ∧
      ∃ height, height ≤ w.expiryHeight ∧ (heightAnswers path).getLast? = some (.ok height)
  unanswered : ∀ reason, verdict = .error (.unanswered reason) ↔
    (looks path).getLast? = some (.error (.unanswered reason)) ∨
      (heightAnswers path).getLast? = some (.error (.unanswered reason))
  unsimulated : ∀ failure logs, verdict ≠ .error (.simulation failure logs)

end Watched

namespace Watch

variable {w : Watched} {patienceMs n : Nat} {path : WatchPath} {verdict : Except LedgerError Unit}

/-! ## Rounds -/

/-- A round in which nothing is decided. -/
def idleRound (height : UInt64) : WatchPath :=
  [⟨.status, .ok .pending⟩, ⟨.height, .ok height⟩, ⟨.clock, none⟩, ⟨.pause, ()⟩]

/-- The last round of a watch, and the verdict. -/
inductive Ends (w : Watched) : WatchPath → Except LedgerError Unit → Prop
  | confirmed : Ends w [⟨.status, .ok .confirmed⟩, ⟨.announce, ()⟩] (.ok ())
  | failed (failure : String) :
      Ends w [⟨.status, .ok (.failed failure)⟩] (.error (.failedOnChain failure))
  | unseen (reason : String) :
      Ends w [⟨.status, .error (.unanswered reason)⟩] (.error (.unanswered reason))
  | unmeasured (reason : String) :
      Ends w [⟨.status, .ok .pending⟩, ⟨.height, .error (.unanswered reason)⟩]
        (.error (.unanswered reason))
  | confirmedLate (height : UInt64) (late : w.expiryHeight < height) :
      Ends w [⟨.status, .ok .pending⟩, ⟨.height, .ok height⟩, ⟨.status, .ok .confirmed⟩] (.ok ())
  | failedLate (height : UInt64) (late : w.expiryHeight < height) (failure : String) :
      Ends w [⟨.status, .ok .pending⟩, ⟨.height, .ok height⟩, ⟨.status, .ok (.failed failure)⟩]
        (.error (.failedOnChain failure))
  | unseenLate (height : UInt64) (late : w.expiryHeight < height) (reason : String) :
      Ends w [⟨.status, .ok .pending⟩, ⟨.height, .ok height⟩,
        ⟨.status, .error (.unanswered reason)⟩] (.error (.unanswered reason))
  | expired (height : UInt64) (late : w.expiryHeight < height) :
      Ends w [⟨.status, .ok .pending⟩, ⟨.height, .ok height⟩, ⟨.status, .ok .pending⟩]
        (.error (.expired height w.expiryHeight))
  | outOfTime (height : UInt64) (early : height ≤ w.expiryHeight) (waitedMs : Nat) :
      Ends w [⟨.status, .ok .pending⟩, ⟨.height, .ok height⟩, ⟨.clock, some waitedMs⟩]
        (.error (.unconfirmed w.signature.text waitedMs))

/-- Whoever answers, a watch goes as it goes alone. -/
lemma follow_eq_perform {m : Type → Type} [Monad m] (w : Watched)
    (ask : (q : WatchQuestion) → m q.Answer) (patienceMs steps : Nat) (s : Watch) :
    follow w ask patienceMs steps s =
      (follow w Flow.question patienceMs steps s).perform ask := by
  induction steps generalizing s with
  | zero => cases s <;> rfl
  | succ steps ih =>
      cases s with
      | settled verdict => rfl
      | _ => exact congrArg (ask _ >>= ·) (funext fun answer => ih _)

lemma takes_follow {s : Watch} {q : WatchQuestion} (asks : s.question? = some q) :
    (follow w Flow.question patienceMs (n + 1) s).Takes path verdict ↔
      ∃ answer rest, path = ⟨q, answer⟩ :: rest ∧
        (follow w Flow.question patienceMs n (s.next w q answer)).Takes rest verdict := by
  cases s <;> cases asks <;> exact takes_ask

lemma takes_settled {v : Except LedgerError Unit} :
    (follow w Flow.question patienceMs n (.settled v)).Takes path verdict ↔
      path = [] ∧ v = verdict := by
  cases n <;> exact Flow.takes_pure

/-- The last look, past the expiry height. -/
lemma ends_of_lastLook {height : UInt64} (late : w.expiryHeight < height)
    (takes : (follow w Flow.question patienceMs (n + 1) (.lastLook height)).Takes path verdict)
    (honest : ∀ t ∈ path, t.Honest) :
    Ends w (⟨.status, .ok .pending⟩ :: ⟨.height, .ok height⟩ :: path) verdict := by
  obtain ⟨seen, rest, rfl, looked⟩ := (takes_follow rfl).1 takes
  cases seen with
  | error e =>
      obtain ⟨rfl, rfl⟩ := takes_settled.1 looked
      obtain ⟨reason, rfl⟩ := honest _ (List.mem_cons_self ..)
      exact .unseenLate height late reason
  | ok seen =>
      cases seen with
      | pending =>
          obtain ⟨rfl, rfl⟩ := takes_settled.1 looked
          exact .expired height late
      | confirmed =>
          obtain ⟨rfl, rfl⟩ := takes_settled.1 looked
          exact .confirmedLate height late
      | failed failure =>
          obtain ⟨rfl, rfl⟩ := takes_settled.1 looked
          exact .failedLate height late failure

/-- The look at the clock, where the expiry height has not passed. -/
lemma ends_or_rests {height : UInt64} (early : height ≤ w.expiryHeight)
    (takes : (follow w Flow.question patienceMs (n + 2) .checkingClock).Takes path verdict) :
    Ends w (⟨.status, .ok .pending⟩ :: ⟨.height, .ok height⟩ :: path) verdict ∨
      ∃ rest, path = ⟨.clock, none⟩ :: ⟨.pause, ()⟩ :: rest ∧
        (follow w Flow.question patienceMs n .looking).Takes rest verdict := by
  obtain ⟨waited, rest, rfl, timed⟩ := (takes_follow rfl).1 takes
  cases waited with
  | some waitedMs =>
      obtain ⟨rfl, rfl⟩ := takes_settled.1 timed
      exact .inl (.outOfTime height early waitedMs)
  | none =>
      obtain ⟨_, rest, rfl, rested⟩ := (takes_follow rfl).1 timed
      exact .inr ⟨rest, rfl, rested⟩

/-- A round is the last one, or it is idle and the watch goes on. -/
lemma ends_or_idle
    (takes : (follow w Flow.question patienceMs (n + 4) .looking).Takes path verdict)
    (honest : ∀ t ∈ path, t.Honest) :
    Ends w path verdict ∨
      ∃ height rest, height ≤ w.expiryHeight ∧ path = idleRound height ++ rest ∧
        (follow w Flow.question patienceMs n .looking).Takes rest verdict := by
  obtain ⟨seen, rest, rfl, looked⟩ := (takes_follow rfl).1 takes
  obtain ⟨answered, later⟩ := List.forall_mem_cons.1 honest
  cases seen with
  | error e =>
      obtain ⟨rfl, rfl⟩ := takes_settled.1 looked
      obtain ⟨reason, rfl⟩ := answered
      exact .inl (.unseen reason)
  | ok seen =>
      cases seen with
      | confirmed =>
          obtain ⟨_, _, rfl, announced⟩ := (takes_follow rfl).1 looked
          obtain ⟨rfl, rfl⟩ := takes_settled.1 announced
          exact .inl .confirmed
      | failed failure =>
          obtain ⟨rfl, rfl⟩ := takes_settled.1 looked
          exact .inl (.failed failure)
      | pending =>
          obtain ⟨answer, rest, rfl, measured⟩ := (takes_follow rfl).1 looked
          have answered := later _ (List.mem_cons_self ..)
          cases answer with
          | error e =>
              obtain ⟨rfl, rfl⟩ := takes_settled.1 measured
              obtain ⟨reason, rfl⟩ := answered
              exact .inl (.unmeasured reason)
          | ok height =>
              have later := (List.forall_mem_cons.1 later).2
              by_cases late : w.expiryHeight < height
              · simp only [Watch.next, onStatus, judge, onHeight, if_pos late] at measured
                exact .inl (ends_of_lastLook late measured later)
              · simp only [Watch.next, onStatus, judge, onHeight, if_neg late] at measured
                have early := UInt64.not_lt.1 late
                rcases ends_or_rests early measured with ends | ⟨rest, rfl, rested⟩
                · exact .inl ends
                · exact .inr ⟨height, rest, early, rfl, rested⟩

/-! ## What the verdict tells -/

/-- The last round alone bears the verdict out. -/
lemma Ends.report (ends : Ends w path verdict) : w.Report path verdict := by
  cases ends with
  | expired height late =>
      constructor
      case expired =>
        intro height' expiry same
        cases same
        exact ⟨rfl, late, [⟨.status, .ok .pending⟩], rfl⟩
      all_goals simp [WatchTurn.look?, WatchTurn.height?, WatchTurn.Speaks, Except.toOption]
  | _ =>
      constructor <;>
        simp_all [WatchTurn.look?, WatchTurn.height?, WatchTurn.Speaks, Except.toOption]

/-- So does an idle round behind which nothing is asked any more. -/
lemma report_idleRound {height : UInt64} (early : height ≤ w.expiryHeight) (waitedMs : Nat) :
    w.Report (idleRound height) (.error (.unconfirmed w.signature.text waitedMs)) := by
  constructor <;>
    simp [idleRound, early, WatchTurn.look?, WatchTurn.height?, WatchTurn.Speaks, Except.toOption]

@[simp] lemma firstWord_idleRound (height : UInt64) (path : WatchPath) :
    firstWord (idleRound height ++ path) = firstWord path := by
  simp [idleRound, WatchTurn.look?, Except.toOption, Option.filter]

@[simp] lemma looks_idleRound (height : UInt64) (path : WatchPath) :
    looks (idleRound height ++ path) = .ok .pending :: looks path := by
  simp [idleRound, WatchTurn.look?]

@[simp] lemma heightAnswers_idleRound (height : UInt64) (path : WatchPath) :
    heightAnswers (idleRound height ++ path) = .ok height :: heightAnswers path := by
  simp [idleRound, WatchTurn.height?]

lemma not_speaks_of_idleRound {height : UInt64} {t : WatchTurn} (idle : t ∈ idleRound height) :
    ¬ t.Speaks := by
  rintro ⟨seen, rfl, spoken⟩
  simp [idleRound] at idle
  exact spoken idle

lemma getLast?_cons_ok {α : Type} (a : α) (answers : List (Except LedgerError α))
    (e : LedgerError) :
    (.ok a :: answers).getLast? = some (.error e) ↔ answers.getLast? = some (.error e) := by
  rw [List.getLast?_cons]
  cases answers.getLast? <;> simp

/-- An idle round in front changes nothing of what the verdict tells. -/
lemma report_append_idle (height : UInt64) (report : w.Report path verdict) :
    w.Report (idleRound height ++ path) verdict := by
  constructor
  case confirmed => simpa using report.confirmed
  case failed => simpa using report.failed
  case silent =>
    refine List.pairwise_append.2 ⟨?_, report.silent, ?_⟩
    · exact List.pairwise_of_forall_mem_list fun t idle u _ spoken =>
        absurd spoken (not_speaks_of_idleRound idle)
    · intro t idle u _ spoken
      exact absurd spoken (not_speaks_of_idleRound idle)
  case expired =>
    intro height' expiry same
    obtain ⟨own, late, before, rfl⟩ := report.expired height' expiry same
    exact ⟨own, late, idleRound height ++ before, by simp⟩
  case outOfTime =>
    intro text waitedMs same
    obtain ⟨pending, height', early, measured⟩ := report.outOfTime text waitedMs same
    exact ⟨by simp [List.getLast?_cons, pending], height', early,
      by simp [List.getLast?_cons, measured]⟩
  case unanswered =>
    intro reason
    rw [report.unanswered reason, looks_idleRound, heightAnswers_idleRound, getLast?_cons_ok,
      getLast?_cons_ok]
  case unsimulated => exact report.unsimulated

/-- **What a watch tells.**  However many rounds it has, and whatever is answered, the verdict is
borne out by the answers. -/
theorem report_of_takes {rounds : Nat} (some : rounds ≠ 0)
    (takes : (follow w Flow.question patienceMs (4 * rounds) .looking).Takes path verdict)
    (honest : ∀ t ∈ path, t.Honest) : w.Report path verdict := by
  induction rounds generalizing path with
  | zero => contradiction
  | succ rounds ih =>
      rcases ends_or_idle takes honest with ends | ⟨height, rest, early, rfl, further⟩
      · exact ends.report
      · rcases Nat.eq_zero_or_pos rounds with rfl | more
        · -- The patience is at an end, and so is the watch.
          obtain ⟨rfl, rfl⟩ := Flow.takes_pure.1 further
          exact report_idleRound early patienceMs
        · refine report_append_idle height (ih (Nat.ne_of_gt more) further fun t mem => ?_)
          exact honest t (List.mem_append_right _ mem)

end Watch

namespace Watched

variable {w : Watched} {path : WatchPath} {verdict : Except LedgerError Unit}

/-- A transaction that has been confirmed before the last height was asked for does not expire. -/
lemma Report.not_expired (report : w.Report path verdict) {before after : WatchPath}
    {answer : Except LedgerError UInt64} (split : path = before ++ ⟨.height, answer⟩ :: after)
    (landed : ∀ seen, ⟨.status, .ok seen⟩ ∈ after → seen = .confirmed) (height expiry : UInt64) :
    verdict ≠ .error (.expired height expiry) := by
  intro same
  obtain ⟨-, -, earlier, last⟩ := report.expired height expiry same
  have ending := congrArg List.getLast? (split.symm.trans last)
  rcases List.eq_nil_or_concat after with rfl | ⟨between, t, rfl⟩
  · simp at ending
  · simp [List.getLast?_cons] at ending
    cases landed .pending (by simp [ending])

end Watched

end PoolExit
