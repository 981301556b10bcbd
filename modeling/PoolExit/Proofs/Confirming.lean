import PoolExit.Command.NodeClient
import PoolExit.Proofs.Watching

/-!
# Waiting for a confirmation

What a client of a node waits for is a watch whose questions are put to the node and to the clock.
`NodeReply.Tells` says what an answer of the node tells of a transaction: a failure where the status
that the library reads has one, and else whether this status is sure enough for the commitment.
`NodeClient.Hears` says step by step which requests are made and what their answers tell.

A node that fails always says only that it gave no answer, so the verdict of a wait is borne out by
what the node said (`NodeClient.verdict_borne_out`), for every number of rounds and every library.
-/

namespace PoolExit

/-! ## What an answer tells -/

namespace NodeReply

/-- What an answer says, if its result is read so. -/
inductive Gives {α : Type} (read : Json → Option α) : NodeReply → Except LedgerError α → Prop
  | unreachable (reason : String) : Gives read (.unreachable reason) (.error (.unanswered reason))
  | error (code : Int) (text : String) :
      Gives read (.error code text) (.error (.unanswered s!"RPC response error {code}: {text}; "))
  | unreadable {v : Json} (refused : read v = none) :
      Gives read (.result v) (.error (.unanswered "unexpected answer"))
  | result {v : Json} {a : α} (given : read v = some a) : Gives read (.result v) (.ok a)

/-- What an answer tells of a transaction for whose status it was asked. -/
inductive Tells (l : NodeLibrary) (c : Commitment) (reply : NodeReply) :
    Except LedgerError Sighting → Prop
  | unanswered {e : LedgerError} (gives : reply.Gives l.statuses (.error e)) :
      Tells l c reply (.error e)
  | unknown {statuses : List (Option TransactionStatus)}
      (gives : reply.Gives l.statuses (.ok statuses))
      (none : ∀ status, statuses.head? ≠ some (some status)) : Tells l c reply (.ok .pending)
  | failed {statuses : List (Option TransactionStatus)} {status : TransactionStatus}
      {failure : String} (gives : reply.Gives l.statuses (.ok statuses))
      (here : statuses.head? = some (some status)) (failed : status.failure = some failure) :
      Tells l c reply (.ok (.failed failure))
  | confirmed {statuses : List (Option TransactionStatus)} {status : TransactionStatus}
      (gives : reply.Gives l.statuses (.ok statuses)) (here : statuses.head? = some (some status))
      (sound : status.failure = none) (sure : l.satisfies status c = true) :
      Tells l c reply (.ok .confirmed)
  | pending {statuses : List (Option TransactionStatus)} {status : TransactionStatus}
      (gives : reply.Gives l.statuses (.ok statuses)) (here : statuses.head? = some (some status))
      (sound : status.failure = none) (unsure : l.satisfies status c = false) :
      Tells l c reply (.ok .pending)

variable {α : Type} {read : Json → Option α} {reply : NodeReply} {l : NodeLibrary} {c : Commitment}

lemma gives_heard (read : Json → Option α) (reply : NodeReply) :
    reply.Gives read (reply.heard read) := by
  cases reply with
  | unreachable reason => exact .unreachable reason
  | error code text => exact .error code text
  | result v =>
      cases given : read v with
      | none =>
          simp only [heard, given]
          exact .unreadable given
      | some a =>
          simp only [heard, given]
          exact .result given

/-- A node that fails has given no answer. -/
lemma Gives.unanswered {e : LedgerError} (gives : reply.Gives read (.error e)) :
    ∃ reason, e = .unanswered reason := by
  cases gives with
  | unreachable | error | unreadable => exact ⟨_, rfl⟩

/-- The answer tells what the client makes of it. -/
lemma tells_sighting (l : NodeLibrary) (c : Commitment) (reply : NodeReply) :
    reply.Tells l c ((reply.heard l.statuses).map (Node.sighting l c)) := by
  have gives := gives_heard l.statuses reply
  cases heard : reply.heard l.statuses with
  | error e => exact .unanswered (heard ▸ gives)
  | ok statuses =>
      rw [heard] at gives
      simp only [Except.map, Node.sighting]
      split
      next none => exact .unknown gives (by simp [none])
      next none => exact .unknown gives (by simp [none])
      next status here =>
        split
        next failure failed => exact .failed gives here failed
        next sound =>
          split
          next sure => exact .confirmed gives here sound sure
          next unsure => exact .pending gives here sound (Bool.not_eq_true _ ▸ unsure)

lemma Gives.eq_heard {r : Except LedgerError α} (gives : reply.Gives read r) :
    r = reply.heard read := by
  cases gives with
  | unreachable | error => rfl
  | unreadable refused => simp only [heard, refused]
  | result given => simp only [heard, given]

/-- An answer tells one thing only. -/
lemma Tells.eq_sighting {seen : Except LedgerError Sighting} (tells : reply.Tells l c seen) :
    seen = (reply.heard l.statuses).map (Node.sighting l c) := by
  cases tells with
  | unanswered gives => rw [← gives.eq_heard, Except.map]
  | @unknown statuses gives none =>
      rw [← gives.eq_heard, Except.map, Node.sighting]
      split
      · rfl
      · rfl
      next status here => exact absurd here (none status)
  | failed gives here failed =>
      rw [← gives.eq_heard]
      simp only [Except.map, Node.sighting, here, failed]
  | confirmed gives here sound sure =>
      rw [← gives.eq_heard]
      simp only [Except.map, Node.sighting, here, sound, sure, if_true]
  | pending gives here sound unsure =>
      rw [← gives.eq_heard]
      simp only [Except.map, Node.sighting, here, sound, unsure, Bool.false_eq_true, if_false]

end NodeReply

/-! ## Waiting -/

namespace Command.NodeClient

open PoolExit.Flow (Carries takes_ask takes_bind takes_perform takes_pure takes_question)

/-- What is asked of the node and of the machine for the questions of a watch that began at `start`,
and what the answers tell. -/
inductive Hears (c : NodeClient) (start : Nat) (w : Watched) : WatchPath → ShellPath → Prop
  | nil : Hears c start w [] []
  | status {asked path} {reply : NodeReply} {seen : Except LedgerError Sighting}
      (tells : reply.Tells c.library c.commitment seen) (others : Hears c start w asked path) :
      Hears c start w (⟨.status, seen⟩ :: asked)
        (⟨.node c.url (Node.statusRequest w.signature), reply⟩ :: path)
  | height {asked path} {reply : NodeReply} {answer : Except LedgerError UInt64}
      (gives : reply.Gives c.library.height answer) (others : Hears c start w asked path) :
      Hears c start w (⟨.height, answer⟩ :: asked)
        (⟨.node c.url (Node.heightRequest c.commitment), reply⟩ :: path)
  | clock {asked path} (now : Nat) (others : Hears c start w asked path) :
      Hears c start w
        (⟨.clock, if c.confirmTimeoutMs < now - start then some (now - start) else none⟩ :: asked)
        (⟨.clock, now⟩ :: path)
  | pause {asked path} (now : Nat) (others : Hears c start w asked path) :
      Hears c start w (⟨.pause, ()⟩ :: asked)
        (⟨.clock, now⟩ ::
          ⟨.pause (min c.pollIntervalMs (c.confirmTimeoutMs - (now - start))), ()⟩ :: path)
  | announce {asked path} (others : Hears c start w asked path) :
      Hears c start w (⟨.announce, ()⟩ :: asked)
        (⟨.log (ProgramNotice.landed w.signature).line, ()⟩ :: path)

variable {c : NodeClient} {start : Nat} {w : Watched} {asked : WatchPath} {path : ShellPath}
  {verdict : Except LedgerError Unit}

lemma takes_ask_node {α : Type} {request : NodeRequest} {read : Json → Option α}
    {answer : Except LedgerError α} (takes : (c.ask (Node.ask request read)).Takes path answer) :
    ∃ reply : NodeReply, path = [⟨.node c.url request, reply⟩] ∧ answer = reply.heard read := by
  obtain ⟨reply, rest, rfl, further⟩ := takes_ask.1 takes
  obtain ⟨rfl, rfl⟩ := takes_pure.1 further
  exact ⟨reply, rfl, rfl⟩

lemma takes_ask_status {answer : Except LedgerError Sighting}
    (takes : (c.ask (Node.status c.library c.commitment w.signature)).Takes path answer) :
    ∃ reply : NodeReply, path = [⟨.node c.url (Node.statusRequest w.signature), reply⟩] ∧
      reply.Tells c.library c.commitment answer := by
  obtain ⟨reply, rest, rfl, further⟩ := takes_ask.1 takes
  obtain ⟨rfl, rfl⟩ := takes_pure.1 further
  exact ⟨reply, rfl, NodeReply.tells_sighting c.library c.commitment reply⟩

/-- A question of a watch is heard as it is answered. -/
lemma hears_of_carries (carries : Carries (c.answerWatch start w) asked path) :
    c.Hears start w asked path := by
  induction carries with
  | nil => exact .nil
  | @cons t first rest asked one others ih =>
      rcases t with ⟨_ | _ | _ | _ | _, answer⟩
      · obtain ⟨reply, rfl, tells⟩ := takes_ask_status one
        exact .status tells ih
      · obtain ⟨reply, rfl, rfl⟩ := takes_ask_node one
        exact .height (NodeReply.gives_heard _ reply) ih
      · obtain ⟨now, rest, rfl, further⟩ := takes_ask.1 one
        obtain ⟨rfl, rfl⟩ := takes_pure.1 further
        exact .clock now ih
      · obtain ⟨now, rest, rfl, further⟩ := takes_ask.1 one
        obtain rfl := takes_question.1 further
        exact .pause now ih
      · obtain rfl := takes_question.1 one
        exact .announce ih

/-- Where the node fails, it has given no answer. -/
lemma honest_of_hears (hears : c.Hears start w asked path) : ∀ t ∈ asked, t.Honest := by
  induction hears with
  | nil => simp
  | status tells others ih =>
      refine List.forall_mem_cons.2 ⟨?_, ih⟩
      cases tells with
      | unanswered gives => exact gives.unanswered
      | unknown | failed | confirmed | pending => trivial
  | @height asked path reply answer gives others ih =>
      refine List.forall_mem_cons.2 ⟨?_, ih⟩
      cases answer with
      | error e => exact gives.unanswered
      | ok height => trivial
  | clock now others ih => exact List.forall_mem_cons.2 ⟨trivial, ih⟩
  | pause now others ih => exact List.forall_mem_cons.2 ⟨trivial, ih⟩
  | announce others ih => exact List.forall_mem_cons.2 ⟨trivial, ih⟩

lemma statusRequest_ne_heightRequest (signature : Signature) (commitment : Commitment) :
    Node.statusRequest signature ≠ Node.heightRequest commitment := by
  intro same
  have method : "getSignatureStatuses" = "getBlockHeight" := congrArg NodeRequest.method same
  exact absurd method (by decide)

/-- The answers on a path tell one thing only. -/
lemma Hears.unique {asked' : WatchPath} (hears : c.Hears start w asked path)
    (hears' : c.Hears start w asked' path) : asked' = asked := by
  have other := statusRequest_ne_heightRequest w.signature c.commitment
  generalize same : path = path' at hears'
  induction hears generalizing asked' path' with
  | nil =>
      subst same
      cases hears'
      rfl
  | status tells others ih =>
      cases hears' with
      | status tells' others' =>
          cases same
          rw [tells.eq_sighting, tells'.eq_sighting, ih _ rfl others']
      | height => exact absurd (by simp_all) other
      | _ => cases same
  | height gives others ih =>
      cases hears' with
      | height gives' others' =>
          cases same
          rw [gives.eq_heard, gives'.eq_heard, ih _ rfl others']
      | status => exact absurd (by simp_all) other
      | _ => cases same
  | clock now others ih =>
      cases hears' with
      | clock _ others' =>
          cases same
          rw [ih _ rfl others']
      | pause =>
          cases same
          cases others
      | _ => cases same
  | pause now others ih =>
      cases hears' with
      | clock _ others' =>
          cases same
          cases others'
      | pause _ others' =>
          cases same
          rw [ih _ rfl others']
      | _ => cases same
  | announce others ih =>
      cases hears' with
      | announce others' =>
          cases same
          rw [ih _ rfl others']
      | _ => cases same

/-- **What the verdict of a wait tells.**  However many rounds there may be before the wait counts
as too long, whatever the node and the clock answer and whatever library reads it: the answers tell
one thing only, and a transaction counts as confirmed, or as failed on the chain, exactly where that
is what the ledger said first, and nothing is asked behind that.  It counts as expired only where
the status was looked at once more past the expiry height, so not if it was confirmed when the
height was asked for, and as unconfirmed only where the expiry height had not passed. -/
theorem verdict_borne_out {rounds : Nat} (some : rounds ≠ 0)
    (takes : (c.confirmWithin rounds w).Takes path verdict) :
    ∃ start asked rest, path = ⟨.clock, start⟩ :: rest ∧ c.Hears start w asked rest ∧
      (∀ asked', c.Hears start w asked' rest → asked' = asked) ∧ w.Report asked verdict ∧
      ∀ before answer after, asked = before ++ ⟨.height, answer⟩ :: after →
        (∀ seen, ⟨.status, .ok seen⟩ ∈ after → seen = .confirmed) →
        ∀ height expiry, verdict ≠ .error (.expired height expiry) := by
  obtain ⟨start, rest, rfl, watched⟩ := takes_ask.1 takes
  rw [Flow.done_bind, Watch.follow_eq_perform] at watched
  obtain ⟨asked, followed, carries⟩ := takes_perform.1 watched
  have hears := hears_of_carries carries
  have report := Watch.report_of_takes some followed (honest_of_hears hears)
  exact ⟨start, asked, rest, rfl, hears, fun _ => hears.unique, report,
    fun _ _ _ => report.not_expired⟩

/-- The transaction lands between the look at the status and the question for the height, by which
the expiry height has passed.  The last look finds it. -/
theorem verdict_borne_out_last_moment :
    let c : NodeClient :=
      { url := "node", commitment := .confirmed, confirmTimeoutMs := 100, pollIntervalMs := 50 }
    let w : Watched := ⟨.zero 64, 5⟩
    let statuses (status : Json) : NodeReply :=
      .result (.object [("context", .object [("slot", .int 1)]), ("value", .array [status])])
    let pending : NodeReply := statuses .null
    let landed : NodeReply := statuses (.object [("confirmationStatus", .string "confirmed"),
      ("confirmations", .int 1), ("err", .null), ("slot", .int 1),
      ("status", .object [("Ok", .null)])])
    let path : ShellPath :=
      [⟨.clock, (7 : Nat)⟩, ⟨.node "node" (Node.statusRequest (.zero 64)), pending⟩,
        ⟨.node "node" (Node.heightRequest .confirmed), .result (.int 5)⟩,
        ⟨.clock, (67 : Nat)⟩, ⟨.clock, (67 : Nat)⟩, ⟨.pause 40, ()⟩,
        ⟨.node "node" (Node.statusRequest (.zero 64)), pending⟩,
        ⟨.node "node" (Node.heightRequest .confirmed), .result (.int 6)⟩,
        ⟨.node "node" (Node.statusRequest (.zero 64)), landed⟩]
    (c.confirmWithin c.rounds w).Takes path (.ok ()) ∧
      ∃ asked, c.Hears 7 w asked path.tail ∧ w.Report asked (.ok ()) ∧
        firstWord asked = some .confirmed := by
  intro c w statuses pending landed path
  have takes : (c.confirmWithin c.rounds w).Takes path (.ok ()) :=
    .ask _ _ (.ask _ _ (.ask _ _ (.ask _ _ (.ask _ _ (.ask _ _ (.ask _ _ (.ask _ _ (.ask _ _
      (.done _)))))))))
  obtain ⟨start, asked, rest, same, hears, -, report, -⟩ := verdict_borne_out (by decide) takes
  obtain ⟨head, rfl⟩ := List.cons.inj same
  cases head
  exact ⟨takes, asked, hears, report, report.confirmed.1 rfl⟩

end Command.NodeClient

end PoolExit
