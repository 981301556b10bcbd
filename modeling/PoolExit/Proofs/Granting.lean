import PoolExit.Proofs.Decimals
import PoolExit.Proofs.Requests

/-!
# What grants a transaction

The reply to an order grants a transaction (`HttpReply.Grants`) if its status is one of success, or
blames the request for anything but its haste, and its body is an object without a reason to refuse
that states a transaction and how long it may land.  What comes of an order is settled by its reply
(`Endpoints.settles_of_takes_grant`), and a draft is read only from a reply that grants it
(`Endpoints.granted_of_takes_build`).
-/

namespace PoolExit

/-- With this status an answer to an order is read. -/
def HttpStatus.Heard (s : HttpStatus) : Prop :=
  s.isSuccess = true ∨ s.isClientError = true ∧ s ≠ tooManyRequests

/-- A failure other than those that a builder announces itself. -/
def EndpointError.Mute : EndpointError → Prop
  | .rejected .. | .rateLimited .. => False
  | _ => True

/-! ## Bodies -/

namespace Grant

open Text (blank trim trimChars)

variable {body : String} {members : List (String × Json)} {g : Grant}

/-- The body is an object with these members, with blanks around it. -/
def Holds (body : String) (members : List (String × Json)) : Prop :=
  Json.read (trim body) = .ok (.object members)

/-- The members give a reason why nothing is built. -/
def Refuses (members : List (String × Json)) (reason : Json) : Prop :=
  members.lookup "error" = some reason ∧ reason.isNull = false

/-- The members state a transaction, and the last height at which it may land as a number or as
decimal text. -/
structure Stated (members : List (String × Json)) (g : Grant) : Prop where
  unrefused : ∀ reason, ¬ Refuses members reason
  transaction : ∃ raw, either "serializedTransaction" "transaction" members = some (.string raw) ∧
    g.transaction = trim raw ∧ g.transaction ≠ ""
  expiryHeight : ∃ value, either "expiryHeight" "lastValidBlockHeight" members = some value ∧
    (value = .int g.expiryHeight.toNat ∨
      ∃ s, value = .string s ∧ Text.Decimal (trimChars s.toList) g.expiryHeight.toNat)

lemma transaction?_eq_some {text : String} : transaction? members = some text ↔
    ∃ raw, either "serializedTransaction" "transaction" members = some (.string raw) ∧
      text = trim raw ∧ text ≠ "" := by
  unfold transaction?
  constructor
  · intro stated
    obtain ⟨value, found, stated⟩ := Option.bind_eq_some_iff.1 stated
    obtain ⟨raw, text?, stated⟩ := Option.bind_eq_some_iff.1 stated
    dsimp only at stated
    split at stated
    · cases stated
    next nonempty =>
      obtain rfl := Option.some.inj stated
      refine ⟨raw, ?_, rfl, by simpa using nonempty⟩
      cases value with
      | string s =>
          obtain rfl := Option.some.inj text?
          exact found
      | _ => cases text?
  · rintro ⟨raw, found, rfl, nonempty⟩
    simpa [found, Json.string?] using nonempty

lemma expiryHeight?_eq_some {height : UInt64} : expiryHeight? members = some height ↔
    ∃ value, either "expiryHeight" "lastValidBlockHeight" members = some value ∧
      (value = .int height.toNat ∨
        ∃ s, value = .string s ∧ Text.Decimal (trimChars s.toList) height.toNat) := by
  unfold expiryHeight?
  simp only [Option.bind_eq_bind, Option.bind_eq_some_iff, Json.looseUInt64?_eq_some]

lemma refuses_iff {reason : Json} :
    (members.lookup "error").filter (!·.isNull) = some reason ↔ Refuses members reason := by
  rw [Option.filter_eq_some_iff, Refuses, Bool.not_eq_true']

lemma ofMembers_eq_ok : ofMembers members = .ok g ↔ Stated members g := by
  unfold ofMembers
  constructor
  · intro made
    split at made
    · cases made
    next unrefused =>
      split at made
      · cases made
      next text transaction =>
        split at made
        · cases made
        next height expiryHeight =>
          obtain rfl := Except.ok.inj made
          refine ⟨fun reason refuses => ?_, transaction?_eq_some.1 transaction,
            expiryHeight?_eq_some.1 expiryHeight⟩
          rw [refuses_iff.2 refuses] at unrefused
          cases unrefused
  · rintro ⟨unrefused, transaction, expiryHeight⟩
    have none : (members.lookup "error").filter (!·.isNull) = none :=
      Option.eq_none_iff_forall_ne_some.2 fun reason refuses =>
        unrefused reason (refuses_iff.1 refuses)
    simp only [none, transaction?_eq_some.2 transaction, expiryHeight?_eq_some.2 expiryHeight]

/-- Whatever the reason is, it is told. -/
lemma rejection_eq_rejected (reason : Json) :
    ∃ code text, rejection reason = .rejected code text := by
  unfold rejection
  split
  · exact ⟨_, _, rfl⟩
  · exact ⟨_, _, rfl⟩
  · exact ⟨_, _, rfl⟩

/-- A reason to refuse comes before everything else that the members say. -/
lemma ofMembers_eq_rejected :
    (∃ code text, ofMembers members = .error (.rejected code text)) ↔
      ∃ reason, Refuses members reason := by
  constructor
  · rintro ⟨code, text, made⟩
    unfold ofMembers at made
    split at made
    next reason refuses => exact ⟨reason, refuses_iff.1 refuses⟩
    next =>
      split at made
      · cases made
      · split at made
        · cases made
        · cases made
  · rintro ⟨reason, refuses⟩
    obtain ⟨code, text, told⟩ := rejection_eq_rejected reason
    exact ⟨code, text, by simp only [ofMembers, refuses_iff.2 refuses, told]⟩

lemma read_of_holds (holds : Holds body members) : read body = ofMembers members := by
  have nonempty : (trim body).isEmpty = false := by
    by_contra empty
    have none : trim body = "" := by simpa using empty
    rw [Holds, none] at holds
    cases holds
  have value : Json.read (trim body) = .ok (.object members) := holds
  simp only [read, nonempty, Bool.false_eq_true, if_false, value, Json.members?]

/-- A body that holds no object tells neither a transaction nor a reason. -/
lemma read_of_not_holds (none : ∀ members, ¬ Holds body members) :
    ∃ e, read body = .error e ∧ e.Mute := by
  unfold read
  dsimp only
  split
  · exact ⟨_, rfl, trivial⟩
  · split
    · exact ⟨_, rfl, trivial⟩
    next value found =>
      cases value with
      | object members => exact absurd found (none members)
      | _ => exact ⟨_, rfl, trivial⟩

lemma read_eq_ok : read body = .ok g ↔ ∃ members, Holds body members ∧ Stated members g := by
  constructor
  · intro granted
    by_cases holds : ∃ members, Holds body members
    · obtain ⟨members, holds⟩ := holds
      rw [read_of_holds holds] at granted
      exact ⟨members, holds, ofMembers_eq_ok.1 granted⟩
    · obtain ⟨e, failed, -⟩ := read_of_not_holds (not_exists.1 holds)
      rw [failed] at granted
      cases granted
  · rintro ⟨members, holds, stated⟩
    rw [read_of_holds holds]
    exact ofMembers_eq_ok.2 stated

lemma read_eq_rejected : (∃ code text, read body = .error (.rejected code text)) ↔
    ∃ reason members, Holds body members ∧ Refuses members reason := by
  constructor
  · rintro ⟨code, text, rejected⟩
    by_cases holds : ∃ members, Holds body members
    · obtain ⟨members, holds⟩ := holds
      rw [read_of_holds holds] at rejected
      obtain ⟨reason, refuses⟩ := ofMembers_eq_rejected.1 ⟨code, text, rejected⟩
      exact ⟨reason, members, holds, refuses⟩
    · obtain ⟨e, failed, mute⟩ := read_of_not_holds (not_exists.1 holds)
      rw [failed] at rejected
      obtain rfl := Except.error.inj rejected
      exact absurd mute not_false
  · rintro ⟨reason, members, holds, refuses⟩
    rw [read_of_holds holds]
    exact ofMembers_eq_rejected.2 ⟨reason, refuses⟩

/-- No body asks for fewer requests. -/
lemma read_ne_rateLimited (url : String) (status : HttpStatus) (text : String) :
    read body ≠ .error (.rateLimited url status text) := by
  intro limited
  by_cases holds : ∃ members, Holds body members
  · obtain ⟨members, holds⟩ := holds
    rw [read_of_holds holds, ofMembers] at limited
    split at limited
    next reason refuses =>
      obtain ⟨code, text', told⟩ := rejection_eq_rejected reason
      rw [told] at limited
      cases limited
    next =>
      split at limited
      · cases limited
      · split at limited
        · cases limited
        · cases limited
  · obtain ⟨e, failed, mute⟩ := read_of_not_holds (not_exists.1 holds)
    rw [failed] at limited
    obtain rfl := Except.error.inj limited
    exact absurd mute not_false

end Grant

/-! ## Replies -/

namespace HttpReply

/-- The reply is read, and this is its body. -/
def Hears (reply : HttpReply) (body : String) : Prop :=
  ∃ status : HttpStatus, reply = .ok (status, .ok body) ∧ status.Heard

/-- The reply grants a transaction. -/
def Grants (reply : HttpReply) (g : Grant) : Prop :=
  ∃ body members, reply.Hears body ∧ Grant.Holds body members ∧ Grant.Stated members g

/-- The reply gives a reason why nothing is built. -/
def Refuses (reply : HttpReply) (reason : Json) : Prop :=
  ∃ body members, reply.Hears body ∧ Grant.Holds body members ∧ Grant.Refuses members reason

/-- The reply asks for fewer requests. -/
def Limits (reply : HttpReply) : Prop :=
  ∃ body, reply = .ok (.tooManyRequests, .ok body)

/-- What comes of an order with this reply. -/
structure Settles (reply : HttpReply) (r : Except EndpointError Grant) : Prop where
  granted : ∀ g, r = .ok g ↔ reply.Grants g
  rejected : (∃ code text, r = .error (.rejected code text)) ↔ ∃ reason, reply.Refuses reason
  limited : (∃ url status text, r = .error (.rateLimited url status text)) ↔ reply.Limits

lemma hears_body {status : HttpStatus} {body body' : String} :
    Hears (.ok (status, .ok body)) body' ↔ body = body' ∧ status.Heard := by
  constructor
  · rintro ⟨_, ⟨rfl, rfl⟩, heard⟩
    exact ⟨rfl, heard⟩
  · rintro ⟨rfl, heard⟩
    exact ⟨status, rfl, heard⟩

lemma limits_body {status : HttpStatus} {body : String} :
    Limits (.ok (status, .ok body)) ↔ status = .tooManyRequests := by
  constructor
  · rintro ⟨body', same⟩
    exact congrArg Prod.fst (Except.ok.inj same)
  · rintro rfl
    exact ⟨body, rfl⟩

/-- A reply that is not read neither grants nor refuses anything. -/
lemma settles_of_unheard {reply : HttpReply} {e : EndpointError}
    (unheard : ∀ body, ¬ reply.Hears body) (untold : ∀ code text, e ≠ .rejected code text)
    (limited : (∃ url status text, e = .rateLimited url status text) ↔ reply.Limits) :
    reply.Settles (.error e) where
  granted g := by
    constructor
    · nofun
    · rintro ⟨body, members, hears, -⟩
      exact absurd hears (unheard body)
  rejected := by
    constructor
    · rintro ⟨code, text, told⟩
      exact absurd (Except.error.inj told) (untold code text)
    · rintro ⟨reason, body, members, hears, -⟩
      exact absurd hears (unheard body)
  limited := by simpa using limited

end HttpReply

lemma HttpStatus.not_heard_tooManyRequests : ¬ tooManyRequests.Heard := by
  rintro (success | ⟨-, other⟩)
  · cases success
  · exact other rfl

section

open PoolExit.Flow (takes_bind takes_pure takes_question)

variable {path : HttpPath}

/-- The answers where no server can be reached. -/
def HttpStep.unreached : (s : HttpStep) → s.Answer
  | .get url _ | .post url .. => .error (.cannotConnect url)
  | .note _ => ()

namespace HttpTalk

lemma mute_of_takes_transportError {venue : Venue} {url : String} {timeoutMs : Nat}
    {fault : TransportFault} {e : EndpointError}
    (takes : (transportError venue url timeoutMs fault).Takes path e) : e.Mute := by
  unfold transportError at takes
  split at takes
  · obtain ⟨_, _, _, -, -, done⟩ := takes_bind.1 takes
    obtain ⟨-, rfl⟩ := takes_pure.1 done
    trivial
  · obtain ⟨_, _, _, -, -, done⟩ := takes_bind.1 takes
    obtain ⟨-, rfl⟩ := takes_pure.1 done
    trivial

/-- What an order takes in of its reply. -/
inductive Taken : HttpReply → Except EndpointError String → Prop
  /-- There is no reply, or its body did not come. -/
  | lost {reply e} (bodiless : ∀ status body, reply ≠ .ok (status, .ok body)) (mute : e.Mute) :
      Taken reply (.error e)
  | limited (url body text) :
      Taken (.ok (.tooManyRequests, .ok body)) (.error (.rateLimited url .tooManyRequests text))
  | unheard {status : HttpStatus} (url body text) (unheard : ¬ status.Heard)
      (other : status ≠ .tooManyRequests) :
      Taken (.ok (status, .ok body)) (.error (.badStatus url status text))
  | heard {status : HttpStatus} (body) (heard : status.Heard) :
      Taken (.ok (status, .ok body)) (.ok body)

lemma taken_of_takes_exchange {venue : Venue} {url : String} {timeoutMs : Nat} {request : Json}
    {r : Except EndpointError String}
    (takes : (exchange venue .build url timeoutMs request).Takes path r) :
    ∃ reply noted, path = ⟨.post url request timeoutMs, reply⟩ :: noted ∧ Taken reply r := by
  obtain ⟨reply, _, rest, rfl, asked, next⟩ := takes_bind.1 takes
  obtain rfl := takes_question.1 asked
  refine ⟨reply, rest, rfl, ?_⟩
  rcases reply with fault | ⟨status, fault | body⟩
  · obtain ⟨e, _, _, -, failed, done⟩ := takes_bind.1 next
    obtain ⟨-, rfl⟩ := takes_pure.1 done
    exact .lost nofun (mute_of_takes_transportError failed)
  · obtain ⟨e, _, _, -, failed, done⟩ := takes_bind.1 next
    obtain ⟨-, rfl⟩ := takes_pure.1 done
    exact .lost nofun (mute_of_takes_transportError failed)
  · dsimp only at next
    split at next
    next hasty =>
      subst hasty
      obtain ⟨_, _, _, -, -, done⟩ := takes_bind.1 next
      obtain ⟨-, rfl⟩ := takes_pure.1 done
      exact .limited ..
    next other =>
      split at next
      next unheard =>
        obtain ⟨_, _, _, -, -, done⟩ := takes_bind.1 next
        obtain ⟨-, rfl⟩ := takes_pure.1 done
        exact .unheard _ _ _ (by simpa [HttpStatus.Heard, other] using unheard) other
      next heard =>
        obtain ⟨-, rfl⟩ := takes_pure.1 next
        refine .heard _ ?_
        by_cases success : status.isSuccess = true
        · exact .inl success
        · exact .inr ⟨by simpa [success] using heard, other⟩

/-- What is taken in of a reply, and read as a grant, settles the order. -/
lemma Taken.settles {reply : HttpReply} {taken : Except EndpointError String}
    (h : Taken reply taken) : reply.Settles (taken.bind Grant.read) := by
  cases h with
  | @lost _ e bodiless mute =>
      refine HttpReply.settles_of_unheard ?_ ?_ ?_
      · rintro body ⟨status, rfl, -⟩
        exact bodiless status body rfl
      · rintro code text rfl
        exact mute
      · constructor
        · rintro ⟨url, status, text, rfl⟩
          exact absurd mute not_false
        · rintro ⟨body, rfl⟩
          exact absurd rfl (bodiless .tooManyRequests body)
  | limited url body text =>
      refine HttpReply.settles_of_unheard ?_ nofun ?_
      · intro body' hears
        exact HttpStatus.not_heard_tooManyRequests (HttpReply.hears_body.1 hears).2
      · simp [HttpReply.limits_body]
  | unheard url body text unheard other =>
      refine HttpReply.settles_of_unheard ?_ nofun ?_
      · intro body' hears
        exact unheard (HttpReply.hears_body.1 hears).2
      · simpa [HttpReply.limits_body] using other
  | heard body heard =>
      have hears : ∀ {body'}, HttpReply.Hears (.ok (_, .ok body)) body' ↔ body = body' :=
        HttpReply.hears_body.trans (and_iff_left heard)
      rw [Except.bind]
      refine ⟨fun g => ?_, ?_, ?_⟩
      · simp only [HttpReply.Grants, hears, exists_and_left, exists_eq_left']
        exact Grant.read_eq_ok
      · simp only [HttpReply.Refuses, hears, exists_and_left, exists_eq_left']
        exact Grant.read_eq_rejected
      · constructor
        · rintro ⟨url, status, text, limited⟩
          exact absurd limited (Grant.read_ne_rateLimited url status text)
        · intro limits
          rw [HttpReply.limits_body.1 limits] at heard
          exact absurd heard HttpStatus.not_heard_tooManyRequests

end HttpTalk

namespace Endpoints

variable {e : Endpoints} {o : BuildOrder}

/-- **What settles an order.**  Without an address nothing is asked.  Else one request is sent, and
what its reply says decides what comes of the order. -/
theorem settles_of_takes_grant {r : Except EndpointError Grant}
    (takes : (e.grant o).Takes path r) :
    (Text.trim e.buildUrl = "" ∧ path = [] ∧ r = .error (.notConfigured "build_url")) ∨
      ∃ reply noted, path = ⟨.post (Text.trim e.buildUrl) o.request e.patience, reply⟩ :: noted ∧
        posted noted = [] ∧ reply.Settles r := by
  obtain ⟨taken, first, rest, rfl, asked, next⟩ := takes_bind.1 takes
  have read : rest = [] ∧ r = taken.bind Grant.read := by
    rw [Except.bind.eq_def]
    cases taken with
    | error e =>
        obtain ⟨rfl, rfl⟩ := takes_pure.1 next
        exact ⟨rfl, rfl⟩
    | ok body =>
        obtain ⟨rfl, rfl⟩ := takes_pure.1 next
        exact ⟨rfl, rfl⟩
  obtain ⟨rfl, rfl⟩ := read
  rw [List.append_nil]
  simp only [exchange] at asked
  split at asked
  next missing =>
    obtain ⟨rfl, rfl⟩ := takes_pure.1 asked
    exact .inl ⟨by simpa using missing, rfl, rfl⟩
  next =>
    have once := HttpTalk.posted_of_takes_exchange asked
    obtain ⟨reply, noted, rfl, taken⟩ := HttpTalk.taken_of_takes_exchange asked
    exact .inr ⟨reply, noted, rfl, (List.cons.inj once).2, taken.settles⟩

/-- Whatever the reply is, something comes of the order. -/
lemma exists_takes_grant (addressed : Text.trim e.buildUrl ≠ "") (o : BuildOrder)
    (reply : HttpReply) : ∃ noted r,
      (e.grant o).Takes (⟨.post (Text.trim e.buildUrl) o.request e.patience, reply⟩ :: noted) r := by
  obtain ⟨next, asks⟩ : ∃ next, e.grant o =
      .ask (.post (Text.trim e.buildUrl) o.request e.patience) next := by
    simp only [grant, exchange]
    rw [if_neg (by simpa using addressed)]
    exact ⟨_, rfl⟩
  rw [asks]
  exact ⟨_, _, Flow.takes_ask.2 ⟨reply, _, rfl, Flow.takes_play HttpStep.unreached _⟩⟩

/-- The reply to an order lies on the path, and it grants a transaction from which the draft is
read. -/
def Granted (e : Endpoints) (o : BuildOrder) (path : HttpPath) (draft : Draft) : Prop :=
  ∃ reply g, (⟨.post (Text.trim e.buildUrl) o.request e.patience, reply⟩ :
      Flow.Asked HttpStep HttpStep.Answer) ∈ path ∧
    HttpReply.Grants reply g ∧ g.draft = .ok draft

/-- A draft comes only of a reply that grants it. -/
theorem granted_of_takes_build {probe known : Probe} {draft : Draft}
    (takes : (e.build o probe).Takes path (.ok draft, known)) : e.Granted o path draft := by
  rw [build_eq] at takes
  split at takes
  · obtain ⟨told, first, rest, rfl, -, next⟩ := takes_bind.1 takes
    obtain ⟨answer, ordered, last, rfl, orders, done⟩ := takes_bind.1 next
    obtain ⟨rfl, same⟩ := takes_pure.1 done
    obtain ⟨rfl, -⟩ := Prod.mk.inj same
    have drafts : (e.buildDraft o).Takes ordered (.ok draft) := by
      cases told with
      | unwell reason => cases (takes_pure.1 orders).2
      | well | unasked => exact orders
    obtain ⟨granted, asked, draft_iff⟩ := grant_of_takes_buildDraft drafts
    obtain ⟨g, rfl, drafted⟩ := (draft_iff draft).1 rfl
    rcases settles_of_takes_grant asked with ⟨-, -, failed⟩ | ⟨reply, noted, rfl, -, settles⟩
    · cases failed
    · exact ⟨reply, g, by simp, (settles.granted g).1 rfl, drafted⟩
  · obtain ⟨-, same⟩ := takes_pure.1 takes
    cases same

end Endpoints

end

end PoolExit
