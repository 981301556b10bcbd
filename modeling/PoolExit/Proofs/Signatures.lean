import PoolExit.Proofs.Transcript
import Mathlib.Data.List.Forall2

/-!
# What the wallet can make of a request

The wallet is not trusted: it may answer with the wrong number of transactions, in another order or
with other messages.  `Asked` and `SignedAlone` list the ways in which a request can go, turn by
turn.

A batch keeps its slots in line with the drafts, each slot with the draft's own message
(`aligned_of_goes_batch`).  A single signature does so where the wallet signed it as a batch of
one. Where it was asked directly, its answer is taken as it is: `SignedAlone.direct` says nothing
about the message.
-/

namespace PoolExit

namespace Signing

open Talk

/-- The report of an answer for all signatures that does not count. -/
inductive Refusal : Notice → Prop
  | failed (count e) : Refusal (.bulkFailed count e)
  | lengthMismatch (expected actual) : Refusal (.bulkLengthMismatch expected actual)
  | messageChanged (index) : Refusal (.bulkMessageChanged index)

/-- How asking for all signatures at once can go. -/
inductive Asked (drafts : List Transaction) :
    Bool → List Turn → Except SignerError (List Transaction) → Prop
  | unsupported : Asked drafts false [] (.error .unsupported)
  | refused {n} (report : Refusal n) (answer x y e) : Asked drafts true
      [⟨.call (.signAll drafts), answer, x⟩, ⟨.note n, (), y⟩] (.error e)
  | signed (x signed) (same : List.Forall₂ (fun d t => t.message = d.message) drafts signed) :
      Asked drafts true [⟨.call (.signAll drafts), .ok signed, x⟩] (.ok signed)

/-- If no message changed, slot by slot the messages are the same. -/
lemma forall₂_of_firstChanged_eq_none : ∀ {drafts signed : List Transaction},
    signed.length = drafts.length → firstChanged drafts signed = none →
      List.Forall₂ (fun d t => t.message = d.message) drafts signed
  | [], [], _, _ => .nil
  | d :: drafts, t :: signed, hl, h => by
      simp only [firstChanged, List.zip_cons_cons, List.findIdx?_cons] at h
      split at h
      · cases h
      next same =>
        have message : d.message = t.message := by simpa using same
        have rest : firstChanged drafts signed = none := Option.map_eq_none_iff.1 h
        exact .cons message.symm (forall₂_of_firstChanged_eq_none (Nat.succ.inj hl) rest)

lemma asked_of_goes {bulk : Bool} {drafts : List Transaction} {ts : List Turn}
    {r : Except SignerError (List Transaction)} (go : Goes (together bulk drafts) ts r) :
    Asked drafts bulk ts r := by
  cases bulk with
  | false =>
      obtain ⟨rfl, rfl⟩ := goes_pure.1 go
      exact .unsupported
  | true =>
      obtain ⟨answer, us, vs, rfl, call, judged⟩ := goes_bind.1 go
      obtain ⟨x, rfl⟩ := goes_call.1 call
      -- Every way to refuse the answer reports it once and fails.
      have refuse : ∀ {n : Notice} {e : SignerError}, Refusal n →
          Goes (do Talk.note n; return (.error e : Except SignerError (List Transaction))) vs r →
          Asked drafts true ([⟨.call (.signAll drafts), answer, x⟩] ++ vs) r := by
        intro n e report refusal
        obtain ⟨_, us, ws, rfl, note, stop⟩ := goes_bind.1 refusal
        obtain ⟨y, rfl⟩ := goes_note.1 note
        obtain ⟨rfl, rfl⟩ := goes_pure.1 stop
        exact .refused report _ _ _ _
      cases answer with
      | error e => exact refuse (.failed _ _) judged
      | ok signed =>
          by_cases hl : signed.length = drafts.length
          · simp only [hl, ne_eq, not_true_eq_false, if_false] at judged
            cases hc : firstChanged drafts signed with
            | some index =>
                rw [hc] at judged
                exact refuse (.messageChanged _) judged
            | none =>
                rw [hc] at judged
                obtain ⟨rfl, rfl⟩ := goes_pure.1 judged
                exact .signed x signed (forall₂_of_firstChanged_eq_none hl hc)
          · simp only [ne_eq, hl, not_false_eq_true, if_true] at judged
            exact refuse (.lengthMismatch _ _) judged

/-- Of two alternatives the second is tried where the first fails. -/
lemma of_goes_firstSuccess_pair {π α ε : Type} {p q : π} {attempt : Nat → π → Talk (Except ε α)}
    {ts : List Turn} {r : Except (Exhausted ε) (Success α)}
    (go : Goes (firstSuccess [p, q] none attempt) ts r) :
    (∃ a, r = .ok ⟨0, a, 0⟩ ∧ Goes (attempt 0 p) ts (.ok a)) ∨
      ∃ e us vs, ts = us ++ vs ∧ Goes (attempt 0 p) us (.error e) ∧
        ((∃ a, r = .ok ⟨1, a, 1⟩ ∧ Goes (attempt 1 q) vs (.ok a)) ∨
          ∃ e', r = .error ⟨[e, e'], false⟩ ∧ Goes (attempt 1 q) vs (.error e')) := by
  simp only [firstSuccess, firstSuccessFrom, pure_bind, Bool.false_eq_true, if_false] at go
  obtain ⟨first, us, vs, rfl, go₁, go⟩ := goes_bind.1 go
  cases first with
  | ok a =>
      obtain ⟨rfl, rfl⟩ := goes_pure.1 go
      exact .inl ⟨a, rfl, by simpa using go₁⟩
  | error e =>
      obtain ⟨second, vs, ws, rfl, go₂, done⟩ := goes_bind.1 go
      refine .inr ⟨e, us, vs ++ ws, rfl, go₁, ?_⟩
      cases second with
      | ok a =>
          obtain ⟨rfl, rfl⟩ := goes_pure.1 done
          exact .inl ⟨a, rfl, by simpa using go₂⟩
      | error e' =>
          obtain ⟨rfl, rfl⟩ := goes_pure.1 done
          exact .inr ⟨e', rfl, by simpa using go₂⟩

/-- How asking for a single signature can go. -/
inductive SignedAlone (draft : Transaction) :
    Bool → List Turn → Except SignerError Transaction → Prop
  | together (x t) (same : t.message = draft.message) :
      SignedAlone draft true [⟨.call (.signAll [draft]), .ok [t], x⟩] (.ok t)
  | direct {bulk us e} (asked : Asked [draft] bulk us (.error e)) (answer x) :
      SignedAlone draft bulk (us ++ [⟨.call (.signOne draft), answer, x⟩]) answer

/-- The way of signing that asks for a batch of one. -/
lemma goes_batchOfOne {bulk : Bool} {draft : Transaction} {ts : List Turn}
    {r : Except SignerError Transaction}
    (go : Goes (do
      match ← together bulk [draft] with
      | .ok signed => return match signed.getLast? with
        | some t => .ok t
        | none => .error (.lengthMismatch 1 0)
      | .error e => return .error e) ts r) :
    (∃ e, r = .error e ∧ Asked [draft] bulk ts (.error e)) ∨
      ∃ t, r = .ok t ∧ SignedAlone draft bulk ts (.ok t) := by
  obtain ⟨signed, us, vs, rfl, asked, out⟩ := goes_bind.1 go
  have judged := asked_of_goes asked
  cases judged with
  | unsupported =>
      obtain ⟨rfl, rfl⟩ := goes_pure.1 out
      exact .inl ⟨_, rfl, .unsupported⟩
  | refused report answer x y e =>
      obtain ⟨rfl, rfl⟩ := goes_pure.1 out
      exact .inl ⟨_, rfl, .refused report answer x y e⟩
  | signed x signed same =>
      obtain ⟨rfl, rfl⟩ := goes_pure.1 out
      cases same with
      | cons message rest =>
          cases rest
          exact .inr ⟨_, rfl, .together x _ message⟩

lemma signedAlone_of_goes {bulk : Bool} {draft : Transaction} {ts : List Turn}
    {r : Except SignerError Transaction} (go : Goes (single bulk draft) ts r) :
    SignedAlone draft bulk ts r := by
  obtain ⟨result, us, vs, rfl, tried, out⟩ := goes_bind.1 go
  rcases of_goes_firstSuccess_pair tried with
    ⟨t, rfl, first⟩ | ⟨e, us, ws, rfl, first, second⟩
  · obtain ⟨rfl, rfl⟩ := goes_pure.1 out
    rcases goes_batchOfOne first with ⟨e, he, -⟩ | ⟨t', ht, alone⟩
    · cases he
    · obtain rfl := Except.ok.inj ht
      simpa using alone
  · rcases goes_batchOfOne first with ⟨e', he, asked⟩ | ⟨t', ht, -⟩
    · obtain rfl := Except.error.inj he
      rcases second with ⟨t, rfl, direct⟩ | ⟨e', rfl, direct⟩
      · obtain ⟨rfl, rfl⟩ := goes_pure.1 out
        obtain ⟨x, rfl⟩ := goes_call.1 direct
        simpa using SignedAlone.direct asked (.ok t) x
      · obtain ⟨rfl, rfl⟩ := goes_pure.1 out
        obtain ⟨x, rfl⟩ := goes_call.1 direct
        rw [List.append_nil]
        exact .direct asked (.error e') x
    · cases ht

lemma Refusal.aside {n : Notice} (report : Refusal n) : n.Aside := by
  cases report <;> exact ⟨rfl, rfl⟩

lemma Asked.held {drafts : List Transaction} {bulk : Bool} {ts : List Turn}
    {r : Except SignerError (List Transaction)} (asked : Asked drafts bulk ts r) :
    ∀ t ∈ ts, t.step.Held (· = .signAll drafts) Notice.Aside := by
  cases asked with
  | unsupported => simp
  | refused report answer x y e =>
      exact List.forall_mem_cons.2
        ⟨Step.held_call rfl, List.forall_mem_singleton.2 (Step.held_note report.aside)⟩
  | signed x signed same => exact List.forall_mem_singleton.2 (Step.held_call rfl)

/-- A single signature asks the wallet for nothing but the draft. -/
lemma SignedAlone.held {draft : Transaction} {bulk : Bool} {ts : List Turn}
    {r : Except SignerError Transaction} (alone : SignedAlone draft bulk ts r) :
    ∀ t ∈ ts, t.step.Held (fun c => c = .signAll [draft] ∨ c = .signOne draft) Notice.Aside := by
  cases alone with
  | together x t same => exact List.forall_mem_singleton.2 (Step.held_call (.inl rfl))
  | direct asked answer x =>
      exact List.forall_mem_append.2 ⟨fun t ht => (asked.held t ht).mono fun _ => .inl,
        List.forall_mem_singleton.2 (Step.held_call (.inr rfl))⟩

/-- The signed transaction has the message of the draft, unless the wallet was asked for it
directly: then it is what the wallet answered. -/
lemma SignedAlone.message {draft t : Transaction} {bulk : Bool} {ts : List Turn}
    (alone : SignedAlone draft bulk ts (.ok t)) :
    t.message = draft.message ∨ ∃ x, ⟨.call (.signOne draft), .ok t, x⟩ ∈ ts := by
  cases alone with
  | together x t same => exact .inl same
  | direct asked answer x => exact .inr ⟨x, by simp⟩

/-- The wallet is asked directly once at most, at the end, and its answer is the result. -/
lemma SignedAlone.last_of_direct {draft u : Transaction} {bulk : Bool}
    {ts before after : List Turn} {r : Except SignerError Transaction}
    {answer : Except SignerError Transaction} {x : Bool} (alone : SignedAlone draft bulk ts r)
    (split : ts = before ++ ⟨.call (.signOne u), answer, x⟩ :: after) :
    after = [] ∧ u = draft ∧ answer = r := by
  cases alone with
  | together y t same =>
      have mem : (⟨.call (.signOne u), answer, x⟩ : Turn) ∈
          [(⟨.call (.signAll [draft]), .ok [t], y⟩ : Turn)] := by simp [split]
      simp at mem
  | @direct _ us _ asked given y =>
      have earlier : ∀ t ∈ us, ¬ ∃ w, t.step.call? = some (.signOne w) := by
        rintro t ht ⟨w, hw⟩
        cases (asked.held t ht).quiet.2 _ hw
      obtain ⟨-, h, rfl⟩ := place_unique us [] ⟨u, rfl⟩ earlier (by simp) split
      cases h
      exact ⟨rfl, rfl, rfl⟩

/-! ## Batches -/

/-- The slots of a batch are in line with its drafts, and each holds the draft's message. -/
structure Aligned (drafts : List Transaction) (s : Signatures) : Prop where
  messages : List.Forall₂ (fun d t => t.message = d.message) drafts s.transactions
  errors : s.errors.length = drafts.length

/-- How asking for one signature of several can go, and how it fills the slot. -/
inductive Slotted (index : Nat) (draft : Transaction) :
    List Turn → Transaction × Option SignerError → Prop
  | signed (x t) (same : t.message = draft.message) :
      Slotted index draft [⟨.call (.signOne draft), .ok t, x⟩] (t, none)
  | changed (x t) (other : t.message ≠ draft.message) :
      Slotted index draft [⟨.call (.signOne draft), .ok t, x⟩]
        (draft, some (.messageChanged index))
  | refused (x y e) : Slotted index draft
      [⟨.call (.signOne draft), .error e, x⟩, ⟨.note (.singleFailed index e), (), y⟩]
      (draft, some e)

/-- How asking for one signature after the other can go. -/
inductive SlottedAll :
    Nat → List Transaction → List Turn → List (Transaction × Option SignerError) → Prop
  | nil (index) : SlottedAll index [] [] []
  | cons {index draft drafts us vs slot slots} (first : Slotted index draft us slot)
      (rest : SlottedAll (index + 1) drafts vs slots) :
      SlottedAll index (draft :: drafts) (us ++ vs) (slot :: slots)

lemma slottedAll_of_goes : ∀ {index : Nat} {drafts : List Transaction} {ts : List Turn}
    {slots : List (Transaction × Option SignerError)}, Goes (oneByOne index drafts) ts slots →
      SlottedAll index drafts ts slots
  | index, [], _, _, go => by
      obtain ⟨rfl, rfl⟩ := goes_pure.1 go
      exact .nil index
  | index, d :: drafts, ts, slots, go => by
      -- Once the slot is filled, the others are asked for.
      have step : ∀ {slot : Transaction × Option SignerError} {us ws : List Turn},
          Slotted index d us slot →
          Goes (do return slot :: (← oneByOne (index + 1) drafts)) ws slots →
          SlottedAll index (d :: drafts) (us ++ ws) slots := by
        intro slot us ws first rest
        obtain ⟨others, vs, _, rfl, asked, out⟩ := goes_bind.1 rest
        obtain ⟨rfl, rfl⟩ := goes_pure.1 out
        rw [List.append_nil]
        exact .cons first (slottedAll_of_goes asked)
      rw [oneByOne] at go
      obtain ⟨answer, us, vs, rfl, asked, judged⟩ := goes_bind.1 go
      obtain ⟨x, rfl⟩ := goes_call.1 asked
      cases answer with
      | ok signed =>
          by_cases message : signed.message = d.message
          · simp only [message, if_true, pure_bind] at judged
            exact step (.signed x signed message) judged
          · simp only [message, if_false, pure_bind] at judged
            exact step (.changed x signed message) judged
      | error e =>
          obtain ⟨_, us, vs, rfl, reported, failed⟩ := goes_bind.1 judged
          obtain ⟨y, rfl⟩ := goes_note.1 reported
          simp only [pure_bind] at failed
          simpa using step (.refused x y e) failed

lemma Slotted.message {index : Nat} {draft : Transaction} {ts : List Turn}
    {slot : Transaction × Option SignerError} (slotted : Slotted index draft ts slot) :
    slot.1.message = draft.message := by
  cases slotted with
  | signed x t same => exact same
  | changed | refused => rfl

/-- One after the other, a slot never holds another message than its draft's: an answer with another
one is thrown away. -/
lemma SlottedAll.messages {index : Nat} {drafts : List Transaction} {ts : List Turn}
    {slots : List (Transaction × Option SignerError)} (went : SlottedAll index drafts ts slots) :
    List.Forall₂ (fun d slot => slot.1.message = d.message) drafts slots := by
  induction went with
  | nil index => exact .nil
  | cons first rest ih => exact .cons first.message ih

/-- How asking for the signatures of a batch can go. -/
inductive Batched (bulk : Bool) (drafts : List Transaction) : List Turn → Signatures → Prop
  | nothing (empty : drafts = []) : Batched bulk drafts [] ⟨[], [], .bulk⟩
  | together {us signed} (asked : Asked drafts bulk us (.ok signed)) :
      Batched bulk drafts us ⟨signed, signed.map fun _ => none, .bulk⟩
  | oneByOne {us vs e slots} (asked : Asked drafts bulk us (.error e))
      (went : SlottedAll 0 drafts vs slots) :
      Batched bulk drafts (us ++ vs) ⟨slots.map Prod.fst, slots.map Prod.snd, .sequential⟩

lemma batched_of_goes {bulk : Bool} {drafts : List Transaction} {ts : List Turn} {s : Signatures}
    (go : Goes (batch bulk drafts) ts s) : Batched bulk drafts ts s := by
  unfold batch at go
  by_cases empty : drafts.isEmpty = true
  · rw [if_pos empty] at go
    obtain ⟨rfl, rfl⟩ := goes_pure.1 go
    exact .nothing (List.isEmpty_iff.1 empty)
  · rw [if_neg empty] at go
    obtain ⟨result, us, vs, rfl, tried, out⟩ := goes_bind.1 go
    rcases of_goes_firstSuccess_pair tried with
      ⟨s', rfl, first⟩ | ⟨e, us, ws, rfl, first, ⟨s', rfl, second⟩ | ⟨e', rfl, second⟩⟩
    · obtain ⟨rfl, rfl⟩ := goes_pure.1 out
      obtain ⟨answer, us, ws, rfl, asked, done⟩ := goes_bind.1 first
      cases answer with
      | error e =>
          obtain ⟨-, h⟩ := goes_pure.1 done
          cases h
      | ok signed =>
          obtain ⟨rfl, h⟩ := goes_pure.1 done
          obtain rfl := Except.ok.inj h
          simpa using Batched.together (asked_of_goes asked)
    · obtain ⟨rfl, rfl⟩ := goes_pure.1 out
      obtain ⟨answer, us, zs, rfl, asked, failed⟩ := goes_bind.1 first
      obtain ⟨slots, ws, ys, rfl, went, done⟩ := goes_bind.1 second
      obtain ⟨rfl, h⟩ := goes_pure.1 done
      obtain rfl := Except.ok.inj h
      cases answer with
      | ok signed =>
          obtain ⟨-, h⟩ := goes_pure.1 failed
          cases h
      | error e' =>
          obtain ⟨rfl, -⟩ := goes_pure.1 failed
          simpa using Batched.oneByOne (asked_of_goes asked) (slottedAll_of_goes went)
    · obtain ⟨slots, ws, ys, rfl, -, done⟩ := goes_bind.1 second
      obtain ⟨-, h⟩ := goes_pure.1 done
      cases h

/-- Whatever the wallet answers, the slots of a batch keep the messages of its drafts. -/
theorem aligned_of_goes_batch {bulk : Bool} {drafts : List Transaction} {ts : List Turn}
    {s : Signatures} (go : Goes (batch bulk drafts) ts s) : Aligned drafts s := by
  cases batched_of_goes go with
  | nothing empty =>
      subst empty
      exact ⟨.nil, rfl⟩
  | together asked =>
      cases asked with
      | signed x signed same => exact ⟨same, by simpa using same.length_eq.symm⟩
  | oneByOne asked went =>
      have same := went.messages
      exact ⟨List.forall₂_map_right_iff.2 same, by simpa using same.length_eq.symm⟩

/-! ## Whom a batch asks for what -/

/-- A request for signatures of some of the drafts. -/
def Requests (drafts : List Transaction) (c : Call) : Prop :=
  c = .signAll drafts ∨ ∃ d ∈ drafts, c = .signOne d

lemma only_together (bulk : Bool) (drafts : List Transaction) :
    Only (Requests drafts) Notice.Aside (together bulk drafts) := by
  cases bulk with
  | false => exact only_pure _
  | true =>
      refine (only_call (.inl rfl)).bind fun answer => ?_
      have refuse : ∀ (n : Notice) (e : SignerError), n.Aside → Only (Requests drafts) Notice.Aside
          (do Talk.note n; return (.error e : Except SignerError (List Transaction))) :=
        fun n _ aside => (only_note aside).bind fun _ => only_pure _
      cases answer with
      | error e => exact refuse _ _ ⟨rfl, rfl⟩
      | ok signed =>
          dsimp only
          split
          · exact refuse _ _ ⟨rfl, rfl⟩
          · split
            · exact refuse _ _ ⟨rfl, rfl⟩
            · exact only_pure _

lemma only_oneByOne {all : List Transaction} : ∀ (index : Nat) (drafts : List Transaction),
    drafts ⊆ all → Only (Requests all) Notice.Aside (oneByOne index drafts)
  | _, [], _ => only_pure _
  | index, d :: drafts, sub => by
      have step : ∀ slot : Transaction × Option SignerError,
          Only (Requests all) Notice.Aside (do return slot :: (← oneByOne (index + 1) drafts)) :=
        fun slot => (only_oneByOne (index + 1) drafts fun _ h => sub (by simp [h])).bind
          fun _ => only_pure _
      rw [oneByOne]
      refine (only_call (.inr ⟨d, sub (by simp), rfl⟩)).bind fun answer => ?_
      cases answer with
      | ok signed =>
          dsimp only
          split
          · exact step _
          · exact step _
      | error e => exact Only.bind (only_note ⟨rfl, rfl⟩) fun _ => step _

lemma only_firstSuccessFrom {π α ε : Type} {K : Call → Prop} {N : Notice → Prop}
    {attempt : Nat → π → Talk (Except ε α)} (h : ∀ i p, Only K N (attempt i p)) :
    ∀ (index : Nat) (errors : List ε) (ps : List π),
      Only K N (firstSuccessFrom none attempt index errors ps)
  | _, _, [] => only_pure _
  | index, errors, p :: rest => by
      simp only [firstSuccessFrom, pure_bind, Bool.false_eq_true, if_false]
      refine (h index p).bind fun answer => ?_
      cases answer with
      | ok a => exact only_pure _
      | error e => exact only_firstSuccessFrom h (index + 1) (errors ++ [e]) rest

/-- A batch asks the wallet for nothing but signatures of its drafts, and shows events about no
item. -/
lemma only_batch (bulk : Bool) (drafts : List Transaction) :
    Only (Requests drafts) Notice.Aside (batch bulk drafts) := by
  unfold batch
  split
  · exact only_pure _
  · refine (only_firstSuccessFrom (fun _ path => ?_) 0 [] paths).bind fun result => ?_
    · cases path with
      | bulk =>
          refine (only_together bulk drafts).bind fun answer => ?_
          cases answer <;> exact only_pure _
      | sequential =>
          exact (only_oneByOne 0 drafts fun _ h => h).bind fun _ => only_pure _
    · cases result <;> exact only_pure _

end Signing

end PoolExit
