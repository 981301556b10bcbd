import PoolExit.Proofs.Transcript

/-!
# Conversations

The conversation of a talk is the list of its calls with their answers.  What is shown meanwhile
does not count, nor whether a call was raced.  A talk that never asks about a cancellation is led by
its conversation: where two runs of it have the same one, they come to the same result
(`Talk.Heedless.determined`).
-/

namespace PoolExit

/-- A call and its answer. -/
structure Exchange where
  call : Call
  answer : call.Answer

/-- The exchange of a turn.  A raced call that was given up has none. -/
def Turn.exchange? : Turn → Option Exchange
  | ⟨.call c, answer, _⟩ => some ⟨c, answer⟩
  | ⟨.race c, some answer, _⟩ => some ⟨c, answer⟩
  | _ => none

/-- The calls of a transcript, with their answers. -/
def conversation (ts : List Turn) : List Exchange := ts.filterMap Turn.exchange?

section

variable {ts us : List Turn} {x : Bool}

@[simp] lemma conversation_nil : conversation [] = [] := rfl

@[simp] lemma conversation_append (ts us : List Turn) :
    conversation (ts ++ us) = conversation ts ++ conversation us := List.filterMap_append

@[simp] lemma conversation_call (c : Call) (answer : c.Answer) :
    conversation (⟨.call c, answer, x⟩ :: ts) = ⟨c, answer⟩ :: conversation ts := rfl

@[simp] lemma conversation_stopped (b : Bool) :
    conversation (⟨.stopped, b, x⟩ :: ts) = conversation ts := rfl

@[simp] lemma conversation_note (n : Notice) (u : Unit) :
    conversation (⟨.note n, u, x⟩ :: ts) = conversation ts := rfl

/-- Racing the calls of a talk changes nothing about its conversation. -/
@[simp] lemma conversation_raced (ts : List Turn) :
    conversation (ts.map Turn.raced) = conversation ts := by
  have same : Turn.exchange? ∘ Turn.raced = Turn.exchange? := by
    funext t
    obtain ⟨step, answer, x⟩ := t
    cases step <;> rfl
  rw [conversation, List.filterMap_map, same, conversation]

/-- Where no call is made, there is no conversation. -/
lemma conversation_of_callless (callless : ∀ t ∈ ts, t.step.call? = none) :
    conversation ts = [] := by
  refine List.filterMap_eq_nil_iff.2 fun t ht => ?_
  have none := callless t ht
  obtain ⟨step, answer, x⟩ := t
  cases step with
  | call c | race c => cases none
  | stopped | publish | note => rfl

/-- An exchange of a talk is about one of the calls that it makes. -/
lemma quiet_of_mem_conversation {K : Call → Prop} (quiet : ∀ t ∈ ts, t.step.Quiet K)
    {e : Exchange} (mem : e ∈ conversation ts) : K e.call := by
  obtain ⟨t, ht, exchanged⟩ := List.mem_filterMap.1 mem
  refine (quiet t ht).2 _ ?_
  obtain ⟨step, answer, x⟩ := t
  cases step with
  | call c =>
      obtain rfl := Option.some.inj exchanged
      rfl
  | race c =>
      cases answer with
      | none => cases exchanged
      | some answer =>
          obtain rfl := Option.some.inj exchanged
          rfl
  | stopped | publish | note => cases exchanged

end

namespace Talk

variable {α β : Type}

/-! ## Talks that are led by their conversation -/

/-- The talk waits for its calls and never asks about a cancellation. -/
def Heedless : Talk α → Prop
  | .done _ => True
  | .ask step next => (step ≠ .stopped ∧ ∀ c, step ≠ .race c) ∧ ∀ answer, Heedless (next answer)

lemma heedless_pure (a : α) : Heedless (pure a : Talk α) := trivial

lemma Heedless.bind {p : Talk α} {f : α → Talk β} (hp : Heedless p) (hf : ∀ a, Heedless (f a)) :
    Heedless (p >>= f) := by
  induction p with
  | done a => exact hf a
  | ask s next ih => exact ⟨hp.1, fun answer => ih answer (hp.2 answer)⟩

lemma heedless_call (c : Call) : Heedless (Talk.call c) := ⟨⟨nofun, nofun⟩, fun _ => trivial⟩

lemma heedless_note (n : Notice) : Heedless (Talk.note n) := ⟨⟨nofun, nofun⟩, fun _ => trivial⟩

lemma heedless_noteAll : ∀ ns : List Notice, Heedless (noteAll ns)
  | [] => trivial
  | n :: ns => (heedless_note n).bind fun _ => heedless_noteAll ns

/-- Two runs of such a talk that have the same conversation come to the same result. -/
theorem Heedless.determined {p : Talk α} (heedless : Heedless p) {ts us : List Turn} {a b : α}
    (go : Goes p ts a) (go' : Goes p us b) (same : conversation ts = conversation us) : a = b := by
  induction p generalizing ts us with
  | done c => exact go.2.symm.trans go'.2
  | ask s next ih =>
      obtain ⟨answer, x, ts, rfl, go⟩ := go
      obtain ⟨answer', y, us, rfl, go'⟩ := go'
      cases s with
      | call c =>
          obtain ⟨first, rest⟩ := List.cons.inj same
          obtain rfl : answer = answer' := eq_of_heq (Exchange.mk.inj first).2
          exact ih answer (heedless.2 answer) go go' rest
      | publish | note => exact ih () (heedless.2 ()) go go' same
      | stopped => exact absurd rfl heedless.1.1
      | race c => exact absurd rfl (heedless.1.2 c)

end Talk

end PoolExit
