import PoolExit.Proofs.Signatures
import PoolExit.Wallet.LocalSigner

/-!
# Signing with a key at hand

A local signer looks at one transaction at a time.  It fills the first slot of its key and nothing
else, and it refuses a transaction that has no such slot (`LocalSigner.treats_slot`).

A batch that it answers can go two ways: all at once, where one refusal fails the whole request, or
one after the other.  Both leave in each slot what the signer makes of this one transaction
(`Signing.batch_apart`), so the other transactions of a batch make no difference.
-/

namespace PoolExit

namespace LocalSigner

variable (k : LocalSigner)

/-- What the key makes of a transaction: the signed one, or the one it was with the refusal. -/
def slot (t : Transaction) : Transaction × Option SignerError :=
  match k.signOne t with
  | .ok u => (u, none)
  | .error e => (t, some e)

/-- The first place of the key among the accounts that have to sign a message. -/
structure FirstSlot (m : Message) (index : Nat) : Prop where
  required : index < m.required
  own : m.keys[index]? = some k.pubkey
  first : ∀ {j}, j < index → m.keys[j]? ≠ some k.pubkey

/-- A transaction that the key has signed differs from the one before in the key's slot only. -/
structure Signed (t u : Transaction) (index : Nat) : Prop where
  message : u.message = t.message
  slots : u.signatures.length = max t.signatures.length t.message.required
  inRange : index < t.padded.signatures.length
  signature : u.signatures[index]? = some (k.sign t.message.encode)
  others : ∀ {j}, j ≠ index → u.signatures[j]? = t.padded.signatures[j]?
  again : k.signOne u = .ok u

/-- What is left in the slot of a transaction.  It is signed where the key is one of those that have
to sign, and refused where it is not. -/
structure Treats (t : Transaction) (slot : Transaction × Option SignerError) : Prop where
  signed : k.pubkey ∈ t.message.keys.take t.message.required →
    slot.2 = none ∧ ∃ index, k.FirstSlot t.message index ∧ k.Signed t slot.1 index
  refused : k.pubkey ∉ t.message.keys.take t.message.required →
    slot.1 = t ∧ ∃ reason, slot.2 = some (.rejected reason)

variable {k} {t u : Transaction} {m : Message} {index : Nat}

/-! ## One transaction -/

lemma slot?_eq_none : k.slot? m = none ↔ k.pubkey ∉ m.keys.take m.required := by
  rw [slot?, List.findIdx?_eq_none_iff]
  simp only [Message.requiredSigners, decide_eq_false_iff_not]
  exact ⟨fun others mem => others _ mem rfl, fun absent key mem same => absent (same ▸ mem)⟩

lemma firstSlot_of_slot? (found : k.slot? m = some index) : k.FirstSlot m index := by
  obtain ⟨inside, own, first⟩ := List.findIdx?_eq_some_iff_getElem.1 found
  have here : m.requiredSigners[index]? = some k.pubkey := by
    rw [List.getElem?_eq_getElem inside, of_decide_eq_true own]
  obtain ⟨required, own⟩ := Message.getElem?_requiredSigners.1 here
  refine ⟨required, own, fun {j} before same => first j before (decide_eq_true ?_)⟩
  have earlier : m.requiredSigners[j]? = some k.pubkey :=
    Message.getElem?_requiredSigners.2 ⟨before.trans required, same⟩
  exact (List.getElem?_eq_some_iff.1 earlier).2

lemma signOne_eq_ok : k.signOne t = .ok u ↔
    ∃ index, k.slot? t.message = some index ∧
      u = t.padded.signAt index (k.sign t.message.encode) := by
  rw [signOne]
  cases k.slot? t.message with
  | none => simp
  | some index => simp [eq_comm]

/-- A signature put into a slot that has it already changes nothing. -/
lemma signAt_of_filled {s : Signature} (filled : t.signatures[index]? = some s) :
    t.signAt index s = t := by
  obtain ⟨inside, same⟩ := List.getElem?_eq_some_iff.1 filled
  rw [Transaction.signAt, ← same, List.set_getElem_self]

lemma signed_of_signOne (ok : k.signOne t = .ok u) :
    ∃ index, k.FirstSlot t.message index ∧ k.Signed t u index := by
  obtain ⟨index, found, same⟩ := signOne_eq_ok.1 ok
  have first := firstSlot_of_slot? found
  have message : u.message = t.message := by rw [same]; rfl
  have signatures : u.signatures = t.padded.signatures.set index (k.sign t.message.encode) := by
    rw [same]; rfl
  have slots : u.signatures.length = max t.signatures.length t.message.required := by
    rw [signatures, List.length_set, Transaction.length_signatures_padded]
  have inRange : index < t.padded.signatures.length := by
    rw [Transaction.length_signatures_padded]
    exact Nat.lt_of_lt_of_le first.required (Nat.le_max_right _ _)
  have signature : u.signatures[index]? = some (k.sign t.message.encode) := by
    rw [signatures, List.getElem?_set_self inRange]
  refine ⟨index, first, message, slots, inRange, signature, fun {j} other => ?_, ?_⟩
  · rw [signatures, List.getElem?_set_ne (Ne.symm other)]
  · -- All slots are there already, and the key's own has the signature.
    have full : u.message.required ≤ u.signatures.length := by
      rw [message, slots]
      exact Nat.le_max_right _ _
    refine signOne_eq_ok.2 ⟨index, message ▸ found, ?_⟩
    rw [Transaction.padded_of_full full, message, signAt_of_filled signature]

/-- The key signs what needs its signature and refuses everything else. -/
theorem treats_slot (k : LocalSigner) (t : Transaction) : k.Treats t (k.slot t) := by
  cases found : k.slot? t.message with
  | none =>
      have absent := slot?_eq_none.1 found
      refine ⟨fun mem => absurd mem absent, fun _ => ?_⟩
      rw [slot, signOne, found]
      exact ⟨rfl, _, rfl⟩
  | some index =>
      have mem : k.pubkey ∈ t.message.keys.take t.message.required := by
        by_contra absent
        rw [slot?_eq_none.2 absent] at found
        cases found
      have ok : k.signOne t = .ok (t.padded.signAt index (k.sign t.message.encode)) :=
        signOne_eq_ok.2 ⟨index, found, rfl⟩
      refine ⟨fun _ => ?_, fun absent => absurd mem absent⟩
      rw [slot, ok]
      exact ⟨rfl, signed_of_signOne ok⟩

lemma slot_of_signOne (ok : k.signOne t = .ok u) : k.slot t = (u, none) := by
  rw [slot, ok]

lemma slot_of_refused {e : SignerError} (refused : k.signOne t = .error e) :
    k.slot t = (t, some e) := by
  rw [slot, refused]

/-- Where the key signs all transactions at once, it signs each of them. -/
lemma slots_of_signAll : ∀ {ts us : List Transaction}, k.signAll ts = .ok us →
    ts.map k.slot = us.map fun u => (u, none)
  | [], us, ok => by
      obtain rfl := Except.ok.inj ok
      rfl
  | t :: ts, us, ok => by
      rw [signAll] at ok
      cases first : k.signOne t with
      | error e =>
          rw [first] at ok
          cases ok
      | ok u =>
          rw [first] at ok
          cases rest : k.signAll ts with
          | error e =>
              rw [rest] at ok
              cases ok
          | ok others =>
              rw [rest] at ok
              obtain rfl := Except.ok.inj ok
              rw [List.map_cons, List.map_cons, slot_of_signOne first, slots_of_signAll rest]

/-! ## Answers of the key -/

variable (k) in
/-- Whether a call is answered by the key, if it goes to the wallet. -/
def Gives : (c : Call) → c.Answer → Prop
  | .signAll ts, answer => answer = k.signAll ts
  | .signOne t, answer => answer = k.signOne t
  | _, _ => True

variable (k) in
/-- Whether the call of a turn, if it has one, is answered by the key, if it goes to the wallet. -/
def Serves : Turn → Prop
  | ⟨.call c, answer, _⟩ => k.Gives c answer
  | ⟨.race c, some answer, _⟩ => k.Gives c answer
  | _ => True

/-- The key has an answer to whatever the wallet is asked. -/
lemma exists_gives : ∀ c : Call, ∃ answer, k.Gives c answer
  | .discover .. => ⟨.ok [], trivial⟩
  | .build .. => ⟨.ok ⟨.empty, 0⟩, trivial⟩
  | .signAll ts => ⟨k.signAll ts, rfl⟩
  | .signOne t => ⟨k.signOne t, rfl⟩
  | .blockHeight => ⟨.ok 0, trivial⟩
  | .simulate _ => ⟨.ok (), trivial⟩
  | .submit _ => ⟨.ok Signature.missing, trivial⟩
  | .confirm .. => ⟨.ok (), trivial⟩

lemma exists_serves (s : Step) : ∃ answer, k.Serves ⟨s, answer, false⟩ := by
  cases s with
  | call c => exact exists_gives c
  | race c =>
      obtain ⟨answer, gives⟩ := exists_gives (k := k) c
      exact ⟨some answer, gives⟩
  | stopped => exact ⟨false, trivial⟩
  | publish | note => exact ⟨(), trivial⟩

end LocalSigner

/-- A talk whose steps all have an answer comes to its end. -/
lemma Talk.exists_goes {α : Type} {P : Turn → Prop}
    (answers : ∀ s : Step, ∃ answer x, P ⟨s, answer, x⟩) (p : Talk α) :
    ∃ ts a, p.Goes ts a ∧ ∀ t ∈ ts, P t := by
  induction p with
  | done a => exact ⟨[], a, ⟨rfl, rfl⟩, by simp⟩
  | ask s next ih =>
      obtain ⟨answer, x, first⟩ := answers s
      obtain ⟨ts, a, go, later⟩ := ih answer
      exact ⟨_, a, ⟨answer, x, ts, rfl, go⟩, List.forall_mem_cons.2 ⟨first, later⟩⟩

namespace Signing

open Talk LocalSigner

variable {k : LocalSigner} {bulk : Bool} {drafts : List Transaction} {ts : List Turn}

/-! ## Batches -/

/-- A batch that is filled as the key treats each transaction. -/
structure Apart (k : LocalSigner) (drafts : List Transaction) (s : Signatures) : Prop where
  transactions : s.transactions = (drafts.map k.slot).map Prod.fst
  errors : s.errors = (drafts.map k.slot).map Prod.snd

/-- All at once, the key fills the slots as it signs each transaction. -/
lemma apart_of_asked {signed : List Transaction} (asked : Asked drafts bulk ts (.ok signed))
    (served : ∀ t ∈ ts, k.Serves t) :
    Apart k drafts ⟨signed, signed.map fun _ => none, .bulk⟩ := by
  cases asked with
  | signed x _ _ =>
      have answer : .ok signed = k.signAll drafts := served _ List.mem_cons_self
      have slots := slots_of_signAll answer.symm
      constructor <;> simp [slots, Function.comp_def]

lemma Slotted.slot_eq {index : Nat} {draft : Transaction}
    {slot : Transaction × Option SignerError} (slotted : Slotted index draft ts slot)
    (served : ∀ t ∈ ts, k.Serves t) : slot = k.slot draft := by
  cases slotted with
  | signed x t same =>
      have answer : .ok t = k.signOne draft := served _ List.mem_cons_self
      exact (slot_of_signOne answer.symm).symm
  | changed x t other =>
      have answer : .ok t = k.signOne draft := served _ List.mem_cons_self
      obtain ⟨index, -, signed⟩ := signed_of_signOne answer.symm
      exact absurd signed.message other
  | refused x y e =>
      have answer : .error e = k.signOne draft := served _ List.mem_cons_self
      exact (slot_of_refused answer.symm).symm

/-- One after the other, the key fills the slots as it signs each transaction. -/
lemma SlottedAll.slots_eq {index : Nat} {slots : List (Transaction × Option SignerError)}
    (went : SlottedAll index drafts ts slots) (served : ∀ t ∈ ts, k.Serves t) :
    slots = drafts.map k.slot := by
  induction went with
  | nil index => rfl
  | cons first rest ih =>
      obtain ⟨here, later⟩ := List.forall_mem_append.1 served
      rw [List.map_cons, first.slot_eq here, ih later]

/-- Whichever way a batch goes, the slots are filled as the key treats each transaction. -/
lemma apart_of_goes {s : Signatures} (go : Goes (batch bulk drafts) ts s)
    (served : ∀ t ∈ ts, k.Serves t) : Apart k drafts s := by
  cases batched_of_goes go with
  | nothing empty =>
      subst empty
      exact ⟨rfl, rfl⟩
  | together asked => exact apart_of_asked asked served
  | oneByOne asked went =>
      obtain rfl := went.slots_eq (List.forall_mem_append.1 served).2
      exact ⟨rfl, rfl⟩

/-- **A key treats each transaction of a batch on its own.**  A batch that the key answers comes to
its end, and whichever way it goes, each slot holds what the key makes of this transaction alone.
Where the key is one of the accounts that have to sign, that is the transaction with the same
message and a slot for each signature, changed in the first slot of the key only, which is there;
signing it again changes nothing.  Where it is not, it is the transaction as it was, rejected. -/
theorem batch_apart (k : LocalSigner) (bulk : Bool) (drafts : List Transaction) :
    (∃ ts s, Goes (batch bulk drafts) ts s ∧ ∀ t ∈ ts, k.Serves t) ∧
      (∀ ts s, Goes (batch bulk drafts) ts s → (∀ t ∈ ts, k.Serves t) → Apart k drafts s) ∧
      ∀ t, k.Treats t (k.slot t) :=
  ⟨exists_goes (fun s => (exists_serves s).imp fun _ serves => ⟨false, serves⟩) _,
    fun _ _ => apart_of_goes, k.treats_slot⟩

/-- The second transaction names the key only behind the accounts that have to sign.  It fails the
request for all signatures at once, and yet the first one is signed. -/
theorem batch_apart_mixed :
    let k := (⟨.replicate 32 7, Ed25519.publicKey (.replicate 32 7), rfl⟩ : Keypair).signer
    let own : Transaction := ⟨[], ⟨⟨1, 0, 0⟩, [k.pubkey], .replicate 32 9, [], none⟩⟩
    let foreign : Transaction :=
      ⟨[], ⟨⟨1, 0, 1⟩, [.replicate 32 1, k.pubkey], .replicate 32 9, [], none⟩⟩
    ∃ ts s, Goes (batch true [own, foreign]) ts s ∧ (∀ t ∈ ts, k.Serves t) ∧
      s.transactions = [⟨[k.sign own.message.encode], own.message⟩, foreign] ∧
      s.errors = [none, some k.refusal] := by
  intro k own foreign
  have signs : k.signOne own = .ok ⟨[k.sign own.message.encode], own.message⟩ :=
    signOne_eq_ok.2 ⟨0, by decide +kernel, rfl⟩
  have refuses : k.signOne foreign = .error k.refusal := by
    have none : k.slot? foreign.message = none := by decide +kernel
    rw [signOne, none]
  obtain ⟨⟨ts, s, go, served⟩, apart, -⟩ := batch_apart k true [own, foreign]
  obtain ⟨transactions, errors⟩ := apart ts s go served
  refine ⟨ts, s, go, served, ?_, ?_⟩
  · simp [transactions, slot_of_signOne signs, slot_of_refused refuses]
  · simp [errors, slot_of_signOne signs, slot_of_refused refuses]

end Signing

end PoolExit
