import PoolExit.Proofs.Guarding
import PoolExit.Proofs.LocalSigning
import PoolExit.Proofs.RoundTrip

/-!
# When a draft is complete

Three parts of an exit go by the order of the accounts in a message: a draft that is read gets its
missing slots at the end, the guard looks for accounts whose slots are empty, and a local signer
chooses the slot of its key.  They agree.  Once the owner has signed, the accounts that have not are
those that the guard has found (`Draft.completed_of_signOne`), so a draft that the guard passes needs
no further signature.

It takes a well-formed message, in which no account stands twice.  Otherwise the owner's second slot
would stay empty, and the guard would not mind.
-/

namespace PoolExit

/-- Each account stands once in the message, and there are as many as have to sign. -/
structure Message.WellFormed (m : Message) : Prop where
  enough : m.required ≤ m.keys.length
  distinct : m.keys.Nodup

namespace Transaction

variable {k : LocalSigner} {t u : Transaction} {index j : Nat}

lemma isSignedAt_eq_true : t.isSignedAt j = true ↔
    ∃ s, t.signatures[j]? = some s ∧ s ≠ Signature.missing := by
  rw [isSignedAt]
  split
  next s there => simp [there]
  next none => simp [none]

lemma isSignedAt_congr (same : u.signatures[j]? = t.signatures[j]?) :
    u.isSignedAt j = t.isSignedAt j := by
  rw [isSignedAt, same, isSignedAt]

/-- Where there is a slot, filling up changes nothing. -/
lemma getElem?_signatures_padded (inside : j < t.signatures.length) :
    t.padded.signatures[j]? = t.signatures[j]? := List.getElem?_append_left inside

/-- Filling up with empty slots adds no signature. -/
lemma isSignedAt_padded (t : Transaction) (j : Nat) : t.padded.isSignedAt j = t.isSignedAt j := by
  by_cases inside : j < t.signatures.length
  · exact isSignedAt_congr (getElem?_signatures_padded inside)
  · have outside := Nat.le_of_not_lt inside
    have empty : ∀ s, t.padded.signatures[j]? = some s → s = Signature.missing := by
      intro s there
      rw [padded, List.getElem?_append_right outside] at there
      exact List.eq_of_mem_replicate (List.mem_of_getElem? there)
    have unsigned : t.isSignedAt j = false := by
      rw [isSignedAt, List.getElem?_eq_none outside]
    rw [unsigned, Bool.eq_false_iff, ne_eq, isSignedAt_eq_true]
    rintro ⟨s, there, filled⟩
    exact filled (empty s there)

/-- A local signer signs in its own slot, and all other slots are as signed as before. -/
lemma isSignedAt_of_signed (signed : k.Signed t u index)
    (real : k.sign t.message.encode ≠ Signature.missing) (j : Nat) :
    u.isSignedAt j = (decide (j = index) || t.isSignedAt j) := by
  by_cases own : j = index
  · subst own
    simpa using isSignedAt_eq_true.2 ⟨_, signed.signature, real⟩
  · rw [isSignedAt_congr (signed.others own), isSignedAt_padded]
    simp [own]

/-- Where no account stands twice, only one of those that have to sign is that of the key. -/
lemma eq_pubkey_iff (distinct : t.message.keys.Nodup) (first : k.FirstSlot t.message index)
    {key : Pubkey} (here : t.message.requiredSigners[j]? = some key) :
    key = k.pubkey ↔ j = index := by
  obtain ⟨-, here⟩ := Message.getElem?_requiredSigners.1 here
  obtain ⟨inside, -⟩ := List.getElem?_eq_some_iff.1 here
  rw [← List.getElem?_inj inside distinct, here, first.own, Option.some.injEq]

/-- After the key has signed, all others are still missing, in the same order. -/
lemma unsignedSigners_of_signed (distinct : t.message.keys.Nodup)
    (first : k.FirstSlot t.message index) (signed : k.Signed t u index)
    (real : k.sign t.message.encode ≠ Signature.missing) :
    u.unsignedSigners = t.unsignedSigners.filter fun key => key ≠ k.pubkey := by
  rw [unsignedSigners, unsignedSigners, List.filter_map, List.filter_filter, signed.message]
  refine congrArg _ (List.filter_congr ?_)
  rintro ⟨key, j⟩ mem
  have own := eq_pubkey_iff distinct first (List.mk_mem_zipIdx_iff_getElem?.1 mem)
  simp [isSignedAt_of_signed signed real j, own]

/-- Where each account that has to sign is there and has signed, every slot has a signature. -/
lemma signedThroughout (enough : t.message.required ≤ t.message.keys.length)
    (slots : t.signatures.length = t.message.required) (complete : t.unsignedSigners = []) :
    Signature.missing ∉ t.signatures := by
  intro mem
  obtain ⟨j, inside, empty⟩ := List.mem_iff_getElem.1 mem
  have signs : j < t.message.requiredSigners.length := by
    rw [Message.requiredSigners, List.length_take]
    omega
  have unsigned : t.isSignedAt j = false := by
    rw [isSignedAt, List.getElem?_eq_getElem inside, empty]
    simp
  have missing : t.message.requiredSigners[j] ∈ t.unsignedSigners := by
    refine List.mem_map.2 ⟨(_, j), List.mem_filter.2 ⟨?_, by simp [unsigned]⟩, rfl⟩
    exact List.mk_mem_zipIdx_iff_getElem?.2 (List.getElem?_eq_getElem signs)
  rw [complete] at missing
  cases missing

end Transaction

namespace Draft

open Transaction

variable {k : LocalSigner} {d : Draft} {s : String} {height : UInt64} {signed : Transaction}

/-- What a signature of the owner makes of a draft. -/
structure Completed (k : LocalSigner) (d : Draft) (signed : Transaction) : Prop where
  missing : signed.unsignedSigners = (Guard.ownerOnly k.pubkey).offenders d
  complete : (Guard.ownerOnly k.pubkey).offenders d = [] → signed.unsignedSigners = [] ∧
    signed.signatures.length = signed.message.required ∧ Signature.missing ∉ signed.signatures
  kept : ∀ {j}, d.transaction.isSignedAt j = true → d.requiredSigners[j]? ≠ some k.pubkey →
    signed.signatures[j]? = d.transaction.signatures[j]?

/-- A draft that has been read has as many slots as signatures that it needs. -/
lemma slots_of_read (read : read s height = .ok d) :
    d.transaction.signatures.length = d.transaction.message.required := by
  obtain ⟨t, -, few, rfl⟩ := read_eq_ok.1 read
  exact length_signatures_new few height

/-- **What the guard passes is complete with the owner's signature.** -/
theorem completed_of_signOne (read : read s height = .ok d)
    (wellFormed : d.transaction.message.WellFormed)
    (real : k.sign d.transaction.message.encode ≠ Signature.missing)
    (ok : k.signOne d.transaction = .ok signed) : Completed k d signed := by
  obtain ⟨index, first, signs⟩ := LocalSigner.signed_of_signOne ok
  have slots := slots_of_read read
  have missing : signed.unsignedSigners = (Guard.ownerOnly k.pubkey).offenders d := by
    rw [Guard.offenders_ownerOnly]
    exact unsignedSigners_of_signed wellFormed.distinct first signs real
  have full : signed.signatures.length = signed.message.required := by
    rw [signs.slots, signs.message, slots, Nat.max_self]
  refine ⟨missing, fun passed => ⟨missing.trans passed, full, ?_⟩, fun {j} before other => ?_⟩
  · exact signedThroughout (signs.message ▸ wellFormed.enough) full (missing.trans passed)
  · obtain ⟨signature, there, -⟩ := isSignedAt_eq_true.1 before
    have apart : j ≠ index := by
      rintro rfl
      exact other (Message.getElem?_requiredSigners.2 ⟨first.required, first.own⟩)
    rw [signs.others apart,
      getElem?_signatures_padded (List.getElem?_eq_some_iff.1 there).1]

/-- Of two accounts that have to sign, the first has done so and the owner has not even a slot.  The
draft has one, the guard passes it, and the owner's signature makes it complete. -/
theorem completed_of_signOne_cosigned :
    let k : Keypair := ⟨.replicate 32 7, Ed25519.publicKey (.replicate 32 7), rfl⟩
    let t : Transaction := ⟨[.replicate 64 5],
      ⟨⟨2, 0, 1⟩, [.replicate 32 1, k.pubkey, .replicate 32 3], .replicate 32 9,
        [⟨2, [0, 1], [5]⟩], none⟩⟩
    let signature := k.signer.sign t.message.encode
    let signed : Transaction := ⟨[.replicate 64 5, signature], t.message⟩
    (read (Text.Base64.encode t.encode) 100 = .ok (new t 100) ∧ t.message.WellFormed ∧
      signature ≠ Signature.missing ∧ k.signer.signOne (new t 100).transaction = .ok signed) ∧
    Completed k.signer (new t 100) signed ∧ signed.unsignedSigners = [] := by
  intro k t signature signed
  have whole : Transaction.decode t.encode = .ok (t, []) := by decide +kernel
  have accepted : read (Text.Base64.encode t.encode) 100 = .ok (new t 100) :=
    read_eq_ok.2 ⟨t, ⟨_, Text.Base64.decode_eq_ok.2 (Text.Base64.trim_encode _), whole⟩,
      by decide, rfl⟩
  have wellFormed : t.message.WellFormed := ⟨by decide, by decide +kernel⟩
  have real : signature ≠ Signature.missing := by decide +kernel
  have ok : k.signer.signOne (new t 100).transaction = .ok signed :=
    LocalSigner.signOne_eq_ok.2 ⟨1, by decide +kernel, rfl⟩
  have completed : Completed k.signer (new t 100) signed :=
    completed_of_signOne accepted wellFormed real ok
  exact ⟨⟨accepted, wellFormed, real, ok⟩, completed,
    (completed.complete (by decide +kernel)).1⟩

end Draft

end PoolExit
