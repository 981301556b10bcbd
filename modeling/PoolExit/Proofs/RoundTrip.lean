import PoolExit.Exit.Draft
import PoolExit.Proofs.Base64
import PoolExit.Proofs.Codec

/-!
# Drafts and their texts

A draft that has been read has the slots it needs, and its own text is read as the same draft again
(`Draft.round_trip`).  Both halves of the text are exact: base 64 (`Text.Base64.decode_eq_ok`) and
the wire form (`Transaction.exact`).  So a text is read as a draft exactly where it is, but for
blanks around it, the text of a valid transaction without too many signatures
(`Draft.read_eq_ok`), and the rest is about the slots that are filled up.
-/

namespace PoolExit

namespace Transaction

/-- The bytes in a base-64 text start with those of a transaction; others may stand behind. -/
def Unpacks (s : String) (t : Transaction) (rest : List UInt8) : Prop :=
  ∃ bytes, Text.Base64.decode (Text.trim s) = .ok bytes ∧ decode bytes = .ok (t, rest)

end Transaction

namespace Draft

open Transaction

/-- Text and transaction determine each other, where no bytes are left over. -/
lemma unpacks_iff {s : String} {t : Transaction} :
    Unpacks s t [] ↔ t.Valid ∧ Text.trim s = Text.Base64.encode t.encode := by
  simp only [Unpacks, Text.Base64.decode_eq_ok, Transaction.exact.reads, List.append_nil]
  constructor
  · rintro ⟨bytes, text, valid, rfl⟩
    exact ⟨valid, text⟩
  · rintro ⟨valid, text⟩
    exact ⟨t.encode, text, valid, rfl⟩

/-- What becomes of a text that starts with the bytes of a transaction. -/
lemma read_of_unpacks {s : String} {t : Transaction} {rest : List UInt8}
    (unpacks : Unpacks s t rest) (height : UInt64) :
    read s height =
      if rest.length ≠ 0 then .error (.trailingBytes rest.length)
      else if t.message.required < t.signatures.length then
        .error (.tooManySignatures t.message.required t.signatures.length)
      else .ok (new t height) := by
  obtain ⟨bytes, text, found⟩ := unpacks
  simp only [read, text, found]

/-- **Which texts are drafts.** -/
theorem read_eq_ok {s : String} {height : UInt64} {d : Draft} :
    read s height = .ok d ↔
      ∃ t, Unpacks s t [] ∧ t.signatures.length ≤ t.message.required ∧ d = new t height := by
  constructor
  · intro h
    cases text : Text.Base64.decode (Text.trim s) with
    | error e =>
        simp only [read, text] at h
        cases h
    | ok bytes =>
        cases found : Transaction.decode bytes with
        | error e =>
            simp only [read, text, found] at h
            cases h
        | ok r =>
            obtain ⟨t, rest⟩ := r
            have unpacks : Unpacks s t rest := ⟨bytes, text, found⟩
            rw [read_of_unpacks unpacks] at h
            split at h
            · cases h
            next whole =>
              split at h
              · cases h
              next few =>
                obtain rfl := List.length_eq_zero_iff.1 (not_not.1 whole)
                exact ⟨t, unpacks, Nat.le_of_not_lt few, (Except.ok.inj h).symm⟩
  · rintro ⟨t, unpacks, few, rfl⟩
    rw [read_of_unpacks unpacks, if_neg (by simp), if_neg (Nat.not_lt.2 few)]

/-- The text of a draft that has been read is that of its transaction. -/
lemma unpacks_text {t : Transaction} (valid : t.Valid) (height : UInt64) :
    Unpacks (new t height).text t.padded [] :=
  unpacks_iff.2 ⟨valid.padded, Text.Base64.trim_encode _⟩

lemma length_signatures_new {t : Transaction} (few : t.signatures.length ≤ t.message.required)
    (height : UInt64) :
    (new t height).transaction.signatures.length = t.message.required :=
  (length_signatures_padded t).trans (Nat.max_eq_right few)

/-- **Drafts and their texts.**  A draft that is read off a text has one slot for each signature it
needs, can be written, and its text is read as this draft again.  The transaction in the first text
is that of the draft but for empty slots at the end; where it has all its slots, the text of the
draft is the first text without the blanks around it.  No text is read as a draft that has bytes
behind the transaction or too many signatures in it. -/
theorem round_trip (s : String) (height : UInt64) :
    (∀ d, read s height = .ok d →
      (d.expiryHeight = height ∧
        d.transaction.signatures.length = d.transaction.message.required) ∧
      (d.transaction.fits = true ∧ read d.text height = .ok d) ∧
      ∃ t, Unpacks s t [] ∧ d.transaction.message = t.message ∧
        (∃ missing, t.signatures.length + missing = t.message.required ∧
          d.transaction.signatures =
            t.signatures ++ List.replicate missing Signature.missing) ∧
        (t.signatures.length = t.message.required → d.text = Text.trim s)) ∧
    ∀ t rest, Unpacks s t rest → rest ≠ [] ∨ t.message.required < t.signatures.length →
      ∃ e, read s height = .error e := by
  constructor
  · intro d accepted
    obtain ⟨t, unpacks, few, rfl⟩ := read_eq_ok.1 accepted
    obtain ⟨valid, text⟩ := unpacks_iff.1 unpacks
    have slots := length_signatures_new few height
    refine ⟨⟨rfl, slots⟩, ⟨valid.padded.fits, ?_⟩, t, unpacks, rfl,
      ⟨_, Nat.add_sub_of_le few, rfl⟩, ?_⟩
    · have again : new t.padded height = new t height :=
        congrArg (Draft.mk · height) (padded_of_full (Nat.le_of_eq slots.symm))
      exact read_eq_ok.2 ⟨t.padded, unpacks_text valid height, Nat.le_of_eq slots, again.symm⟩
    · intro full
      rw [text, Draft.text, new, padded_of_full (Nat.le_of_eq full.symm)]
  · intro t rest unpacks bad
    rw [read_of_unpacks unpacks]
    rcases bad with behind | many
    · exact ⟨_, if_pos fun empty => behind (List.length_eq_zero_iff.1 empty)⟩
    · by_cases behind : rest.length ≠ 0
      · exact ⟨_, if_pos behind⟩
      · exact ⟨_, (if_neg behind).trans (if_pos many)⟩

/-- A message of version 0 with one of its two signatures, and blanks around the text.  The draft
has an empty slot for the other one, and with two bytes more the text is no draft. -/
theorem round_trip_half_signed :
    let t : Transaction := ⟨[.replicate 64 7],
      ⟨⟨2, 0, 1⟩, [.replicate 32 1, .replicate 32 2, .replicate 32 3], .replicate 32 9,
        [⟨2, [0, 1], [5]⟩], some [⟨.replicate 32 8, [4], []⟩]⟩⟩
    let d : Draft := ⟨⟨[.replicate 64 7, Signature.missing], t.message⟩, 100⟩
    read ("\n" ++ Text.Base64.encode t.encode ++ " ") 100 = .ok d ∧ read d.text 100 = .ok d ∧
      ∃ e, read (Text.Base64.encode (t.encode ++ [0, 0])) 100 = .error e := by
  intro t d
  have whole : Transaction.decode t.encode = .ok (t, []) := by decide +kernel
  have longer : Transaction.decode (t.encode ++ [0, 0]) = .ok (t, [0, 0]) := by decide +kernel
  have trimmed : Text.trim ("\n" ++ Text.Base64.encode t.encode ++ " ") =
      Text.Base64.encode t.encode := Text.Base64.trim_surrounded rfl rfl t.encode
  have accepted : read ("\n" ++ Text.Base64.encode t.encode ++ " ") 100 = .ok d :=
    read_eq_ok.2 ⟨t, ⟨_, Text.Base64.decode_eq_ok.2 trimmed, whole⟩, by decide, rfl⟩
  obtain ⟨-, ⟨-, again⟩, -⟩ := (round_trip _ 100).1 d accepted
  have unpacks : Unpacks (Text.Base64.encode (t.encode ++ [0, 0])) t [0, 0] :=
    ⟨_, Text.Base64.decode_eq_ok.2 (Text.Base64.trim_encode _), longer⟩
  exact ⟨accepted, again, (round_trip _ 100).2 t [0, 0] unpacks (.inl (by simp))⟩

end Draft

end PoolExit
