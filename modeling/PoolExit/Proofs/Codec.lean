import Mathlib.Tactic.Common
import PoolExit.Chain.Wire
import PoolExit.Proofs.Basic

/-!
# The wire form is read exactly as it is written

For every part of a transaction the reader accepts what the writer writes of a valid value, and
nothing else, and it leaves what stands behind (`Wire.Exact`).  So both directions of the codec are
one equivalence, which is carried from lengths and bytes through lists up to whole transactions
(`Transaction.exact`).

A value is valid where its lengths fit into three bytes, and a message of the older format where
its first byte is not taken for the mark of a version.
-/

namespace PoolExit

namespace Wire

/-- The reader reads exactly what is written of valid values, and leaves the rest. -/
structure Exact {α : Type} (valid : α → Prop) (write : α → List UInt8) (read : Reader α) :
    Prop where
  reads {bytes a rest} : read bytes = .ok (a, rest) ↔ valid a ∧ bytes = write a ++ rest

section

variable {α β : Type} {valid : α → Prop} {write : α → List UInt8} {read : Reader α}

/-- A part that is read exactly, and then others. -/
lemma Exact.bind (exact : Exact valid write read) {bytes : List UInt8}
    {f : α × List UInt8 → Except Error β} {b : β} :
    (read bytes >>= f) = .ok b ↔
      ∃ a rest, (valid a ∧ bytes = write a ++ rest) ∧ f (a, rest) = .ok b := by
  simp only [bind_eq_ok, Prod.exists, exact.reads]

end

/-! ## Lengths -/

/-- How a length can be spelled: seven bits in each byte, the lowest first, the high bit set in all
but the last, which is not zero where it can be left out. -/
inductive Spells : List UInt8 → Nat → Prop
  | one {a n} (value : n = a.toNat) (last : a.toNat < 128) : Spells [a] n
  | two {a b n} (value : n = a.toNat - 128 + b.toNat * 128) (more : 128 ≤ a.toNat)
      (needed : 0 < b.toNat) (last : b.toNat < 128) : Spells [a, b] n
  | three {a b c n} (value : n = a.toNat - 128 + (b.toNat - 128) * 128 + c.toNat * 16384)
      (more : 128 ≤ a.toNat) (more' : 128 ≤ b.toNat) (needed : 0 < c.toNat)
      (last : c.toNat < 4) : Spells [a, b, c] n

lemma toNat_pos {b : UInt8} : 0 < b.toNat ↔ b ≠ 0 := by
  rw [Nat.pos_iff_ne_zero]
  exact not_congr (UInt8.toNat_inj (b := 0))

lemma spells_of_readLength {bytes : List UInt8} {n : Nat} {rest : List UInt8}
    (h : readLength bytes = .ok (n, rest)) : ∃ word, Spells word n ∧ bytes = word ++ rest := by
  rcases bytes with _ | ⟨a, behind⟩
  · cases h
  · unfold readLength at h
    by_cases last : a < 128
    · simp only [if_pos last] at h
      obtain ⟨rfl, rfl⟩ := Prod.mk.inj (Except.ok.inj h)
      exact ⟨[a], .one rfl last, rfl⟩
    · simp only [if_neg last] at h
      have more : 128 ≤ a.toNat := Nat.le_of_not_lt last
      rcases behind with _ | ⟨b, behind⟩
      · cases h
      · have needed : b ≠ 0 := by
          rintro rfl
          cases h
        simp only [if_neg needed] at h
        by_cases last : b < 128
        · simp only [if_pos last] at h
          obtain ⟨rfl, rfl⟩ := Prod.mk.inj (Except.ok.inj h)
          exact ⟨[a, b], .two rfl more (toNat_pos.2 needed) last, rfl⟩
        · simp only [if_neg last] at h
          have more' : 128 ≤ b.toNat := Nat.le_of_not_lt last
          rcases behind with _ | ⟨c, behind⟩
          · cases h
          · by_cases outside : c = 0 ∨ 4 ≤ c
            · simp only [if_pos outside] at h
              cases h
            · simp only [if_neg outside] at h
              obtain ⟨needed, last⟩ := not_or.1 outside
              obtain ⟨rfl, rfl⟩ := Prod.mk.inj (Except.ok.inj h)
              exact ⟨[a, b, c],
                .three rfl more more' (toNat_pos.2 needed) (Nat.lt_of_not_le last), rfl⟩

lemma readLength_of_spells {word : List UInt8} {n : Nat} (spells : Spells word n)
    (rest : List UInt8) : readLength (word ++ rest) = .ok (n, rest) := by
  cases spells with
  | one value last =>
      rw [value]
      exact if_pos last
  | @two a b n value more needed last =>
      have more : ¬ a < 128 := Nat.not_lt.2 more
      have last : b < 128 := last
      simp only [value, List.cons_append, List.nil_append, readLength, if_neg more,
        if_neg (toNat_pos.1 needed), if_pos last]
  | @three a b c n value more more' needed last =>
      have more : ¬ a < 128 := Nat.not_lt.2 more
      have needed' : b ≠ 0 := toNat_pos.1 (Nat.lt_of_lt_of_le (by decide) more')
      have more' : ¬ b < 128 := Nat.not_lt.2 more'
      have inside : ¬ (c = 0 ∨ 4 ≤ c) := not_or.2 ⟨toNat_pos.1 needed, Nat.not_le.2 last⟩
      simp only [value, List.cons_append, List.nil_append, readLength, if_neg more,
        if_neg needed', if_neg more', if_neg inside]

lemma toNat_ofNat {n : Nat} (small : n < 256) : (UInt8.ofNat n).toNat = n := by
  simpa using Nat.mod_eq_of_lt small

lemma eq_ofNat {n : Nat} {b : UInt8} (same : n = b.toNat) : b = UInt8.ofNat n := by
  rw [same, UInt8.ofNat_toNat]

/-- Every length is spelled in one way, the one that is written. -/
lemma spells_iff {word : List UInt8} {n : Nat} :
    Spells word n ↔ n ≤ maxLength ∧ word = writeLength n := by
  unfold maxLength
  constructor
  · intro spells
    cases spells with
    | @one a n value last =>
        refine ⟨by omega, ?_⟩
        rw [writeLength, if_pos (by omega), eq_ofNat value]
    | @two a b n value more needed last =>
        have := a.toNat_lt
        have first : a = UInt8.ofNat (n % 128 + 128) := eq_ofNat (by omega)
        have second : b = UInt8.ofNat (n / 128) := eq_ofNat (by omega)
        refine ⟨by omega, ?_⟩
        rw [writeLength, if_neg (by omega), if_pos (by omega), ← first, ← second]
    | @three a b c n value more more' needed last =>
        have := a.toNat_lt
        have := b.toNat_lt
        have first : a = UInt8.ofNat (n % 128 + 128) := eq_ofNat (by omega)
        have second : b = UInt8.ofNat (n / 128 % 128 + 128) := eq_ofNat (by omega)
        have third : c = UInt8.ofNat (n / 16384) := eq_ofNat (by omega)
        refine ⟨by omega, ?_⟩
        rw [writeLength, if_neg (by omega), if_neg (by omega), ← first, ← second, ← third]
  · rintro ⟨fits, rfl⟩
    unfold writeLength
    split
    next one =>
      have first : (UInt8.ofNat n).toNat = n := toNat_ofNat (by omega)
      exact .one (by omega) (by omega)
    next many =>
      have first : (UInt8.ofNat (n % 128 + 128)).toNat = n % 128 + 128 := toNat_ofNat (by omega)
      split
      next two =>
        have second : (UInt8.ofNat (n / 128)).toNat = n / 128 := toNat_ofNat (by omega)
        exact .two (by omega) (by omega) (by omega) (by omega)
      next three =>
        have second : (UInt8.ofNat (n / 128 % 128 + 128)).toNat = n / 128 % 128 + 128 :=
          toNat_ofNat (by omega)
        have third : (UInt8.ofNat (n / 16384)).toNat = n / 16384 := toNat_ofNat (by omega)
        exact .three (by omega) (by omega) (by omega) (by omega) (by omega)

lemma exact_length : Exact (· ≤ maxLength) writeLength readLength := by
  refine ⟨fun {bytes n rest} => ?_⟩
  constructor
  · intro h
    obtain ⟨word, spells, rfl⟩ := spells_of_readLength h
    obtain ⟨fits, rfl⟩ := spells_iff.1 spells
    exact ⟨fits, rfl⟩
  · rintro ⟨fits, rfl⟩
    exact readLength_of_spells (spells_iff.2 ⟨fits, rfl⟩) rest

section

variable {α : Type} {valid : α → Prop} {write : α → List UInt8} {read : Reader α}

/-! ## Parts of fixed size and lists -/

lemma exact_byte : Exact (fun _ => True) writeByte readByte := by
  refine ⟨fun {bytes b rest} => ?_⟩
  cases bytes with
  | nil => simp [readByte, writeByte]
  | cons a bytes => simp [readByte, writeByte]

lemma exact_fixed (n : Nat) : Exact (fun _ => True) FixedBytes.bytes (readFixed n) := by
  refine ⟨fun {bytes b rest} => ?_⟩
  unfold readFixed
  constructor
  · intro h
    split at h
    · obtain ⟨rfl, rfl⟩ := Prod.mk.inj (Except.ok.inj h)
      exact ⟨trivial, (List.take_append_drop n bytes).symm⟩
    · cases h
  · rintro ⟨-, rfl⟩
    have taken : (b.bytes ++ rest).take n = b.bytes := List.take_left' b.length_eq
    have left : (b.bytes ++ rest).drop n = rest := List.drop_left' b.length_eq
    rw [dif_pos (by rw [taken, b.length_eq])]
    simp only [taken, left]

lemma exact_many (exact : Exact valid write read) : ∀ {count : Nat} {bytes : List UInt8}
    {as : List α} {rest : List UInt8}, readMany read count bytes = .ok (as, rest) ↔
      (as.length = count ∧ ∀ a ∈ as, valid a) ∧ bytes = as.flatMap write ++ rest
  | 0, bytes, as, rest => by
      rw [readMany]
      constructor
      · intro h
        obtain ⟨rfl, rfl⟩ := Prod.mk.inj (Except.ok.inj h)
        simp
      · rintro ⟨⟨empty, -⟩, rfl⟩
        obtain rfl := List.length_eq_zero_iff.1 empty
        rfl
  | count + 1, bytes, as, rest => by
      rw [readMany]
      constructor
      · intro h
        split at h
        · cases h
        next a behind first =>
          split at h
          · cases h
          next as' rest' others =>
            obtain ⟨rfl, rfl⟩ := Prod.mk.inj (Except.ok.inj h)
            obtain ⟨holds, rfl⟩ := exact.reads.1 first
            obtain ⟨⟨length, all⟩, rfl⟩ := (exact_many exact).1 others
            exact ⟨⟨by simp [length], List.forall_mem_cons.2 ⟨holds, all⟩⟩, by simp⟩
      · rintro ⟨⟨length, all⟩, rfl⟩
        cases as with
        | nil => simp at length
        | cons a as =>
            obtain ⟨holds, all'⟩ := List.forall_mem_cons.1 all
            have length' : as.length = count := by simpa using length
            have others : readMany read count (as.flatMap write ++ rest) = .ok (as, rest) :=
              (exact_many exact).2 ⟨⟨length', all'⟩, rfl⟩
            rw [List.flatMap_cons, List.append_assoc, exact.reads.2 ⟨holds, rfl⟩]
            simp only [others]

/-- A list whose length can be written, of valid values. -/
def ListValid (valid : α → Prop) (as : List α) : Prop :=
  as.length ≤ maxLength ∧ ∀ a ∈ as, valid a

lemma exact_list (exact : Exact valid write read) :
    Exact (ListValid valid) (writeList write) (readList read) := by
  refine ⟨fun {bytes as rest} => ?_⟩
  unfold readList writeList
  constructor
  · intro h
    split at h
    · cases h
    next count behind first =>
      obtain ⟨fits, rfl⟩ := exact_length.reads.1 first
      obtain ⟨⟨rfl, all⟩, rfl⟩ := (exact_many exact).1 h
      exact ⟨⟨fits, all⟩, by simp⟩
  · rintro ⟨⟨fits, all⟩, rfl⟩
    rw [List.append_assoc, exact_length.reads.2 ⟨fits, rfl⟩]
    exact (exact_many exact).2 ⟨⟨rfl, all⟩, rfl⟩

/-- A byte string whose length can be written. -/
def Short (bytes : List UInt8) : Prop := bytes.length ≤ maxLength

lemma exact_bytes : Exact Short (writeList writeByte) (readList readByte) := by
  refine ⟨fun {bytes as rest} => ?_⟩
  rw [(exact_list exact_byte).reads]
  simp [ListValid, Short]

end

/-! ## Instructions and lookups -/

/-- An instruction whose lengths can be written. -/
def InstructionValid (i : Instruction) : Prop := Short i.accounts ∧ Short i.data

lemma exact_instruction : Exact InstructionValid writeInstruction readInstruction := by
  refine ⟨fun {bytes i rest} => ?_⟩
  simp only [readInstruction, exact_byte.bind, exact_bytes.bind]
  constructor
  · rintro ⟨program, _, ⟨-, rfl⟩, accounts, _, ⟨short, rfl⟩, data, _, ⟨short', rfl⟩, done⟩
    obtain ⟨rfl, rfl⟩ := Prod.mk.inj (Except.ok.inj done)
    exact ⟨⟨short, short'⟩, by simp [writeInstruction, writeByte]⟩
  · rintro ⟨⟨short, short'⟩, rfl⟩
    refine ⟨i.program, _, ⟨trivial, ?_⟩, i.accounts, _, ⟨short, rfl⟩, i.data, rest, ⟨short', rfl⟩,
      rfl⟩
    simp [writeInstruction, writeByte]

/-- A lookup whose lengths can be written. -/
def LookupValid (l : TableLookup) : Prop := Short l.writable ∧ Short l.readonly

lemma exact_lookup : Exact LookupValid writeLookup readLookup := by
  refine ⟨fun {bytes l rest} => ?_⟩
  simp only [readLookup, (exact_fixed 32).bind, exact_bytes.bind]
  constructor
  · rintro ⟨table, _, ⟨-, rfl⟩, writable, _, ⟨short, rfl⟩, readonly, _, ⟨short', rfl⟩, done⟩
    obtain ⟨rfl, rfl⟩ := Prod.mk.inj (Except.ok.inj done)
    exact ⟨⟨short, short'⟩, by simp [writeLookup]⟩
  · rintro ⟨⟨short, short'⟩, rfl⟩
    refine ⟨l.table, _, ⟨trivial, ?_⟩, l.writable, _, ⟨short, rfl⟩, l.readonly, rest, ⟨short', rfl⟩,
      rfl⟩
    simp [writeLookup]

/-! ## Messages and transactions -/

/-- A message whose lengths can be written, lookups aside. -/
structure BodyValid (m : Message) : Prop where
  keys : m.keys.length ≤ maxLength
  instructions : ListValid InstructionValid m.instructions

lemma exact_body :
    Exact (fun m => BodyValid m ∧ m.lookups = none) writeBody readBody := by
  refine ⟨fun {bytes m rest} => ?_⟩
  simp only [readBody, exact_byte.bind, (exact_list (exact_fixed 32)).bind, (exact_fixed 32).bind,
    (exact_list exact_instruction).bind]
  constructor
  · rintro ⟨required, _, ⟨-, rfl⟩, signed, _, ⟨-, rfl⟩, unsigned, _, ⟨-, rfl⟩, keys, _,
      ⟨⟨fits, -⟩, rfl⟩, blockhash, _, ⟨-, rfl⟩, instructions, _, ⟨valid, rfl⟩, done⟩
    obtain ⟨rfl, rfl⟩ := Prod.mk.inj (Except.ok.inj done)
    exact ⟨⟨⟨fits, valid⟩, rfl⟩, by simp [writeBody, writeByte]⟩
  · rintro ⟨⟨⟨fits, valid⟩, plain⟩, rfl⟩
    obtain ⟨⟨required, signed, unsigned⟩, keys, blockhash, instructions, lookups⟩ := m
    obtain rfl : lookups = none := plain
    refine ⟨required, _, ⟨trivial, ?_⟩, signed, _, ⟨trivial, rfl⟩, unsigned, _, ⟨trivial, rfl⟩,
      keys, _, ⟨⟨fits, fun _ _ => trivial⟩, rfl⟩, blockhash, _, ⟨trivial, rfl⟩, instructions, rest,
      ⟨valid, rfl⟩, rfl⟩
    simp [writeBody, writeByte]

/-- A message that can be written and is read back. -/
structure MessageValid (m : Message) : Prop where
  body : BodyValid m
  /-- The first byte of the older format is not taken for the mark of a version. -/
  unmarked : m.lookups = none → m.header.required < versionMark
  lookups : ∀ lookups, m.lookups = some lookups → ListValid LookupValid lookups

lemma exact_message : Exact MessageValid writeMessage readMessage := by
  refine ⟨fun {bytes m rest} => ?_⟩
  constructor
  · intro h
    unfold readMessage at h
    rcases bytes with _ | ⟨first, behind⟩
    · cases h
    · by_cases plain : first < versionMark
      · simp only [if_pos plain] at h
        obtain ⟨⟨valid, none⟩, written⟩ := exact_body.reads.1 h
        obtain rfl : first = m.header.required := (List.cons.inj written).1
        refine ⟨⟨valid, fun _ => plain, fun _ some => ?_⟩, by rw [written, writeMessage, none]⟩
        cases none.symm.trans some
      · by_cases mark : first = versionMark
        · simp only [if_neg plain, if_pos mark, exact_body.bind,
            (exact_list exact_lookup).bind] at h
          obtain ⟨body, _, ⟨⟨valid, -⟩, rfl⟩, lookups, _, ⟨fits, rfl⟩, done⟩ := h
          obtain ⟨rfl, rfl⟩ := Prod.mk.inj (Except.ok.inj done)
          refine ⟨⟨⟨valid.keys, valid.instructions⟩, nofun, fun _ some => ?_⟩, ?_⟩
          · exact Option.some.inj some ▸ fits
          · simp [writeMessage, writeBody, mark]
        · simp only [if_neg plain, if_neg mark] at h
          cases h
  · rintro ⟨⟨valid, unmarked, fits⟩, rfl⟩
    unfold readMessage writeMessage
    obtain ⟨header, keys, blockhash, instructions, lookups⟩ := m
    cases lookups with
    | none =>
        -- The first byte is that of the header.
        exact (if_pos (unmarked rfl)).trans (exact_body.reads.2 ⟨⟨valid, rfl⟩, rfl⟩)
    | some lookups =>
        have irreflexive : ¬ versionMark < versionMark := by decide
        simp only [List.cons_append, if_neg irreflexive, if_pos, exact_body.bind,
          (exact_list exact_lookup).bind]
        refine ⟨⟨header, keys, blockhash, instructions, none⟩, _,
          ⟨⟨⟨valid.keys, valid.instructions⟩, rfl⟩, ?_⟩, lookups, rest, ⟨fits _ rfl, rfl⟩, rfl⟩
        simp [writeBody]

end Wire

namespace Transaction

open Wire

/-- A transaction that can be written and is read back. -/
structure Valid (t : Transaction) : Prop where
  signatures : t.signatures.length ≤ maxLength
  message : MessageValid t.message

/-- **The codec of transactions.**  What is read off the front of a byte string is a transaction
that can be written, and the byte string starts with its bytes.  All these transactions are read. -/
theorem exact : Exact Valid encode decode := by
  refine ⟨fun {bytes t rest} => ?_⟩
  simp only [decode, (exact_list (exact_fixed 64)).bind, exact_message.bind]
  constructor
  · rintro ⟨signatures, _, ⟨⟨fits, -⟩, rfl⟩, message, _, ⟨valid, rfl⟩, done⟩
    obtain ⟨rfl, rfl⟩ := Prod.mk.inj (Except.ok.inj done)
    exact ⟨⟨fits, valid⟩, by simp [encode, Message.encode]⟩
  · rintro ⟨⟨fits, valid⟩, rfl⟩
    refine ⟨t.signatures, _, ⟨⟨fits, fun _ _ => trivial⟩, ?_⟩, t.message, rest, ⟨valid, rfl⟩, rfl⟩
    simp [encode, Message.encode]

/-- Whatever is read can be written. -/
lemma Valid.fits {t : Transaction} (valid : Valid t) : t.fits = true := by
  obtain ⟨signatures, ⟨⟨keys, few, instructions⟩, -, lookups⟩⟩ := valid
  have found : ListValid LookupValid (t.message.lookups.getD []) := by
    cases some : t.message.lookups with
    | none => exact ⟨Nat.zero_le _, by simp⟩
    | some ls => exact lookups ls some
  simp only [Transaction.fits, Message.fits, Bool.and_eq_true, decide_eq_true_eq,
    List.all_eq_true]
  exact ⟨signatures, ⟨⟨⟨keys, few⟩, instructions⟩, found.1⟩, found.2⟩

/-- Empty slots for all signatures that are needed can be written as well. -/
lemma Valid.padded {t : Transaction} (valid : Valid t) : Valid t.padded := by
  refine ⟨?_, valid.message⟩
  have few : t.message.required < 256 := t.message.header.required.toNat_lt
  have signatures := valid.signatures
  rw [length_signatures_padded]
  unfold maxLength at signatures ⊢
  omega

end Transaction

end PoolExit
