import PoolExit.Bytes

/-!
# Transactions

A transaction is a message with one signature slot for each signature it may need; an all-zero
signature marks an empty slot.  The message names its accounts once; its instructions refer to them by
index.  The first `Message.required` accounts have to sign.
-/

namespace PoolExit

/-- How many of the accounts sign, and how many are only read. -/
structure MessageHeader where
  required : UInt8
  readonlySigned : UInt8
  readonlyUnsigned : UInt8
deriving DecidableEq

/-- One instruction: the program and the accounts are indices into the message's accounts. -/
structure Instruction where
  program : UInt8
  accounts : List UInt8
  data : List UInt8
deriving DecidableEq

/-- Accounts that a message takes from an address table on the chain. -/
structure TableLookup where
  table : Pubkey
  writable : List UInt8
  readonly : List UInt8
deriving DecidableEq

/-- What gets signed.  A message of the older format has no `lookups`; one of version 0 has a list
of them, which may be empty. -/
structure Message where
  header : MessageHeader
  keys : List Pubkey
  blockhash : Blockhash
  instructions : List Instruction
  lookups : Option (List TableLookup)
deriving DecidableEq

namespace Message

/-- How many signatures the message needs. -/
def required (m : Message) : Nat := m.header.required.toNat

/-- The accounts that have to sign. -/
def requiredSigners (m : Message) : List Pubkey := m.keys.take m.required

/-- An account has to sign if its place is below the number of signatures. -/
theorem getElem?_requiredSigners {m : Message} {j : Nat} {key : Pubkey} :
    m.requiredSigners[j]? = some key ↔ j < m.required ∧ m.keys[j]? = some key := by
  rw [requiredSigners, List.getElem?_take]
  split
  next before => simp [before]
  next beyond => simp [beyond]

/-- A message without accounts and instructions. -/
def empty : Message := ⟨⟨0, 0, 0⟩, [], FixedBytes.zero 32, [], none⟩

end Message

/-- A message with its signature slots. -/
structure Transaction where
  signatures : List Signature
  message : Message
deriving DecidableEq

/-- The mark of a signature slot without a signature. -/
def Signature.missing : Signature := FixedBytes.zero 64

namespace Transaction

/-- No slots and an empty message. -/
def empty : Transaction := ⟨[], Message.empty⟩

instance : Inhabited Transaction := ⟨empty⟩

/-- Appends empty slots until there is one for each required signature. -/
def padded (t : Transaction) : Transaction :=
  { t with
    signatures :=
      t.signatures ++ List.replicate (t.message.required - t.signatures.length) Signature.missing }

/-- Whether the slot at an index holds a signature. -/
def isSignedAt (t : Transaction) (index : Nat) : Bool :=
  match t.signatures[index]? with
  | some s => s ≠ Signature.missing
  | none => false

/-- The accounts that have to sign and have not. -/
def unsignedSigners (t : Transaction) : List Pubkey :=
  (t.message.requiredSigners.zipIdx.filter fun (_, index) => !t.isSignedAt index).map Prod.fst

/-- Puts a signature into a slot. -/
def signAt (t : Transaction) (index : Nat) (s : Signature) : Transaction :=
  { t with signatures := t.signatures.set index s }

theorem length_signatures_padded (t : Transaction) :
    t.padded.signatures.length = max t.signatures.length t.message.required := by
  simp only [padded, List.length_append, List.length_replicate]
  omega

/-- A transaction that has all the slots it needs gets no others. -/
theorem padded_of_full {t : Transaction} (full : t.message.required ≤ t.signatures.length) :
    t.padded = t := by
  simp [padded, Nat.sub_eq_zero_of_le full]

end Transaction

end PoolExit
