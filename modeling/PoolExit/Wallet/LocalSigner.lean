import PoolExit.Chain.Wire
import PoolExit.Wallet.Ed25519
import PoolExit.Wallet.Error

/-!
# Signing with a key at hand

A local signer fills its own slot of a transaction and no other one.  It refuses a transaction that
does not need its signature.
-/

namespace PoolExit

/-- A key that can sign messages. -/
structure LocalSigner where
  pubkey : Pubkey
  sign : List UInt8 → Signature

namespace LocalSigner

/-- The first slot of a message that belongs to the key. -/
def slot? (k : LocalSigner) (m : Message) : Option Nat :=
  m.requiredSigners.findIdx? fun key => key = k.pubkey

/-- The refusal of a transaction that does not need the key's signature. -/
def refusal (k : LocalSigner) : SignerError :=
  .rejected s!"{k.pubkey.text} 不是该交易的必需签名者"

/-- Signs one transaction. -/
def signOne (k : LocalSigner) (t : Transaction) : Except SignerError Transaction :=
  match k.slot? t.message with
  | none => .error k.refusal
  | some index => .ok (t.padded.signAt index (k.sign t.message.encode))

/-- Signs all transactions, or none where one of them is refused. -/
def signAll (k : LocalSigner) : List Transaction → Except SignerError (List Transaction)
  | [] => .ok []
  | t :: rest => match k.signOne t with
    | .error e => .error e
    | .ok signed => (k.signAll rest).map (signed :: ·)

end LocalSigner

/-- An Ed25519 key pair. -/
structure Keypair where
  seed : FixedBytes 32
  pubkey : Pubkey
  pubkey_eq : pubkey = Ed25519.publicKey seed

namespace Keypair

/-- The key pair of a seed followed by its public key. -/
def ofBytes? (bytes : List UInt8) : Option Keypair := do
  let seed ← FixedBytes.ofBytes? (bytes.take 32)
  let pubkey ← FixedBytes.ofBytes? (bytes.drop 32)
  if h : pubkey = Ed25519.publicKey seed then some ⟨seed, pubkey, h⟩ else none

/-- The signer of a key pair. -/
def signer (k : Keypair) : LocalSigner := ⟨k.pubkey, Ed25519.sign k.seed k.pubkey⟩

end Keypair

end PoolExit
