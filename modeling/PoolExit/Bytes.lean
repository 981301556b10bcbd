import PoolExit.Text.Base58

/-!
# Byte strings of fixed length

Public keys and block hashes are 32 bytes, signatures are 64.  Their text is base 58, and
`FixedBytes.ofText?` reads exactly the texts that `FixedBytes.text` writes.
-/

namespace PoolExit

open Text

/-- A byte string of `n` bytes. -/
structure FixedBytes (n : Nat) where
  bytes : List UInt8
  length_eq : bytes.length = n
deriving DecidableEq

namespace FixedBytes

variable {n : Nat}

/-- The same byte `n` times. -/
def replicate (n : Nat) (b : UInt8) : FixedBytes n := ⟨List.replicate n b, by simp⟩

/-- All bytes zero. -/
def zero (n : Nat) : FixedBytes n := replicate n 0

instance : Inhabited (FixedBytes n) := ⟨zero n⟩

/-- The byte string, if it has the right length. -/
def ofBytes? (bytes : List UInt8) : Option (FixedBytes n) :=
  if h : bytes.length = n then some ⟨bytes, h⟩ else none

/-- The base-58 text. -/
def text (b : FixedBytes n) : String := Base58.encode b.bytes

end FixedBytes

/-- The address of an account. -/
abbrev Pubkey := FixedBytes 32

/-- The hash of the block that a transaction refers to. -/
abbrev Blockhash := FixedBytes 32

/-- A signature of a transaction; all zero bytes stand for a missing one. -/
abbrev Signature := FixedBytes 64

/-- Why a text is no address. -/
inductive AddressError where
  | wrongSize
  | invalidText
deriving DecidableEq, Repr

/-- The wording shown for each cause. -/
def AddressError.message : AddressError → String
  | .wrongSize => "String is the wrong size"
  | .invalidText => "Invalid Base58 string"

/-- The longest base-58 text of 32 bytes. -/
def addressTextLimit : Nat := 44

/-- Reads an address.  A text too long is refused before its characters are looked at. -/
def Pubkey.read (s : String) : Except AddressError Pubkey :=
  if addressTextLimit < s.utf8ByteSize then .error .wrongSize
  else match Base58.decode s with
    | .error _ => .error .invalidText
    | .ok bytes => match FixedBytes.ofBytes? bytes with
      | some key => .ok key
      | none => .error .wrongSize

end PoolExit
