import PoolExit.Chain.Transaction

/-!
# The wire form of transactions

Lengths are written in one to three bytes of seven bits each, the lowest first, and only in the
shortest way.  A message of version 0 starts with the byte `0x80` and ends with its table lookups; one
of the older format starts with its header, whose first byte is below `0x80`.

`Transaction.encode` writes the form and `Transaction.decode` reads it off the front of a byte
string.
-/

namespace PoolExit

namespace Wire

/-- Why a byte string does not start with the wire form of a transaction. -/
inductive Error where
  | tooShort
  | invalidLength
  | unknownVersion (version : Nat)
deriving DecidableEq, Repr

/-- The wording shown for each cause. -/
def Error.message : Error → String
  | .tooShort => "unexpected end of the data"
  | .invalidLength => "invalid length"
  | .unknownVersion version => s!"unknown message version {version}"

/-- Reads a value off the front of a byte string. -/
abbrev Reader (α : Type) := List UInt8 → Except Error (α × List UInt8)

/-- The largest length that can be written. -/
def maxLength : Nat := 65535

/-! ## Lengths -/

/-- The bytes of a length. -/
def writeLength (n : Nat) : List UInt8 :=
  if n < 128 then [UInt8.ofNat n]
  else if n < 16384 then [UInt8.ofNat (n % 128 + 128), UInt8.ofNat (n / 128)]
  else [UInt8.ofNat (n % 128 + 128), UInt8.ofNat (n / 128 % 128 + 128), UInt8.ofNat (n / 16384)]

/-- Reads a length written in the shortest way. -/
def readLength : Reader Nat
  | [] => .error .tooShort
  | a :: rest =>
    if a < 128 then .ok (a.toNat, rest)
    else match rest with
      | [] => .error .tooShort
      | b :: rest =>
        if b = 0 then .error .invalidLength
        else if b < 128 then .ok (a.toNat - 128 + b.toNat * 128, rest)
        else match rest with
          | [] => .error .tooShort
          | c :: rest =>
            if c = 0 ∨ 4 ≤ c then .error .invalidLength
            else .ok (a.toNat - 128 + (b.toNat - 128) * 128 + c.toNat * 16384, rest)

/-! ## Parts of fixed size and lists -/

/-- Reads one byte. -/
def readByte : Reader UInt8
  | [] => .error .tooShort
  | b :: rest => .ok (b, rest)

/-- Reads a byte string of fixed length. -/
def readFixed (n : Nat) : Reader (FixedBytes n) := fun bytes =>
  if h : (bytes.take n).length = n then .ok (⟨bytes.take n, h⟩, bytes.drop n)
  else .error .tooShort

/-- Reads `count` values one after another. -/
def readMany {α : Type} (read : Reader α) : (count : Nat) → Reader (List α)
  | 0, bytes => .ok ([], bytes)
  | count + 1, bytes =>
    match read bytes with
    | .error e => .error e
    | .ok (a, rest) =>
      match readMany read count rest with
      | .error e => .error e
      | .ok (as, rest) => .ok (a :: as, rest)

/-- Reads a list behind its length. -/
def readList {α : Type} (read : Reader α) : Reader (List α) := fun bytes =>
  match readLength bytes with
  | .error e => .error e
  | .ok (count, rest) => readMany read count rest

/-- A list behind its length. -/
def writeList {α : Type} (write : α → List UInt8) (xs : List α) : List UInt8 :=
  writeLength xs.length ++ xs.flatMap write

/-- One byte. -/
def writeByte (b : UInt8) : List UInt8 := [b]

/-! ## Instructions and lookups -/

/-- The bytes of an instruction. -/
def writeInstruction (i : Instruction) : List UInt8 :=
  i.program :: (writeList writeByte i.accounts ++ writeList writeByte i.data)

/-- Reads an instruction. -/
def readInstruction : Reader Instruction := fun bytes => do
  let (program, rest) ← readByte bytes
  let (accounts, rest) ← readList readByte rest
  let (data, rest) ← readList readByte rest
  return (⟨program, accounts, data⟩, rest)

/-- The bytes of a table lookup. -/
def writeLookup (l : TableLookup) : List UInt8 :=
  l.table.bytes ++ writeList writeByte l.writable ++ writeList writeByte l.readonly

/-- Reads a table lookup. -/
def readLookup : Reader TableLookup := fun bytes => do
  let (table, rest) ← readFixed 32 bytes
  let (writable, rest) ← readList readByte rest
  let (readonly, rest) ← readList readByte rest
  return (⟨table, writable, readonly⟩, rest)

/-! ## Messages and transactions -/

/-- The mark in front of a versioned message; the version is added to it. -/
def versionMark : UInt8 := 128

/-- The bytes of the parts that messages of both formats have. -/
def writeBody (m : Message) : List UInt8 :=
  m.header.required :: m.header.readonlySigned :: m.header.readonlyUnsigned ::
    (writeList FixedBytes.bytes m.keys ++ m.blockhash.bytes
      ++ writeList writeInstruction m.instructions)

/-- Reads the parts that messages of both formats have. -/
def readBody : Reader Message := fun bytes => do
  let (required, rest) ← readByte bytes
  let (readonlySigned, rest) ← readByte rest
  let (readonlyUnsigned, rest) ← readByte rest
  let (keys, rest) ← readList (readFixed 32) rest
  let (blockhash, rest) ← readFixed 32 rest
  let (instructions, rest) ← readList readInstruction rest
  return (⟨⟨required, readonlySigned, readonlyUnsigned⟩, keys, blockhash, instructions, none⟩, rest)

/-- The bytes of a message; they are what a signature signs. -/
def writeMessage (m : Message) : List UInt8 :=
  match m.lookups with
  | none => writeBody m
  | some lookups => versionMark :: (writeBody m ++ writeList writeLookup lookups)

/-- Reads a message. -/
def readMessage : Reader Message := fun bytes =>
  match bytes with
  | [] => .error .tooShort
  | first :: rest =>
    if first < versionMark then readBody bytes
    else if first = versionMark then do
      let (m, rest) ← readBody rest
      let (lookups, rest) ← readList readLookup rest
      return ({ m with lookups := some lookups }, rest)
    else .error (.unknownVersion (first - versionMark).toNat)

end Wire

namespace Message

/-- The bytes of a message. -/
def encode (m : Message) : List UInt8 := Wire.writeMessage m

/-- Whether all lists of a message are short enough for their lengths to be written. -/
def fits (m : Message) : Bool :=
  m.keys.length ≤ Wire.maxLength
    && m.instructions.length ≤ Wire.maxLength
    && m.instructions.all (fun i =>
      i.accounts.length ≤ Wire.maxLength && i.data.length ≤ Wire.maxLength)
    && (m.lookups.getD []).length ≤ Wire.maxLength
    && (m.lookups.getD []).all (fun l =>
      l.writable.length ≤ Wire.maxLength && l.readonly.length ≤ Wire.maxLength)

end Message

namespace Transaction

/-- The bytes of a transaction. -/
def encode (t : Transaction) : List UInt8 :=
  Wire.writeList FixedBytes.bytes t.signatures ++ t.message.encode

/-- Whether all lists of a transaction are short enough for their lengths to be written. -/
def fits (t : Transaction) : Bool :=
  t.signatures.length ≤ Wire.maxLength && t.message.fits

/-- Reads a transaction off the front of a byte string. -/
def decode : Wire.Reader Transaction := fun bytes => do
  let (signatures, rest) ← Wire.readList (Wire.readFixed 64) bytes
  let (message, rest) ← Wire.readMessage rest
  return (⟨signatures, message⟩, rest)

end Transaction

end PoolExit
