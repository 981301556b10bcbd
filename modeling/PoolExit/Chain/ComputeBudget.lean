import PoolExit.Chain.Transaction

/-!
# Fees inside a message

A message states its fee in instructions to the compute-budget program: the byte 3 and an 8-byte
price for each unit, the byte 2 and a 4-byte limit of units, both little-endian.  The first
instruction of each sort that can be decoded counts; bytes behind the number are ignored.
-/

namespace PoolExit

namespace ComputeBudget

/-- The address of the compute-budget program,
`ComputeBudget111111111111111111111111111111`. -/
def program : Pubkey :=
  ⟨[3, 6, 70, 111, 229, 33, 23, 50, 255, 236, 173, 186, 114, 195, 155, 231,
    188, 140, 229, 187, 197, 247, 18, 107, 44, 67, 155, 58, 64, 0, 0, 0], rfl⟩

/-- A little-endian byte string as a number. -/
def littleEndian (bytes : List UInt8) : Nat := bytes.foldr (fun b acc => b.toNat + 256 * acc) 0

/-- The number behind the byte `tag`, if at least `size` bytes follow that byte. -/
def decodeTagged (tag : UInt8) (size : Nat) : List UInt8 → Option Nat
  | [] => none
  | t :: rest => if t = tag ∧ size ≤ rest.length then some (littleEndian (rest.take size)) else none

/-- The price that an instruction's data sets. -/
def decodePrice (data : List UInt8) : Option UInt64 := (decodeTagged 3 8 data).map UInt64.ofNat

/-- The limit that an instruction's data sets. -/
def decodeLimit (data : List UInt8) : Option UInt32 := (decodeTagged 2 4 data).map UInt32.ofNat

end ComputeBudget

namespace Message

/-- The data of the instructions to the compute-budget program. -/
def computeBudgetData (m : Message) : List (List UInt8) :=
  (m.instructions.filter fun i =>
    m.keys[i.program.toNat]? == some ComputeBudget.program).map Instruction.data

/-- The price for each compute unit that the message offers. -/
def computeUnitPrice (m : Message) : Option UInt64 :=
  m.computeBudgetData.findSome? ComputeBudget.decodePrice

/-- The limit of compute units that the message sets. -/
def computeUnitLimit (m : Message) : Option UInt32 :=
  m.computeBudgetData.findSome? ComputeBudget.decodeLimit

end Message

end PoolExit
