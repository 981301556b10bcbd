import PoolExit.Wallet.Sha512

/-!
# Ed25519

Signatures over the twisted Edwards curve `-x² + y² = 1 + d x² y²` over the integers modulo
`2²⁵⁵ - 19`, as RFC 8032 lays them down.  Points are kept in extended coordinates, so that addition
needs no division.
-/

namespace PoolExit.Ed25519

/-- The prime of the field. -/
def fieldPrime : Nat := Nat.pow 2 255 - 19

/-- The order of the base point. -/
def groupOrder : Nat := Nat.pow 2 252 + 27742317777372353535851937790883648493

/-- A number of the field. -/
structure Field where
  val : Nat
deriving DecidableEq

namespace Field

/-- The number of the field that a natural number leaves. -/
def ofNat (n : Nat) : Field := ⟨n % fieldPrime⟩

instance : Add Field := ⟨fun x y => ofNat (x.val + y.val)⟩
instance : Sub Field := ⟨fun x y => ofNat (x.val + (fieldPrime - y.val))⟩
instance : Mul Field := ⟨fun x y => ofNat (x.val * y.val)⟩

end Field

/-- The `n` lowest bits of a number, the highest of them first. -/
def bits (n : Nat) (v : Nat) : List Bool := (List.range n).reverse.map v.testBit

/-- A power, by squaring. -/
def Field.power (x : Field) (exponent : Nat) : Field :=
  (bits 255 exponent).foldl
    (fun acc bit => let square := acc * acc; if bit then square * x else square) (.ofNat 1)

/-- The inverse; zero has none and gives zero. -/
def Field.inverse (x : Field) : Field := x.power (fieldPrime - 2)

/-- A point in extended coordinates: `x = X / Z`, `y = Y / Z` and `x y = T / Z`. -/
structure Point where
  X : Field
  Y : Field
  Z : Field
  T : Field
deriving DecidableEq

namespace Point

/-- Twice the constant `d = -121665 / 121666` of the curve. -/
def twiceD : Field := .ofNat
  16295367250680780974490674513165176452449235426866156013048779062215315747161

/-- The neutral point. -/
def neutral : Point := ⟨.ofNat 0, .ofNat 1, .ofNat 1, .ofNat 0⟩

/-- A point from its two coordinates. -/
def affine (x y : Nat) : Point :=
  ⟨.ofNat x, .ofNat y, .ofNat 1, .ofNat x * .ofNat y⟩

/-- The base point. -/
def base : Point :=
  affine 15112221349535400772501151409588531511454012693041857206046113283949847762202
    46316835694926478169428394003475163141307993866256225615783033603165251855960

/-- The sum of two points. -/
def add (p q : Point) : Point :=
  let a := (p.Y - p.X) * (q.Y - q.X)
  let b := (p.Y + p.X) * (q.Y + q.X)
  let c := p.T * twiceD * q.T
  let d := p.Z * (q.Z + q.Z)
  let e := b - a
  let f := d - c
  let g := d + c
  let h := b + a
  ⟨e * f, g * h, f * g, e * h⟩

/-- A multiple of a point, by doubling. -/
def times (p : Point) (n : Nat) : Point :=
  (bits 256 n).foldl
    (fun acc bit => let double := acc.add acc; if bit then double.add p else double) neutral

end Point

/-- The 32 bytes of a number, the lowest first. -/
def littleEndianBytes (n : Nat) : FixedBytes 32 :=
  ⟨(Sha512.bigEndianBytes 32 n).reverse, by simp [Sha512.length_bigEndianBytes]⟩

/-- A little-endian byte string as a number. -/
def littleEndian (bytes : List UInt8) : Nat := Sha512.bigEndian bytes.reverse

/-- The bytes of a point: `y`, and in the highest bit whether `x` is odd. -/
def Point.encode (p : Point) : FixedBytes 32 :=
  let inverse := p.Z.inverse
  let x := p.X * inverse
  let y := p.Y * inverse
  littleEndianBytes (y.val + (x.val % 2) * Nat.pow 2 255)

/-- The secret number of a seed, made from the first half of its hash. -/
def secretNumber (hash : List UInt8) : Nat :=
  let n := littleEndian (hash.take 32)
  n % Nat.pow 2 254 / 8 * 8 + Nat.pow 2 254

/-- The public key of a seed. -/
def publicKey (seed : FixedBytes 32) : Pubkey :=
  (Point.base.times (secretNumber (Sha512.hash seed.bytes))).encode

/-- The two halves of a signature, joined. -/
def join (r s : FixedBytes 32) : Signature :=
  ⟨r.bytes ++ s.bytes, by simp [r.length_eq, s.length_eq]⟩

/-- The signature of a message under a seed, whose public key is `key`. -/
def sign (seed : FixedBytes 32) (key : Pubkey) (message : List UInt8) : Signature :=
  let hash := Sha512.hash seed.bytes
  let nonce := littleEndian (Sha512.hash (hash.drop 32 ++ message)) % groupOrder
  let commitment := (Point.base.times nonce).encode
  let challenge :=
    littleEndian (Sha512.hash (commitment.bytes ++ key.bytes ++ message)) % groupOrder
  join commitment (littleEndianBytes ((nonce + challenge * secretNumber hash) % groupOrder))

end PoolExit.Ed25519
