/-!
# Base 58

Keys, signatures and block hashes are written in base 58: a leading zero byte is written as one
`1`, and the remaining bytes are read as one big-endian number whose base-58 digits follow.
`encode` writes a byte string, `decode` reads one back, and each byte string has exactly one text.
-/

namespace PoolExit.Text.Base58

/-- The fifty-eight digits in the order of their values. -/
def alphabet : List Char :=
  "123456789ABCDEFGHJKLMNPQRSTUVWXYZabcdefghijkmnopqrstuvwxyz".toList

/-- The digit of a value below fifty-eight. -/
def digit (n : Nat) : Char := alphabet.getD n '1'

/-- The value of a digit. -/
def value? (c : Char) : Option Nat := alphabet.findIdx? (· == c)

/-- Why a text is no base-58 text, with the byte offset at which reading stops. -/
inductive Error where
  | invalidCharacter (character : Char) (offset : Nat)
  | nonAscii (offset : Nat)
deriving DecidableEq, Repr

/-- A big-endian byte string as a number. -/
def toNat (bytes : List UInt8) : Nat := bytes.foldl (fun acc b => acc * 256 + b.toNat) 0

/-- The digits of `n` in base `base`, most significant first, in front of `acc`; none for zero. -/
def digitsOf (base : Nat) (n : Nat) (acc : List Nat) : List Nat :=
  if _ : n = 0 ∨ base < 2 then acc
  else digitsOf base (n / base) (n % base :: acc)
termination_by n
decreasing_by exact Nat.div_lt_self (by omega) (by omega)

/-- The base-58 text of a byte string. -/
def encodeChars (bytes : List UInt8) : List Char :=
  let zeros := bytes.takeWhile (· == 0)
  let rest := bytes.dropWhile (· == 0)
  zeros.map (fun _ => '1') ++ (digitsOf 58 (toNat rest) []).map digit

/-- The base-58 text of a byte string. -/
def encode (bytes : List UInt8) : String := String.ofList (encodeChars bytes)

/-- The values of the digits of a text; `offset` is where its first character stands. -/
def digitValues (offset : Nat) : List Char → Except Error (List Nat)
  | [] => .ok []
  | c :: rest =>
    if 127 < c.toNat then .error (.nonAscii offset)
    else match value? c with
      | none => .error (.invalidCharacter c offset)
      | some v => (digitValues (offset + 1) rest).map (v :: ·)

/-- The bytes of a base-58 text. -/
def decodeChars (cs : List Char) : Except Error (List UInt8) := do
  let values ← digitValues 0 cs
  let zeros := values.takeWhile (· == 0)
  let number := values.foldl (fun acc v => acc * 58 + v) 0
  return zeros.map (fun _ => 0) ++ (digitsOf 256 number []).map UInt8.ofNat

/-- The bytes of a base-58 text. -/
def decode (s : String) : Except Error (List UInt8) := decodeChars s.toList

/-- A character between single quotes, with the escapes of a character literal. -/
def quoted (c : Char) : String :=
  let body :=
    if c == '\x00' then "\\0"
    else if c == '\t' then "\\t"
    else if c == '\n' then "\\n"
    else if c == '\r' then "\\r"
    else if c == '\'' then "\\'"
    else if c == '\\' then "\\\\"
    else if c.toNat < 0x20 || c.toNat == 0x7F then
      "\\u\x7b" ++ String.ofList (Nat.toDigits 16 c.toNat) ++ "\x7d"
    else String.singleton c
  "'" ++ body ++ "'"

/-- The wording shown for each cause. -/
def Error.message : Error → String
  | .invalidCharacter c offset =>
    s!"provided string contained invalid character {quoted c} at byte {offset}"
  | .nonAscii offset => s!"provided string contained non-ascii character starting at byte {offset}"

end PoolExit.Text.Base58
