/-!
# Base 64

Transactions travel as base-64 text in the standard alphabet, four characters for three bytes, the
last group filled up with `=`.  `encode` writes a byte string.  `decode` reads one back and accepts
no other text: padding is required, unused bits must be zero and no line breaks are allowed.
The error of a bad text is the one met first when groups of four are read from the left; the
last group is read as a whole.
-/

namespace PoolExit.Text.Base64

/-- The sixty-four digits in the order of their values. -/
def alphabet : List Char :=
  "ABCDEFGHIJKLMNOPQRSTUVWXYZabcdefghijklmnopqrstuvwxyz0123456789+/".toList

/-- The digit of a value below sixty-four. -/
def digit (n : Nat) : Char := alphabet.getD n 'A'

/-- The value of a digit. -/
def value? (c : Char) : Option Nat :=
  let n := c.toNat
  if 65 ≤ n ∧ n ≤ 90 then some (n - 65)
  else if 97 ≤ n ∧ n ≤ 122 then some (n - 71)
  else if 48 ≤ n ∧ n ≤ 57 then some (n + 4)
  else if n = 43 then some 62
  else if n = 47 then some 63
  else none

/-- The base-64 characters of a byte string. -/
def encodeChars : List UInt8 → List Char
  | [] => []
  | [a] =>
    let n := a.toNat * 16
    [digit (n / 64), digit (n % 64), '=', '=']
  | [a, b] =>
    let n := (a.toNat * 256 + b.toNat) * 4
    [digit (n / 4096), digit (n / 64 % 64), digit (n % 64), '=']
  | a :: b :: c :: rest =>
    let n := (a.toNat * 256 + b.toNat) * 256 + c.toNat
    digit (n / 262144) :: digit (n / 4096 % 64) :: digit (n / 64 % 64) :: digit (n % 64)
      :: encodeChars rest

/-- The base-64 text of a byte string. -/
def encode (bytes : List UInt8) : String := String.ofList (encodeChars bytes)

/-- Why a text is no base-64 text.  Symbols are bytes of the text in UTF-8, and
offsets count such bytes. -/
inductive Error where
  | invalidSymbol (offset : Nat) (symbol : Nat)
  | invalidLength (length : Nat)
  | invalidLastSymbol (offset : Nat) (symbol : Nat)
  | invalidPadding
deriving DecidableEq, Repr

/-- The wording shown for each cause. -/
def Error.message : Error → String
  | .invalidSymbol offset symbol => s!"Invalid symbol {symbol}, offset {offset}."
  | .invalidLength length => s!"Invalid input length: {length}"
  | .invalidLastSymbol offset symbol => s!"Invalid last symbol {symbol}, offset {offset}."
  | .invalidPadding => "Invalid padding"

/-- The value of a digit that stands at `offset`. -/
def valueAt (offset : Nat) (c : Char) : Except Error Nat :=
  match value? c with
  | some v => .ok v
  | none => .error (.invalidSymbol offset c.toNat)

/-- The three bytes of four digit values. -/
def bytesOf (a b c d : Nat) : List UInt8 :=
  let n := ((a * 64 + b) * 64 + c) * 64 + d
  [UInt8.ofNat (n / 65536), UInt8.ofNat (n / 256), UInt8.ofNat n]

/-- What has been read of the last group: digit values, the last digit read, and the number of
padding signs. -/
structure Tail where
  values : List Nat := []
  last : Nat := 0
  padding : Nat := 0

/-- Reads the characters of the last group, which starts at `start`; `index` characters of it are
read.  Padding stands behind at least two digits and nothing follows it. -/
def readTail (start : Nat) : Nat → Tail → List Char → Except Error Tail
  | _, tail, [] => .ok tail
  | index, tail, c :: rest =>
    if c = '=' then
      if index < 2 then .error (.invalidSymbol (start + index) 61)
      else readTail start (index + 1) { tail with padding := tail.padding + 1 } rest
    else if 0 < tail.padding then
      .error (.invalidSymbol (start + index - tail.padding) 61)
    else match valueAt (start + index) c with
      | .error e => .error e
      | .ok v =>
        readTail start (index + 1) { tail with values := tail.values ++ [v], last := c.toNat } rest

/-- The bytes of the last group of a text, which starts at `start`. -/
def decodeTail (start : Nat) (cs : List Char) : Except Error (List UInt8) := do
  let tail ← readTail start 0 {} cs
  let count := tail.values.length
  if count < 2 then throw (.invalidLength (start + count))
  if (tail.padding + count) % 4 ≠ 0 then throw .invalidPadding
  match tail.values with
  | [a, b] =>
    if b % 16 ≠ 0 then throw (.invalidLastSymbol (start + 1) tail.last)
    return (bytesOf a b 0 0).take 1
  | [a, b, c] =>
    if c % 4 ≠ 0 then throw (.invalidLastSymbol (start + 2) tail.last)
    return (bytesOf a b c 0).take 2
  | [a, b, c, d] => return bytesOf a b c d
  | _ => throw .invalidPadding

/-- The bytes of a text read from `start` on; all groups but the last hold digits only. -/
def decodeFrom (start : Nat) : List Char → Except Error (List UInt8)
  | a :: b :: c :: d :: e :: rest => do
    let x ← valueAt start a
    let y ← valueAt (start + 1) b
    let z ← valueAt (start + 2) c
    let w ← valueAt (start + 3) d
    let more ← decodeFrom (start + 4) (e :: rest)
    return bytesOf x y z w ++ more
  | cs => decodeTail start cs

/-- A text that has one character more than whole groups is refused for that character first, if it
is neither a digit nor padding. -/
def checkTrailing (size : Nat) (cs : List Char) : Except Error Unit :=
  match cs.getLast? with
  | some c =>
    if size % 4 = 1 ∧ c ≠ '=' ∧ (value? c).isNone then
      .error (.invalidSymbol (size - 1) c.toNat)
    else .ok ()
  | none => .ok ()

/-- A text byte by byte: each byte of its encoding in UTF-8 is given as the character of that number.
ASCII characters stay what they are, and no other byte is a digit. -/
def bytewise (cs : List Char) : List Char :=
  cs.flatMap fun c =>
    let n := c.toNat
    let tail (k : Nat) : Char := Char.ofNat (0x80 + n / Nat.pow 64 k % 64)
    if n < 0x80 then [c]
    else if n < 0x800 then [Char.ofNat (0xC0 + n / 0x40), tail 0]
    else if n < 0x10000 then [Char.ofNat (0xE0 + n / 0x1000), tail 1, tail 0]
    else [Char.ofNat (0xF0 + n / 0x40000), tail 2, tail 1, tail 0]

/-- The bytes of a base-64 text, given bytewise. -/
def decodeChars (cs : List Char) : Except Error (List UInt8) := do
  checkTrailing cs.length cs
  if cs.isEmpty then return []
  decodeFrom 0 cs

/-- The bytes of a base-64 text. -/
def decode (s : String) : Except Error (List UInt8) := decodeChars (bytewise s.toList)

end PoolExit.Text.Base64
