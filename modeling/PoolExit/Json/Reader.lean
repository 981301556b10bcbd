import PoolExit.Json.Value
import PoolExit.Text.Digits
import PoolExit.Text.Hex

/-!
# Reading JSON text

`Json.read` accepts one JSON value with white space around it and nothing else.  At most 127 arrays
and objects may be nested, escapes must not stand for half of a surrogate pair, and a number beyond
the range of binary floating point is refused.

A number that is no 64-bit integer is rounded in two steps.  Of the digits before the point, as many
are taken as fit 64 bits; then digits behind the point are taken up as long as the number still fits.
What has been taken is one rounded factor, a power of ten is the other, and their product or quotient
is rounded again.
-/

namespace PoolExit.Json

open Text

/-- Why a text is no JSON value. -/
inductive Fault where
  | unexpectedEnd
  | unexpectedCharacter (c : Char)
  | invalidEscape
  | numberOutOfRange
  | nestedTooDeep
  | trailingCharacters
deriving DecidableEq, Repr

/-- The wording shown for each cause. -/
def Fault.message : Fault → String
  | .unexpectedEnd => "unexpected end of the text"
  | .unexpectedCharacter c => s!"unexpected character U+{hexPadded 4 c.toNat}"
  | .invalidEscape => "invalid escape"
  | .numberOutOfRange => "number out of range"
  | .nestedTooDeep => "nested too deep"
  | .trailingCharacters => "trailing characters"

/-- A character that may stand between the parts of a JSON text. -/
def isSpace (c : Char) : Bool := c == ' ' || c == '\n' || c == '\t' || c == '\r'

/-- Skips white space. -/
def skipSpace (cs : List Char) : List Char := cs.dropWhile isSpace

/-- The fault of a text that goes on in the wrong way. -/
def unexpected : List Char → Fault
  | [] => .unexpectedEnd
  | c :: _ => .unexpectedCharacter c

/-! ## Numbers -/

/-- A number rounded from its leading digits `significand` and a power of ten; a very small number
is divided in several steps, at most `fuel` of them. -/
def scale (fuel : Nat) (f : Binary64) (exponent : Int) : Except Fault Binary64 :=
  if 0 ≤ exponent then
    match Binary64.powerOfTen exponent.toNat with
    | some p => match f.times p with
      | some r => .ok r
      | none => .error .numberOutOfRange
    | none => if f.mantissa = 0 then .ok f else .error .numberOutOfRange
  else
    match Binary64.powerOfTen exponent.natAbs with
    | some p => .ok ((f.dividedBy p).getD f)
    | none =>
      if f.mantissa = 0 then .ok f
      else match fuel, Binary64.powerOfTen Binary64.maxPowerOfTen with
        | fuel + 1, some p =>
          scale fuel ((f.dividedBy p).getD f) (exponent + Binary64.maxPowerOfTen)
        | _, _ => .ok Binary64.zero

/-- The rounded value of `significand · 10 ^ exponent`.  After four divisions by `10 ^ 308` nothing
is left of any significand. -/
def rounded (significand : Nat) (exponent : Int) : Except Fault Binary64 :=
  scale 4 ((Binary64.nearest significand 1).getD Binary64.zero) exponent

/-- The leading digits of a number that fit 64 bits, and how many were taken and left over. -/
structure Significand where
  value : Nat := 0
  taken : Nat := 0
  dropped : Nat := 0

/-- Takes in digits as long as the value fits 64 bits, and counts the rest. -/
def Significand.digits (s : Significand) : List Char → Significand
  | [] => s
  | c :: rest =>
    let next := s.value * 10 + (c.toNat - 48)
    if s.dropped = 0 ∧ next ≤ maxUInt64 then
      Significand.digits { s with value := next, taken := s.taken + 1 } rest
    else Significand.digits { s with dropped := s.dropped + 1 } rest

/-- The digits that a text starts with, and what follows them. -/
def spanDigits (cs : List Char) : List Char × List Char := cs.span Char.isDigit

/-- The largest exponent that is taken by its value. -/
def maxWrittenExponent : Nat := 2147483647

/-- The exponent part of a number, if the text goes on with one. -/
def readExponent : List Char → Except Fault (Option (Bool × Nat) × List Char)
  | c :: rest =>
    if c = 'e' ∨ c = 'E' then
      let (negative, rest) := match rest with
        | '+' :: r => (false, r)
        | '-' :: r => (true, r)
        | r => (false, r)
      match spanDigits rest with
      | ([], r) => .error (unexpected r)
      | (ds, r) => .ok (some (negative, ds.foldl (fun n d => n * 10 + (d.toNat - 48)) 0), r)
    else .ok (none, c :: rest)
  | [] => .ok (none, [])

/-- The fraction part of a number, if the text goes on with one. -/
def readFraction : List Char → Except Fault (Option (List Char) × List Char)
  | '.' :: rest =>
    match spanDigits rest with
    | ([], r) => .error (unexpected r)
    | (ds, r) => .ok (some ds, r)
  | rest => .ok (none, rest)

/-- A number in floating point, from its digits before and after the point and its exponent. -/
def floatOf (negative : Bool) (whole fraction : List Char) (exponent : Option (Bool × Nat)) :
    Except Fault Json := do
  let s := Significand.digits {} whole
  let t := Significand.digits { value := s.value } fraction
  let value := t.value
  let shift : Int := s.dropped - t.taken
  match exponent with
  | some (down, n) =>
    if maxWrittenExponent < n then
      if value ≠ 0 ∧ !down then throw .numberOutOfRange
      return .float negative Binary64.zero
    return .float negative (← rounded value (if down then shift - n else shift + n))
  | none => return .float negative (← rounded value shift)

/-- The integer of the given digits, or a number in floating point if it does not fit 64 bits or is a
negative zero. -/
def integerOf (negative : Bool) (whole : List Char) : Except Fault Json :=
  let s := Significand.digits {} whole
  if 0 < s.dropped then floatOf negative whole [] none
  else if !negative then .ok (.int s.value)
  else if 0 < s.value ∧ s.value ≤ 9223372036854775808 then .ok (.int (-(s.value : Int)))
  else .ok (.float true ((Binary64.nearest s.value 1).getD Binary64.zero))

/-- The digits of a number before its point; a zero stands alone. -/
def readWhole (cs : List Char) : Except Fault (List Char × List Char) :=
  match spanDigits cs with
  | ([], r) => .error (unexpected r)
  | ('0' :: d :: _, _) => .error (.unexpectedCharacter d)
  | (ds, r) => .ok (ds, r)

/-- Reads a number behind its minus sign. -/
def readNumber (negative : Bool) (cs : List Char) : Except Fault (Json × List Char) := do
  let (whole, rest) ← readWhole cs
  let (fraction, rest) ← readFraction rest
  let (exponent, rest) ← readExponent rest
  if fraction.isNone && exponent.isNone then
    return (← integerOf negative whole, rest)
  return (← floatOf negative whole (fraction.getD []) exponent, rest)

/-! ## Strings -/

/-- The number of the four hexadecimal digits that a text starts with. -/
def readHex4 : List Char → Except Fault (Nat × List Char)
  | a :: b :: c :: d :: rest =>
    match digitValue? 16 a, digitValue? 16 b, digitValue? 16 c, digitValue? 16 d with
    | some a, some b, some c, some d => .ok (((a * 16 + b) * 16 + c) * 16 + d, rest)
    | _, _, _, _ => .error .invalidEscape
  | _ => .error .unexpectedEnd

/-- The character of an escape, behind its `u`.  Two escapes of a surrogate pair stand for one
character. -/
def readUnicodeEscape (cs : List Char) : Except Fault (Char × List Char) := do
  let (n, rest) ← readHex4 cs
  if 0xDC00 ≤ n ∧ n ≤ 0xDFFF then throw .invalidEscape
  if 0xD800 ≤ n ∧ n ≤ 0xDBFF then
    match rest with
    | '\\' :: 'u' :: rest =>
      let (m, rest) ← readHex4 rest
      if 0xDC00 ≤ m ∧ m ≤ 0xDFFF then
        return (Char.ofNat (0x10000 + (n - 0xD800) * 0x400 + (m - 0xDC00)), rest)
      throw .invalidEscape
    | _ => throw .invalidEscape
  return (Char.ofNat n, rest)

/-- The character that an escape of one letter stands for. -/
def simpleEscape? : Char → Option Char
  | '"' => some '"'
  | '\\' => some '\\'
  | '/' => some '/'
  | 'b' => some '\x08'
  | 'f' => some '\x0c'
  | 'n' => some '\n'
  | 'r' => some '\r'
  | 't' => some '\t'
  | _ => none

/-- Reads a string behind its opening quote; each step takes at least one character, so the length
of the text is fuel enough. -/
def readString : (fuel : Nat) → List Char → List Char → Except Fault (String × List Char)
  | _, _, [] => .error .unexpectedEnd
  | 0, _, _ => .error .unexpectedEnd
  | fuel + 1, acc, c :: rest =>
    if c = '"' then .ok (String.ofList acc.reverse, rest)
    else if c = '\\' then
      match rest with
      | 'u' :: r =>
        match readUnicodeEscape r with
        | .error e => .error e
        | .ok (d, r) => readString fuel (d :: acc) r
      | e :: r =>
        match simpleEscape? e with
        | some d => readString fuel (d :: acc) r
        | none => .error .invalidEscape
      | [] => .error .unexpectedEnd
    else if c.toNat < 0x20 then .error (.unexpectedCharacter c)
    else readString fuel (c :: acc) rest

/-! ## Values -/

/-- Takes a fixed word off a text. -/
def readWord (word : List Char) (value : Json) : List Char → Except Fault (Json × List Char)
  | cs => match word with
    | [] => .ok (value, cs)
    | w :: ws => match cs with
      | c :: rest => if c = w then readWord ws value rest else .error (.unexpectedCharacter c)
      | [] => .error .unexpectedEnd
termination_by structural word

mutual

/-- Reads a value; `depth` more arrays and objects may be nested. -/
def readValue : (fuel : Nat) → (depth : Nat) → List Char → Except Fault (Json × List Char)
  | 0, _, _ => .error .unexpectedEnd
  | fuel + 1, depth, cs =>
    match skipSpace cs with
    | [] => .error .unexpectedEnd
    | '"' :: rest => (readString rest.length [] rest).map fun r => (.string r.1, r.2)
    | '[' :: rest =>
      match depth with
      | 0 => .error .nestedTooDeep
      | depth + 1 =>
        match skipSpace rest with
        | ']' :: rest => .ok (.array [], rest)
        | rest => readElements fuel depth [] rest
    | '\x7b' :: rest =>
      match depth with
      | 0 => .error .nestedTooDeep
      | depth + 1 =>
        match skipSpace rest with
        | '\x7d' :: rest => .ok (.object [], rest)
        | rest => readMembers fuel depth [] rest
    | '-' :: rest => readNumber true rest
    | 't' :: rest => readWord ['r', 'u', 'e'] (.bool true) rest
    | 'f' :: rest => readWord ['a', 'l', 's', 'e'] (.bool false) rest
    | 'n' :: rest => readWord ['u', 'l', 'l'] .null rest
    | c :: rest =>
      if c.isDigit then readNumber false (c :: rest) else .error (.unexpectedCharacter c)

/-- Reads the remaining elements of an array, behind those in `acc` (last first). -/
def readElements :
    (fuel : Nat) → (depth : Nat) → List Json → List Char → Except Fault (Json × List Char)
  | 0, _, _, _ => .error .unexpectedEnd
  | fuel + 1, depth, acc, cs =>
    match readValue fuel depth cs with
    | .error e => .error e
    | .ok (v, rest) =>
      match skipSpace rest with
      | ',' :: rest => readElements fuel depth (v :: acc) rest
      | ']' :: rest => .ok (.array (v :: acc).reverse, rest)
      | rest => .error (unexpected rest)

/-- Reads the remaining members of an object, behind those in `acc`. -/
def readMembers :
    (fuel : Nat) → (depth : Nat) → List (String × Json) → List Char →
      Except Fault (Json × List Char)
  | 0, _, _, _ => .error .unexpectedEnd
  | fuel + 1, depth, acc, cs =>
    match skipSpace cs with
    | '"' :: rest =>
      match readString rest.length [] rest with
      | .error e => .error e
      | .ok (name, rest) =>
        match skipSpace rest with
        | ':' :: rest =>
          match readValue fuel depth rest with
          | .error e => .error e
          | .ok (v, rest) =>
            match skipSpace rest with
            | ',' :: rest => readMembers fuel depth (insert name v acc) rest
            | '\x7d' :: rest => .ok (.object (insert name v acc), rest)
            | rest => .error (unexpected rest)
        | rest => .error (unexpected rest)
    | rest => .error (unexpected rest)

end

/-- The number of arrays and objects that may be nested. -/
def maxDepth : Nat := 127

/-- Reads a text that holds one value. -/
def read (s : String) : Except Fault Json :=
  let cs := s.toList
  match readValue (2 * cs.length + 2) maxDepth cs with
  | .error e => .error e
  | .ok (v, rest) => if (skipSpace rest).isEmpty then .ok v else .error .trailingCharacters

end PoolExit.Json
