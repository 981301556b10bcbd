/-!
# Unsigned numbers in text

`readUnsigned` reads digits of a base into a number that must not exceed a bound.  One leading
plus sign is allowed, a minus sign never is.  Characters are taken from the left, and the first one
that is no digit, or that carries the value over the bound, decides the error.
-/

namespace PoolExit.Text

/-- Why a text is no number of the wanted range. -/
inductive DigitsError where
  | empty
  | invalidDigit
  | tooLarge
deriving DecidableEq, Repr

/-- The wording shown for each cause. -/
def DigitsError.message : DigitsError → String
  | .empty => "cannot parse integer from empty string"
  | .invalidDigit => "invalid digit found in string"
  | .tooLarge => "number too large to fit in target type"

/-- The value of an ASCII digit of any base up to 36. -/
def digitValue? (base : Nat) (c : Char) : Option Nat :=
  let v? :=
    if '0' ≤ c && c ≤ '9' then some (c.toNat - 48)
    else if 'a' ≤ c && c ≤ 'z' then some (c.toNat - 87)
    else if 'A' ≤ c && c ≤ 'Z' then some (c.toNat - 55)
    else none
  v?.filter (· < base)

/-- Reads the remaining digits onto the value `acc`. -/
def readDigits (base bound : Nat) (acc : Nat) : List Char → Except DigitsError Nat
  | [] => .ok acc
  | c :: rest =>
    match digitValue? base c with
    | none => .error .invalidDigit
    | some d =>
      let next := acc * base + d
      if next ≤ bound then readDigits base bound next rest else .error .tooLarge

/-- Reads a number of at most `bound`. -/
def readUnsigned (base bound : Nat) (cs : List Char) : Except DigitsError Nat :=
  match cs with
  | [] => .error .empty
  | ['+'] => .error .invalidDigit
  | '+' :: rest => readDigits base bound 0 rest
  | rest => readDigits base bound 0 rest

/-- The largest 8-bit number. -/
def maxUInt8 : Nat := 255

/-- The largest 16-bit number. -/
def maxUInt16 : Nat := 65535

/-- The largest 32-bit number. -/
def maxUInt32 : Nat := 4294967295

/-- The largest 64-bit number. -/
def maxUInt64 : Nat := 18446744073709551615

/-- The largest 128-bit number. -/
def maxUInt128 : Nat := 340282366920938463463374607431768211455

/-- Reads a decimal 64-bit number. -/
def readUInt64 (s : String) : Except DigitsError UInt64 :=
  (readUnsigned 10 maxUInt64 s.toList).map UInt64.ofNat

end PoolExit.Text
