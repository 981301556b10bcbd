import PoolExit.Text.Digits

/-!
# Hexadecimal text of bytes

Two digits a byte, high half first.
-/

namespace PoolExit.Text

/-- The bytes of a text of hexadecimal digit pairs. -/
def hexBytes? : List Char → Option (List UInt8)
  | [] => some []
  | [_] => none
  | a :: b :: rest => do
    let high ← digitValue? 16 a
    let low ← digitValue? 16 b
    let bytes ← hexBytes? rest
    return UInt8.ofNat (high * 16 + low) :: bytes

/-- The lower-case hexadecimal digit of a value below sixteen. -/
def hexDigit (n : Nat) : Char :=
  if n < 10 then Char.ofNat (48 + n) else Char.ofNat (87 + n)

/-- A number in lower-case hexadecimal, with at least `width` digits. -/
def hexPadded (width n : Nat) : String :=
  let digits := (Nat.toDigits 16 n).map fun c => c.toLower
  String.ofList (List.replicate (width - digits.length) '0' ++ digits)

end PoolExit.Text
