/-!
# Punycode

A label of a domain name with characters outside of ASCII is written in ASCII: the ASCII characters
first, then, behind a hyphen, numbers that say where the others go.  Here such a label is read.
-/

namespace PoolExit.Url.Punycode

/-- The value of a digit: the letters are 0 to 25, the decimal digits 26 to 35. -/
def digitValue? (c : Char) : Option Nat :=
  if 'a' ≤ c && c ≤ 'z' then some (c.toNat - 97)
  else if 'A' ≤ c && c ≤ 'Z' then some (c.toNat - 65)
  else if '0' ≤ c && c ≤ '9' then some (c.toNat - 22)
  else none

/-- The threshold of a digit: a digit below it is the last one of a number. -/
def threshold (k bias : Nat) : Nat :=
  if k ≤ bias then 1 else if bias + 26 ≤ k then 26 else k - bias

/-- Divides a number by 35 until it is at most 455, and counts 36 for each division. -/
def settle (delta k : Nat) : Nat × Nat :=
  if 455 < delta then settle (delta / 35) (k + 36) else (delta, k)
termination_by delta
decreasing_by exact Nat.div_lt_self (by omega) (by omega)

/-- The bias for the next number, from the last number and the count of characters so far. -/
def adapt (delta count : Nat) (isFirst : Bool) : Nat :=
  let halved := if isFirst then delta / 700 else delta / 2
  let (rest, k) := settle (halved + halved / count) 0
  k + 36 * rest / (rest + 38)

/-- The bound of all numbers. -/
def bound : Nat := 4294967296

/-- Reads a number on to `sum`, the digits of the least weight first.  Neither the number nor a weight
may reach the bound. -/
def readNumber (bias : Nat) : (k weight sum : Nat) → List Char → Option (Nat × List Char)
  | _, _, _, [] => none
  | k, weight, sum, c :: rest =>
    match digitValue? c with
    | none => none
    | some d =>
      let t := threshold k bias
      let sum := sum + d * weight
      if bound ≤ sum then none
      else if d < t then some (sum, rest)
      else if bound ≤ weight * (36 - t) then none
      else readNumber bias (k + 36) (weight * (36 - t)) sum rest

/-- Puts characters into a text, one for each number. -/
def insertAll : (fuel : Nat) → (bias code place : Nat) → List Char → List Char → Option (List Char)
  | 0, _, _, _, text, rest => if rest.isEmpty then some text else none
  | _ + 1, _, _, _, text, [] => some text
  | fuel + 1, bias, code, place, text, rest =>
    match readNumber bias 36 1 place rest with
    | none => none
    | some (next, rest) =>
      let count := text.length + 1
      let code := code + next / count
      let spot := next % count
      if h : code.isValidChar then
        let text := text.take spot ++ Char.ofNatAux code h :: text.drop spot
        insertAll fuel (adapt (next - place) count (place = 0)) code (spot + 1) text rest
      else none

/-- The text that a label stands for, without the mark at the start of the label. -/
def decode (label : List Char) : Option (List Char) :=
  let basicLength := match label.reverse.findIdx? (· == '-') with
    | some index => label.length - index - 1
    | none => 0
  let basic := label.take basicLength
  let rest := if basicLength = 0 then label else label.drop (basicLength + 1)
  insertAll (rest.length + 1) 72 128 0 basic rest

end PoolExit.Url.Punycode
