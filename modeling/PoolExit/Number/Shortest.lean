import PoolExit.Number.Binary64

/-!
# The shortest decimal text of a number

Of all decimals that round to a given magnitude, the text shows one with the fewest digits, and of
those the nearest; a tie goes to the even digit.  `Decimal.shortest` finds it by looking, for one
digit, two digits and so on, at the two neighbours of the magnitude on that decimal grid.
-/

namespace PoolExit

/-- A decimal magnitude `digits · 10 ^ exponent`. -/
structure Decimal where
  digits : Nat
  exponent : Int
deriving DecidableEq, Repr

namespace Decimal

/-- The decimal as a quotient. -/
def ratio (x : Decimal) : Nat × Nat :=
  if x.exponent < 0 then (x.digits, Nat.pow 10 x.exponent.natAbs)
  else (x.digits * Nat.pow 10 x.exponent.natAbs, 1)

/-- `a / b ≤ c / d`. -/
def atMost (x y : Nat × Nat) : Bool := x.1 * y.2 ≤ y.1 * x.2

/-- `a / b < c / d`. -/
def below (x y : Nat × Nat) : Bool := x.1 * y.2 < y.1 * x.2

/-- The lower and the upper end of the interval of magnitudes that round to `x`. -/
def interval (x : Binary64) : (Nat × Nat) × (Nat × Nat) :=
  let m := x.mantissa
  let quarter := fun (n : Nat) => (⟨n, x.exponent - 2⟩ : Binary64).ratio
  let narrow := m = Nat.pow 2 52 ∧ Binary64.minExponent < x.exponent
  let low := if narrow then 4 * m - 1 else 4 * m - 2
  (quarter low, quarter (4 * m + 2))

/-- A decimal rounds to `x`: it lies in the interval, whose ends belong to it if the mantissa
is even. -/
def roundsTo (x : Binary64) (d : Decimal) : Bool :=
  let (low, high) := interval x
  if x.mantissa % 2 = 0 then atMost low d.ratio && atMost d.ratio high
  else below low d.ratio && below d.ratio high

/-- The exponent of the leading decimal digit of a positive quotient. -/
def leadingExponent (num den : Nat) : Int :=
  if den ≤ num then ((Nat.toDigits 10 (num / den)).length : Int) - 1
  else
    let k := (Nat.toDigits 10 (den / num)).length
    if den ≤ num * Nat.pow 10 (k - 1) then -((k - 1 : Nat) : Int) else -(k : Int)

/-- The two neighbours of a quotient on the grid of multiples of `10 ^ e`. -/
def neighbours (num den : Nat) (e : Int) : Decimal × Decimal :=
  let q := if e < 0 then num * Nat.pow 10 e.natAbs / den else num / (den * Nat.pow 10 e.natAbs)
  (⟨q, e⟩, ⟨q + 1, e⟩)

/-- The nearer of two neighbours, or the even one. -/
def nearer (v : Nat × Nat) (a b : Decimal) : Decimal :=
  -- `v - a` against `b - v`, that is `2 v` against `a + b`, where `a` and `b` share an exponent
  let sum : Decimal := ⟨a.digits + b.digits, a.exponent⟩
  let double := (2 * v.1, v.2)
  if below double sum.ratio then a
  else if below sum.ratio double then b
  else if a.digits % 2 = 0 then a else b

/-- Looks on finer and finer grids, at most `tries` of them, the first of which is `10 ^ e`. -/
def search (x : Binary64) : (tries : Nat) → (e : Int) → Decimal
  | 0, e => (neighbours x.ratio.1 x.ratio.2 e).1
  | tries + 1, e =>
    let (a, b) := neighbours x.ratio.1 x.ratio.2 e
    match roundsTo x a, roundsTo x b with
    | true, true => nearer x.ratio a b
    | true, false => a
    | false, true => b
    | false, false => search x tries (e - 1)

/-- The shortest decimal that rounds to a positive magnitude. -/
def shortest (x : Binary64) : Decimal :=
  search x 17 (leadingExponent x.ratio.1 x.ratio.2)

/-- Moves trailing zeros of the digits, at most `fuel` of them, into the exponent. -/
def normalize : (fuel : Nat) → Decimal → Decimal
  | 0, d => d
  | fuel + 1, d =>
    if d.digits ≠ 0 ∧ d.digits % 10 = 0 then normalize fuel ⟨d.digits / 10, d.exponent + 1⟩ else d

/-- How a decimal is laid out: positional while the exponent of the leading digit lies in the given
range, and in scientific notation outside it. -/
structure Layout where
  minPositional : Int
  maxPositional : Int

/-- The text of a decimal.  Positional texts always have a fraction; in scientific notation
the exponent has a sign and no leading zeros. -/
def text (layout : Layout) (d : Decimal) : String :=
  let digits := Nat.toDigits 10 d.digits
  let lead : Int := d.exponent + digits.length - 1
  if layout.minPositional ≤ lead ∧ lead ≤ layout.maxPositional then
    if lead < 0 then
      "0." ++ String.ofList (List.replicate (lead.natAbs - 1) '0' ++ digits)
    else
      let whole := lead.toNat + 1
      let padded := digits ++ List.replicate (whole - digits.length) '0'
      let fraction := padded.drop whole
      String.ofList (padded.take whole) ++ "."
        ++ (if fraction.isEmpty then "0" else String.ofList fraction)
  else
    let fraction := digits.drop 1
    String.ofList (digits.take 1)
      ++ (if fraction.isEmpty then "" else "." ++ String.ofList fraction)
      ++ "e" ++ (if lead < 0 then "-" else "+") ++ toString lead.natAbs

end Decimal

end PoolExit
