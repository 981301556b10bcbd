/-!
# Numbers in 64-bit binary floating point

A finite magnitude is `mantissa · 2 ^ exponent`.  `Binary64.nearest` rounds a quotient of natural
numbers to the nearest such number, a tie to the even mantissa; products and quotients of two of them
are rounded the same way.  Everything is exact arithmetic on natural numbers.
-/

namespace PoolExit

/-- A finite magnitude in 64-bit binary floating point: the mantissa is below `2 ^ 53`, and at least
`2 ^ 52` unless the exponent is the smallest one. -/
structure Binary64 where
  mantissa : Nat
  exponent : Int
deriving DecidableEq, Repr

namespace Binary64

/-- The smallest exponent. -/
def minExponent : Int := -1074

/-- The largest exponent. -/
def maxExponent : Int := 971

/-- Zero. -/
def zero : Binary64 := ⟨0, minExponent⟩

/-- A quotient rounded to the nearest natural number, a tie to the even one. -/
def roundHalfEven (num den : Nat) : Nat :=
  let q := num / den
  let r := num % den
  if den < 2 * r ∨ (den = 2 * r ∧ q % 2 = 1) then q + 1 else q

/-- The two parts of `num / den · 2 ^ (-e)` as natural numbers. -/
def scaled (num den : Nat) (e : Int) : Nat × Nat :=
  if e < 0 then (num * Nat.pow 2 e.natAbs, den) else (num, den * Nat.pow 2 e.natAbs)

/-- The exponent at which the mantissa of `num / den` has 53 binary digits, or the smallest one. -/
def exponentOf (num den : Nat) : Int :=
  let e := (num.log2 : Int) - (den.log2 : Int) - 53
  let (n, d) := scaled num den e
  max minExponent (if n / d < Nat.pow 2 53 then e else e + 1)

/-- The magnitude nearest to `num / den`; `none` where that is beyond the largest finite one. -/
def nearest (num den : Nat) : Option Binary64 :=
  if num = 0 then some zero
  else
    let e := exponentOf num den
    let (n, d) := scaled num den e
    let m := roundHalfEven n d
    let (m, e) := if m = Nat.pow 2 53 then (Nat.pow 2 52, e + 1) else (m, e)
    if maxExponent < e then none else some ⟨m, e⟩

/-- The magnitude as a quotient. -/
def ratio (x : Binary64) : Nat × Nat :=
  if x.exponent < 0 then (x.mantissa, Nat.pow 2 x.exponent.natAbs)
  else (x.mantissa * Nat.pow 2 x.exponent.natAbs, 1)

/-- The rounded product. -/
def times (x y : Binary64) : Option Binary64 :=
  nearest (x.ratio.1 * y.ratio.1) (x.ratio.2 * y.ratio.2)

/-- The rounded quotient. -/
def dividedBy (x y : Binary64) : Option Binary64 :=
  nearest (x.ratio.1 * y.ratio.2) (x.ratio.2 * y.ratio.1)

/-- The exponent of the largest finite power of ten. -/
def maxPowerOfTen : Nat := 308

/-- The magnitude nearest to a power of ten, if that is finite. -/
def powerOfTen (k : Nat) : Option Binary64 :=
  if k ≤ maxPowerOfTen then nearest (Nat.pow 10 k) 1 else none

end Binary64

end PoolExit
