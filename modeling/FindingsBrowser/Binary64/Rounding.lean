import FindingsBrowser.Binary64.Basic

/-! # Rounding to binary64 — the nearest number to an exact quotient

    Every operation computes an exact quotient of natural numbers and rounds it
    once: to the nearest representable number, a tie to the even one, and to
    infinity past the largest. -/

namespace FindingsBrowser

/-- The integer nearest to `num / den`, a half going to the even neighbour. -/
def divNearest (num den : Nat) : Nat :=
  let q := num / den
  let r := num % den
  if den < 2 * r ∨ (den = 2 * r ∧ q % 2 = 1) then q + 1 else q

namespace Binary64

/-- The exponent `e` with `2 ^ e ≤ num / den < 2 ^ (e + 1)`, for positive
    arguments. -/
def binaryExponent (num den : Nat) : Int :=
  let e : Int := num.log2 - den.log2
  if num * power 2 (-e) < den * power 2 e then e - 1 else e

/-- The magnitude nearest to `num / den`. A significand that rounds up to
    `2 ^ 53` carries into the exponent bits. -/
def nearestMagnitude (num den : Nat) : Nat :=
  if num = 0 then 0
  else
    let q : Int := max (binaryExponent num den - 52) (-1074)
    let m := divNearest (num * power 2 (-q)) (den * power 2 q)
    min ((q + 1074).toNat * leadingBit + m) infinite

/-- The number nearest to `±num / den`. -/
def nearest (negative : Bool) (num den : Nat) : Binary64 :=
  ⟨negative, nearestMagnitude num den⟩

/-- The number nearest to a natural number. -/
def ofNat (n : Nat) : Binary64 :=
  nearest false n 1

/-- The number nearest to `±significand · 10 ^ exponent`. Texts with very many
    digits are settled without forming the power: below `10 ^ -330` every value
    rounds to zero, and from `10 ^ 310` on to infinity. -/
def ofDecimal (negative : Bool) (significand : Nat) (exponent : Int) : Binary64 :=
  let top := ((Nat.toDigits 10 significand).length : Int) + exponent
  if significand = 0 ∨ top < -330 then ⟨negative, 0⟩
  else if 310 < top then ⟨negative, infinite⟩
  else nearest negative (significand * power 10 exponent) (power 10 (-exponent))

/-- The power of ten nearest to `10 ^ n`. -/
def powerOfTen (n : Nat) : Binary64 :=
  ofDecimal false 1 n

/-- The product. -/
def mul (x y : Binary64) : Binary64 :=
  let negative := x.negative != y.negative
  if x.isNaN || y.isNaN then nan
  else if x.isFinite && y.isFinite then
    nearest negative (x.ratio.1 * y.ratio.1) (x.ratio.2 * y.ratio.2)
  else if x.isZero || y.isZero then nan
  else ⟨negative, infinite⟩

/-- The quotient. -/
def div (x y : Binary64) : Binary64 :=
  let negative := x.negative != y.negative
  if x.isNaN || y.isNaN then nan
  else if x.isFinite && y.isFinite then
    if !y.isZero then nearest negative (x.ratio.1 * y.ratio.2) (x.ratio.2 * y.ratio.1)
    else if x.isZero then nan
    else ⟨negative, infinite⟩
  else if y.isFinite then ⟨negative, infinite⟩
  else if x.isFinite then ⟨negative, 0⟩
  else nan

end Binary64

end FindingsBrowser
