import FindingsBrowser.Binary64.Basic

/-! # Shortest decimals — the fewest digits that still name a number

    The real numbers that round to a given number form an interval, closed
    exactly if its significand is even. `shortest` takes the coarsest decimal
    grid with a point in that interval and on it the point nearest to the
    number; `Tie` settles a draw between the two neighbours. -/

namespace FindingsBrowser

/-- Which of two equally near grid points is taken. -/
inductive Tie where
  | upward
  | toEven

/-- A positive decimal number `significand · 10 ^ exponent`. -/
structure Decimal where
  significand : Nat
  exponent : Int

namespace Decimal

/-- The decimal digits of the significand. -/
def digits (d : Decimal) : List Char :=
  Nat.toDigits 10 d.significand

/-- The exponent of the first digit. -/
def leading (d : Decimal) : Int :=
  d.exponent + d.digits.length - 1

end Decimal

namespace Binary64

/-- A number and the ends of the interval that rounds to it, in a common unit. -/
structure Interval where
  low : Nat
  value : Nat
  high : Nat
  closed : Bool

/-- Whether a point, in the same unit, rounds to the number. -/
def Interval.contains (i : Interval) (point : Nat) : Bool :=
  if i.closed then i.low ≤ point && point ≤ i.high
  else i.low < point && point < i.high

/-- The interval of a positive finite number in quarters of `2 ^ q`, times
    `unit`. Just above a power of two the gap below is half as wide. -/
def interval (x : Binary64) (unit : Nat) : Interval :=
  let m := x.significand
  let narrow := m == leadingBit && 2 * leadingBit ≤ x.magnitude
  { low := (4 * m - (if narrow then 1 else 2)) * unit
    value := 4 * m * unit
    high := (4 * m + 2) * unit
    closed := m % 2 == 0 }

/-- The point of the grid of multiples of `10 ^ k` that rounds to `x` and lies
    nearest to it, as a multiple. -/
def gridPoint? (tie : Tie) (x : Binary64) (k : Int) : Option Nat :=
  let q := x.exponent - 2
  let step := power 10 k * power 2 (-q)
  let i := x.interval (power 10 (-k) * power 2 q)
  let below := i.value / step
  match i.contains (below * step), i.contains ((below + 1) * step) with
  | false, false => none
  | true, false => some below
  | false, true => some (below + 1)
  | true, true =>
      let past := i.value - below * step
      if 2 * past < step then some below
      else if step < 2 * past then some (below + 1)
      else
        match tie with
        | .upward => some (below + 1)
        | .toEven => some (if below % 2 = 0 then below else below + 1)

/-- The coarsest grid from `10 ^ k` down, among `n`, that has a point rounding
    to `x`. -/
def searchGrid (tie : Tie) (x : Binary64) : Nat → Int → Decimal
  | 0, k => ⟨x.ratio.1 * power 10 (-k) / x.ratio.2, k⟩
  | n + 1, k =>
      match gridPoint? tie x k with
      | some point => ⟨point, k⟩
      | none => searchGrid tie x n (k - 1)

/-- An exponent `p` with `|x| < 10 ^ p`, from `2 ^ e ≤ |x| < 2 ^ (e + 1)`. -/
def decimalBound (x : Binary64) : Int :=
  (x.exponent + x.significand.log2 + 1) * 30103 / 100000 + 1

/-- The shortest decimal that rounds to a finite number other than zero, without
    trailing zeros in its significand. Twenty grids reach past seventeen digits,
    and seventeen always suffice. -/
def shortest (tie : Tie) (x : Binary64) : Decimal :=
  searchGrid tie x 20 x.decimalBound

end Binary64

end FindingsBrowser
