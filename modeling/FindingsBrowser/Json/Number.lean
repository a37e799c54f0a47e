import FindingsBrowser.Binary64.Notation

/-! # JSON numbers — the digits as written, and the values they stand for

    A number keeps its digits, so that whole numbers of 64 bits stay exact.

    * `natural?` reads a number without sign, fraction and exponent.
    * `toBinary64?` keeps digits while they fit into 64 bits, drops the others,
      and scales the rounded significand by a power of ten.
    * `ofBinary64` writes the shortest digits, with an exponent for numbers
      below `10 ^ -5` or from `10 ^ 16` on, and always with a fraction or an
      exponent. -/

namespace FindingsBrowser.Json

open Text

/-- A number literal. -/
structure Number where
  negative : Bool
  whole : Nat
  /-- The digits after the point. -/
  fraction : List Char
  exponent : Option Int

namespace Number

/-- A natural number, written. -/
def ofNat (n : Nat) : Number := ⟨false, n, [], none⟩

/-- The natural number below `limit` that a literal writes. -/
def natural? (limit : Nat) (n : Number) : Option Nat :=
  if n.negative || !n.fraction.isEmpty || n.exponent.isSome then none
  else if n.whole < limit then some n.whole
  else none

/-! ## Reading as binary64 -/

/-- The significand after as many digits as fit into 64 bits, and the digits
    that are left. -/
def absorb (acc : Nat) : List Char → Nat × List Char
  | [] => (acc, [])
  | c :: cs =>
      let next := acc * 10 + (digitValue? c).getD 0
      if next < wordLimit then absorb next cs else (acc, c :: cs)

/-- A number times a power of ten; `none` past the largest number. Powers beyond
    `10 ^ 308` are applied in steps. -/
def scale (x : Binary64) (exponent : Int) : Option Binary64 :=
  if exponent < -308 then
    if x.isZero then some x
    else scale (x.div (Binary64.powerOfTen 308)) (exponent + 308)
  else if exponent < 0 then some (x.div (Binary64.powerOfTen (-exponent).toNat))
  else if exponent ≤ 308 then
    let y := x.mul (Binary64.powerOfTen exponent.toNat)
    if y.isFinite then some y else none
  else if x.isZero then some x
  else none
termination_by (-exponent).toNat
decreasing_by omega

/-- The value of a literal. -/
def toBinary64? (n : Number) : Option Binary64 :=
  let (acc, dropped) := absorb 0 (writeNatural n.whole)
  let (acc, left) := absorb acc n.fraction
  let places : Int := dropped.length - (n.fraction.length - left.length : Nat)
  (scale (Binary64.ofNat acc) (places + n.exponent.getD 0)).map fun x =>
    if n.negative then x.neg else x

/-! ## Writing binary64 -/

/-- The shortest digits of a positive finite number; a draw goes to the even
    digit. -/
def ofShortest (d : Decimal) : Number :=
  if -5 ≤ d.leading ∧ d.leading < 16 then
    let (whole, fraction) := Binary64.positional d
    { negative := false
      whole := (readDigits 0 whole).getD 0
      fraction := if fraction.isEmpty then ['0'] else fraction
      exponent := none }
  else
    { negative := false
      whole := (readDigits 0 (d.digits.take 1)).getD 0
      fraction := d.digits.drop 1
      exponent := some d.leading }

/-- A finite number, written. -/
def ofBinary64 (x : Binary64) : Number :=
  let n := if x.isZero then ⟨false, 0, ['0'], none⟩ else ofShortest (x.shortest .toEven)
  { n with negative := x.negative }

end Number

end FindingsBrowser.Json
