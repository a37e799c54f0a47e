import FindingsBrowser.Binary64.Rounding
import FindingsBrowser.Binary64.Shortest
import FindingsBrowser.Text.Natural
import FindingsBrowser.Text.Cut

/-! # Plain notation of binary64 numbers — writing and reading

    * `plain` writes the shortest digits that read back, never an exponent and
      no point for whole numbers: `3`, `0.0000001`, `-0`, `NaN`, `inf`.
    * `fixed` writes a given number of places, a half going to the even digit.
    * `read` accepts an optional sign, digits with at most one point, and an
      optional exponent; or `inf`, `infinity` and `nan` in any case. -/

namespace FindingsBrowser.Binary64

open Text

/-! ## Writing -/

/-- A text behind a minus sign where one is due. -/
def withSign (negative : Bool) (s : List Char) : List Char :=
  if negative then '-' :: s else s

/-- Digits placed around the decimal point: `d · 10 ^ exponent` without an
    exponent, as the whole part and the digits after the point. -/
def positional (d : Decimal) : List Char × List Char :=
  let digits := d.digits
  if 0 ≤ d.exponent then (digits ++ List.replicate d.exponent.toNat '0', [])
  else
    let places := (-d.exponent).toNat
    if places < digits.length then
      (digits.take (digits.length - places), digits.drop (digits.length - places))
    else (['0'], List.replicate (places - digits.length) '0' ++ digits)

/-- A whole part and the digits after the point, as one text. -/
def joinPoint (whole fraction : List Char) : List Char :=
  if fraction.isEmpty then whole else whole ++ '.' :: fraction

/-- The name of a number that is not finite. -/
def nameSpecial (x : Binary64) : List Char :=
  if x.isNaN then ['N', 'a', 'N'] else withSign x.negative ['i', 'n', 'f']

/-- Shortest digits in positional notation; a draw goes upward. -/
def plain (x : Binary64) : List Char :=
  if !x.isFinite then x.nameSpecial
  else if x.isZero then withSign x.negative ['0']
  else
    let (whole, fraction) := positional (x.shortest .upward)
    withSign x.negative (joinPoint whole fraction)

/-- A text padded with zeros in front to at least `width` characters. -/
def padZeros (width : Nat) (s : List Char) : List Char :=
  List.replicate (width - s.length) '0' ++ s

/-- The value rounded to `places` digits after the point. -/
def fixed (places : Nat) (x : Binary64) : List Char :=
  if !x.isFinite then x.nameSpecial
  else
    let unit := power 10 places
    let scaled := divNearest (x.ratio.1 * unit) x.ratio.2
    let whole := writeNatural (scaled / unit)
    let fraction :=
      if places = 0 then [] else padZeros places (writeNatural (scaled % unit))
    withSign x.negative (joinPoint whole fraction)

/-! ## Reading -/

/-- An optional sign and the rest. -/
def readSign : List Char → Bool × List Char
  | '-' :: s => (true, s)
  | '+' :: s => (false, s)
  | s => (false, s)

/-- The text before the first `e` or `E`, and the text after it. -/
def cutExponent : List Char → List Char × Option (List Char)
  | [] => ([], none)
  | c :: cs =>
      if c = 'e' ∨ c = 'E' then ([], some cs)
      else
        let (a, b) := cutExponent cs
        (c :: a, b)

/-- The exponent after an `e`: a sign and at least one digit. -/
def readExponent (s : List Char) : Option Int :=
  let (negative, digits) := readSign s
  if digits.isEmpty then none
  else (readDigits 0 digits).map fun n => if negative then -(n : Int) else n

/-- A decimal number without sign and exponent, as a significand and the number
    of digits after the point; at least one digit is needed. -/
def readMantissa (s : List Char) : Option (Nat × Nat) :=
  let (whole, fraction) := (cutFirst '.' s).getD (s, [])
  if whole.isEmpty && fraction.isEmpty then none
  else (readDigits 0 (whole ++ fraction)).map fun n => (n, fraction.length)

/-- A decimal number without sign. -/
def readUnsigned (negative : Bool) (s : List Char) : Option Binary64 := do
  let (mantissa, exponent?) := cutExponent s
  let (significand, places) ← readMantissa mantissa
  let exponent ←
    match exponent? with
    | none => some 0
    | some e => readExponent e
  pure (ofDecimal negative significand (exponent - places))

/-- The number that a text writes. -/
def read (s : List Char) : Option Binary64 :=
  let (negative, s) := readSign s
  let name := String.ofList (s.map Char.toLower)
  if name = "inf" ∨ name = "infinity" then some ⟨negative, infinite⟩
  else if name = "nan" then some ⟨negative, nan.magnitude⟩
  else readUnsigned negative s

end FindingsBrowser.Binary64
