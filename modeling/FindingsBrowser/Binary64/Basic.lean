/-! # Binary64 numbers — sign and magnitude, and the two ways to compare them

    A number is its sign and the other 63 bits read as a natural number. Larger
    magnitudes are larger absolute values; above the magnitude of infinity lie
    the NaNs.

    * `totalCompare` is a total order on representations: negative NaNs first,
      positive NaNs last, and `-0` before `0`.
    * `equal` and `less` are the numeric comparisons: NaN is unequal to itself
      and `-0` equals `0`. -/

namespace FindingsBrowser

/-- A binary floating-point number of 64 bits. -/
structure Binary64 where
  /-- The sign bit. -/
  negative : Bool
  /-- Exponent and fraction bits, as one number. -/
  magnitude : Nat
  deriving DecidableEq

namespace Binary64

/-- The magnitude of infinity; NaNs lie above it. -/
def infinite : Nat := 0x7FF0000000000000

def zero : Binary64 := ⟨false, 0⟩

def infinity : Binary64 := ⟨false, infinite⟩

/-- The NaN with only the first fraction bit set. -/
def nan : Binary64 := ⟨false, 0x7FF8000000000000⟩

instance : Inhabited Binary64 := ⟨zero⟩

/-- The number of the other sign. -/
def neg (x : Binary64) : Binary64 := ⟨!x.negative, x.magnitude⟩

def isNaN (x : Binary64) : Bool := infinite < x.magnitude

def isFinite (x : Binary64) : Bool := x.magnitude < infinite

def isZero (x : Binary64) : Bool := x.magnitude == 0

/-- The number itself if it is finite, and `0` otherwise. -/
def finiteOrZero (x : Binary64) : Binary64 :=
  if x.isFinite then x else zero

/-! ## Comparison -/

/-- A number's place in the total order. -/
def rank (x : Binary64) : Int :=
  if x.negative then -1 - x.magnitude else x.magnitude

/-- The total order on representations. -/
def totalCompare (x y : Binary64) : Ordering :=
  compare x.rank y.rank

/-- Numeric equality. -/
def equal (x y : Binary64) : Bool :=
  !x.isNaN && !y.isNaN && (x == y || (x.isZero && y.isZero))

/-- Numeric order. -/
def less (x y : Binary64) : Bool :=
  !x.isNaN && !y.isNaN && !(x.isZero && y.isZero) && decide (x.rank < y.rank)

/-! ## The value of a finite number -/

/-- A power with an integer exponent, or 1 if the exponent is negative; so a
    factor `base ^ e` of a quotient is `power base e` above the line and
    `power base (-e)` below it. -/
def power (base : Nat) (e : Int) : Nat :=
  Nat.pow base e.toNat

/-- The weight of the first bit of a full significand, `2 ^ 52`. Smaller
    magnitudes are their own significand. -/
def leadingBit : Nat := 0x10000000000000

/-- The integer `m` of the value `m · 2 ^ q`. -/
def significand (x : Binary64) : Nat :=
  if x.magnitude < leadingBit then x.magnitude
  else leadingBit + x.magnitude % leadingBit

/-- The exponent `q` of the value `m · 2 ^ q`. -/
def exponent (x : Binary64) : Int :=
  if x.magnitude < leadingBit then -1074
  else (x.magnitude / leadingBit : Nat) - 1075

/-- Numerator and denominator of the absolute value. -/
def ratio (x : Binary64) : Nat × Nat :=
  (x.significand * power 2 x.exponent, power 2 (-x.exponent))

/-- The largest natural number not above the value; `0` for negative numbers
    and NaN, and at most `limit`. -/
def floorWithin (limit : Nat) (x : Binary64) : Nat :=
  if x.isNaN || x.negative then 0
  else if x.isFinite then min (x.ratio.1 / x.ratio.2) limit
  else limit

/-- Whether the value is a finite whole number. -/
def isWhole (x : Binary64) : Bool :=
  x.isFinite && x.ratio.1 % x.ratio.2 == 0

end Binary64

end FindingsBrowser
