import FindingsBrowser.Binary64.Rounding
import FindingsBrowser.Json.Record
import FindingsBrowser.Table.SortKey

/-! # Cells — what a table shows in a column

    A cell is a number, a text, or a qualifier: a ratio that a row may not have,
    which is not the same as a ratio of zero. -/

namespace FindingsBrowser

open Json

/-- A ratio with the fraction behind it. -/
structure Qualifier where
  available : Bool
  numerator : Binary64
  denominator : Binary64
  ratio : Binary64
  deriving DecidableEq

namespace Qualifier

def notAvailable : Qualifier := ⟨false, .zero, .zero, .zero⟩

/-- The ratio of a fraction, available if the denominator is positive. -/
def ofFraction (numerator denominator : Binary64) : Qualifier :=
  if Binary64.less .zero denominator then
    ⟨true, numerator, denominator, numerator.div denominator⟩
  else notAvailable

/-- The ratio as a whole percentage, rounded down. -/
def percent? (q : Qualifier) : Option Nat :=
  if q.available then
    some ((q.ratio.mul (.ofNat 100)).floorWithin (Text.wordLimit - 1))
  else none

def toJson (q : Qualifier) : Json :=
  .object
    [("available", .bool q.available), ("numerator", .ofBinary64 q.numerator),
      ("denominator", .ofBinary64 q.denominator), ("ratio", .ofBinary64 q.ratio)]

def ofJson? (j : Json) : Option Qualifier := do
  let [available, numerator, denominator, ratio] ←
    record? false ["available", "numerator", "denominator", "ratio"] j | none
  pure
    { available := ← required bool? available
      numerator := ← orDefault .zero binary64? numerator
      denominator := ← orDefault .zero binary64? denominator
      ratio := ← orDefault .zero binary64? ratio }

end Qualifier

/-- A table cell. -/
inductive Cell where
  | number (x : Binary64)
  | text (s : String)
  | qualifier (q : Qualifier)
  deriving DecidableEq

namespace Cell

def sortKey : Cell → SortKey
  | number x => .number x
  | text s => .text s
  | qualifier q => .ratio q.available q.ratio

def toJson : Cell → Json
  | number x => .ofBinary64 x
  | text s => .string s
  | qualifier q => q.toJson

/-- A number, a string, or else a readable qualifier. -/
def ofJson? : Json → Option Cell
  | .number n => n.toBinary64?.map number
  | .string s => some (text s)
  | j => if j.readable then (Qualifier.ofJson? j).map qualifier else none

end Cell

end FindingsBrowser
