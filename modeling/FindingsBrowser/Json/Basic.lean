import FindingsBrowser.Json.Number

/-! # JSON values — as they are written

    Objects keep their fields in the order and with the repetitions of the text,
    since a repeated field is an error for some readers and overrides for
    others. -/

namespace FindingsBrowser

/-- A JSON value. -/
inductive Json where
  | null
  | bool (b : Bool)
  | number (n : Json.Number)
  | string (s : String)
  | array (items : List Json)
  | object (fields : List (String × Json))
  /-- A well-formed value that stands for nothing: a string with an unpaired
      surrogate, a number past the largest binary64, or a list or object nested
      too deep. It may only stand where nobody looks at it. -/
  | unreadable

namespace Json

/-- A natural number. -/
def ofNat (n : Nat) : Json := .number (.ofNat n)

/-- A binary64 number; one that is not finite has no literal and becomes
    `null`. -/
def ofBinary64 (x : Binary64) : Json :=
  if x.isFinite then .number (.ofBinary64 x) else .null

/-! ## Values without unreadable parts -/

mutual

/-- Whether every part of a value is readable. -/
def readable : Json → Bool
  | .unreadable => false
  | .array items => readableItems items
  | .object fields => readableFields fields
  | _ => true

/-- Whether every item is readable. -/
def readableItems : List Json → Bool
  | [] => true
  | j :: js => readable j && readableItems js

/-- Whether every field is readable. -/
def readableFields : List (String × Json) → Bool
  | [] => true
  | (_, j) :: fs => readable j && readableFields fs

end

end Json

end FindingsBrowser
