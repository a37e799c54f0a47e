import FindingsBrowser.Text.Natural

/-! # Dates and times — which texts write one

    * A date is `1979-05-27`, and the day must be one of the calendar.
    * A time is `07:32`, with seconds and a fraction of them if they are wanted;
      a sixtieth second is allowed for.
    * A date may be followed by `T` or a blank and a time, and the time then by
      `Z` or by its distance from it. -/

namespace FindingsBrowser.Toml

open Text

/-- The number that a run of exactly `width` digits writes, and the text after
    it. -/
def readField (width : Nat) (s : List Char) : Option (Nat × List Char) :=
  let digits := s.takeWhile Char.isDigit
  if digits.length = width then (readDigits 0 digits).map fun n => (n, s.drop width) else none

/-- The text after a character that has to come first. -/
def expect (c : Char) : List Char → Option (List Char)
  | [] => none
  | d :: s => if d = c then some s else none

/-- The number of days of a month. -/
def daysIn (year month : Nat) : Nat :=
  if month = 2 then
    if year % 4 = 0 ∧ (year % 100 ≠ 0 ∨ year % 400 = 0) then 29 else 28
  else if month ∈ [4, 6, 9, 11] then 30
  else 31

/-- The text after a date. -/
def afterDate? (s : List Char) : Option (List Char) := do
  let (year, s) ← readField 4 s
  let (month, s) ← readField 2 (← expect '-' s)
  let (day, s) ← readField 2 (← expect '-' s)
  if 1 ≤ month ∧ month ≤ 12 ∧ 1 ≤ day ∧ day ≤ daysIn year month then some s else none

/-- The text after an hour and a minute. -/
def afterMinute? (s : List Char) : Option (List Char) := do
  let (hour, s) ← readField 2 s
  let (minute, s) ← readField 2 (← expect ':' s)
  if hour < 24 ∧ minute < 60 then some s else none

/-- The text after a second and, if a point follows, the digits behind it. -/
def afterSecond? (s : List Char) : Option (List Char) := do
  let (second, s) ← readField 2 s
  if 60 < second then none
  else
    match s with
    | '.' :: s => if s.head?.any Char.isDigit then some (s.dropWhile Char.isDigit) else none
    | s => some s

/-- The text after a time of day. -/
def afterTime? (s : List Char) : Option (List Char) := do
  match ← afterMinute? s with
  | ':' :: s => afterSecond? s
  | s => some s

/-- Whether a text writes the place of a time on the globe, or nothing. -/
def isOffset : List Char → Bool
  | [] => true
  | c :: s =>
      if c = 'Z' ∨ c = 'z' then s.isEmpty
      else if c = '+' ∨ c = '-' then afterMinute? s == some []
      else false

/-- Whether a text writes a date, a time, or both. -/
def isMoment (s : List Char) : Bool :=
  match afterDate? s with
  | none => afterTime? s == some []
  | some [] => true
  | some (c :: s) => (c == 'T' || c == 't' || c == ' ') && (afterTime? s).any isOffset

end FindingsBrowser.Toml
