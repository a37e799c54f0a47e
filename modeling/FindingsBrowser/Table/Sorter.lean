import FindingsBrowser.Json.Record
import FindingsBrowser.Text.Cut

/-! # Sorters — one column of a sort order and its direction

    A sorter is written `column:asc` or `column:desc`; the direction may be
    left out and is read in any ASCII case. Since the cut is made at the last
    colon, a column may hold colons itself. No text names an empty column. -/

namespace FindingsBrowser

open Json Text

/-- Ascending or descending. -/
inductive SortDirection where
  | asc
  | desc
  deriving DecidableEq

namespace SortDirection

def name : SortDirection → String
  | asc => "asc"
  | desc => "desc"

/-- The direction with exactly this name. -/
def ofName? (s : String) : Option SortDirection :=
  [asc, desc].find? fun direction => direction.name == s

end SortDirection

/-- Why a text is no sorter. -/
inductive SorterError where
  /-- The direction is unknown; it is quoted in lower case. -/
  | unknownDirection (lowered : String)
  | emptyColumn (text : String)
  deriving DecidableEq

def SorterError.message : SorterError → String
  | unknownDirection lowered => "unknown sort direction '" ++ lowered ++ "'"
  | emptyColumn text => "empty sort column in '" ++ text ++ "'"

/-- The direction a text names in any ASCII case. -/
def SortDirection.read (s : List Char) : Except SorterError SortDirection :=
  let lowered := String.ofList (s.map Char.toLower)
  match ofName? lowered with
  | some direction => .ok direction
  | none => .error (.unknownDirection lowered)

/-- A column and the direction it is sorted in. -/
structure Sorter where
  column : String
  direction : SortDirection
  deriving DecidableEq

namespace Sorter

def ascending (column : String) : Sorter := ⟨column, .asc⟩

/-- A sorter, written. -/
def write (s : Sorter) : String :=
  s.column ++ ":" ++ s.direction.name

/-- The sorter of a column and a direction read before. -/
def ofColumn (text column : List Char) (direction : SortDirection) :
    Except SorterError Sorter :=
  if column.isEmpty then .error (.emptyColumn (String.ofList text))
  else .ok ⟨String.ofList column, direction⟩

/-- The sorter that a text writes. -/
def read (text : List Char) : Except SorterError Sorter :=
  match cutLast ':' text with
  | none => ofColumn text text .asc
  | some (column, direction) =>
      match SortDirection.read direction with
      | .error e => .error e
      | .ok direction => ofColumn text column direction

def toJson (s : Sorter) : Json :=
  .object [("column", .string s.column), ("direction", .string s.direction.name)]

def ofJson? (j : Json) : Option Sorter := do
  let [column, direction] ← record? false ["column", "direction"] j | none
  pure
    { column := ← required string? column
      direction := ← required (choice? SortDirection.ofName?) direction }

end Sorter

end FindingsBrowser
