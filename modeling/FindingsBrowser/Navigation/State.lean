import FindingsBrowser.Binary64.Notation
import FindingsBrowser.Table.Sorter
import FindingsBrowser.Text.Percent

/-! # Navigation state — what a list keeps in the URL

    Page, sort order, selected row and scroll position are written as

        page=2&sort=ratio:desc,name:asc&selected=recipeA&scrollX=0&scrollY=120.5

    with columns and row names percent-encoded. Reading is lenient: unknown
    keys are skipped, the last of several equal keys counts, and a malformed
    value means the default. -/

namespace FindingsBrowser

open Text

/-- The state of a list that survives leaving it. -/
structure ListState where
  /-- Page number, from 1. -/
  page : Nat := 1
  sorters : List Sorter := []
  selected : Option String := none
  scrollX : Binary64 := .zero
  scrollY : Binary64 := .zero
  deriving DecidableEq

namespace ListState

/-- Numeric equality of the scroll offsets, and equality of all else. -/
def same (a b : ListState) : Bool :=
  a.page == b.page && a.sorters == b.sorters && a.selected == b.selected &&
    a.scrollX.equal b.scrollX && a.scrollY.equal b.scrollY

/-- A state with a sort order: `default` where it has none. -/
def withDefault (default : Sorter) (s : ListState) : ListState :=
  if s.sorters.isEmpty then { s with sorters := [default] } else s

/-! ## Writing -/

/-- A key and its value. -/
def writePair (key : String) (value : List Char) : List Char :=
  key.toList ++ '=' :: value

/-- One entry of a sort order. -/
def writeSorter (s : Sorter) : List Char :=
  Percent.encode s.column.toList ++ ':' :: s.direction.name.toList

/-- The pairs of a state. -/
def pairs (s : ListState) : List (List Char) :=
  [writePair "page" (writeNatural (max s.page 1))] ++
    (if s.sorters.isEmpty then []
     else [writePair "sort" (List.intercalate [','] (s.sorters.map writeSorter))]) ++
    (match s.selected with
     | none => []
     | some row => [writePair "selected" (Percent.encode row.toList)]) ++
    [writePair "scrollX" s.scrollX.finiteOrZero.plain,
      writePair "scrollY" s.scrollY.finiteOrZero.plain]

/-- The query text of a state, without `?`. -/
def write (s : ListState) : List Char :=
  List.intercalate ['&'] s.pairs

/-! ## Reading -/

/-- A percent-encoded value in which `+` is a space. -/
def decodeValue? (s : List Char) : Option (List Char) :=
  Percent.decode? (Percent.plusToSpace s)

/-- One entry of a sort order, if it names a column. -/
def readSorter? (piece : List Char) : Option Sorter := do
  let (column, direction) ←
    match cutLast ':' piece with
    | none => some (piece, SortDirection.asc)
    | some (column, direction) =>
        match SortDirection.read direction with
        | .ok direction => some (column, direction)
        | .error _ => none
  let column ← decodeValue? column
  if column.isEmpty then none else some ⟨String.ofList column, direction⟩

/-- The entries of a sort order that can be read. -/
def readSorters (s : List Char) : List Sorter :=
  (s.splitOn ',').filterMap fun piece => if piece.isEmpty then none else readSorter? piece

/-- A page number, at least 1. -/
def readPage (s : List Char) : Nat :=
  max ((readNatural wordLimit s).getD 1) 1

/-- A finite scroll offset. -/
def readOffset (s : List Char) : Binary64 :=
  ((Binary64.read s).getD .zero).finiteOrZero

/-- The key and the value of a pair; without `=` the value is empty. -/
def cutPair (pair : List Char) : List Char × List Char :=
  (cutFirst '=' pair).getD (pair, [])

/-- The state with one pair taken in, if its key is known. -/
def setPair? (s : ListState) (key : String) (value : List Char) : Option ListState :=
  match key with
  | "page" => some { s with page := readPage value }
  | "sort" => some { s with sorters := readSorters value }
  | "selected" => some { s with selected := (decodeValue? value).map String.ofList }
  | "scrollX" => some { s with scrollX := readOffset value }
  | "scrollY" => some { s with scrollY := readOffset value }
  | _ => none

/-- Taking in pairs one after another; `none` until one has been known. -/
def readPairs : Option ListState → List (List Char) → Option ListState
  | s, [] => s
  | s, pair :: rest =>
      let (key, value) := cutPair pair
      match (s.getD {}).setPair? (String.ofList key) value with
      | some next => readPairs (some next) rest
      | none => readPairs s rest

/-- The pairs of a query text or of a full URL. -/
def queryPairs (query : List Char) : List (List Char) :=
  let query := before '#' query
  let query :=
    match cutFirst '?' query with
    | some (_, rest) => rest
    | none => query
  (query.splitOn '&').filter fun pair => !pair.isEmpty

/-- The state that a query text carries; `none` if it holds no key of a
    state. -/
def read? (query : List Char) : Option ListState :=
  readPairs none (queryPairs query)

/-- The state that a query text carries, with `default` for a missing sort
    order. -/
def read (default : Sorter) (query : List Char) : ListState :=
  ((read? query).getD {}).withDefault default

end ListState

end FindingsBrowser
