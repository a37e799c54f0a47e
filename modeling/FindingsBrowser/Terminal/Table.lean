import FindingsBrowser.Navigation.ListView
import FindingsBrowser.Row.Basic
import FindingsBrowser.Terminal.Style

/-! # Tables on the terminal — aligned columns with a header and a footer

    The name column comes first, the others in ascending order. Every cell is
    filled up to the width of its column, counted in characters, which has to
    fit in 16 bits. -/

namespace FindingsBrowser.Terminal

/-- A number as text. -/
def plainText (x : Binary64) : String :=
  String.ofList x.plain

/-- A cell as text: whole numbers without places, others with two, and a
    qualifier as its percentage with the fraction behind it. -/
def formatCell : Cell → String
  | .number x => String.ofList (x.fixed (if x.isWhole then 0 else 2))
  | .text s => s
  | .qualifier q =>
      match q.percent? with
      | some percent =>
          toString percent ++ "% (" ++ plainText q.numerator ++ "/" ++
            plainText q.denominator ++ ")"
      | none => "N/A"

/-- The columns found so far, and behind them another one unless it is among them. -/
def noteColumn (found : List String) (column : String) : List String :=
  if found.contains column then found else found ++ [column]

/-- The columns of some rows in the order in which they are found, the name column
    first. -/
def foundColumns (rows : List Row) : List String :=
  rows.foldl (fun found row => row.cells.columns.foldl noteColumn found) [Row.nameColumn]

/-- The columns of some rows: the one found first, and the others in ascending order. -/
def columns (rows : List Row) : List String :=
  let found := foundColumns rows
  found.take 1 ++ (found.drop 1).mergeSort (· ≤ ·)

/-- What a row shows in a column. -/
def cellText (row : Row) (column : String) : String :=
  if column = Row.nameColumn then row.name
  else
    match row.cells.get? column with
    | some cell => formatCell cell
    | none => ""

/-- The width of a column over some rows. -/
def columnWidth (rows : List Row) (column : String) : Nat :=
  rows.foldl (fun width row => max width (cellText row column).length) column.length

/-- Texts side by side, each filled up to its width. -/
def joinCells (cells : List (Nat × String)) : String :=
  "  ".intercalate (cells.map fun (width, s) => padRight width s)

/-- The columns of some rows with their widths. -/
def layout (rows : List Row) : List (String × Nat) :=
  (columns rows).map fun column => (column, columnWidth rows column)

/-- The header line, before styling. -/
def headerText (layout : List (String × Nat)) : String :=
  joinCells (layout.map fun (column, width) => (width, column))

/-- A row's line, before styling. -/
def rowText (layout : List (String × Nat)) (row : Row) : String :=
  joinCells (layout.map fun (column, width) => (width, cellText row column))

/-- A row's line; the selected row is marked. -/
def renderRow (layout : List (String × Nat)) (selected : Option String) (row : Row) : String :=
  let text := rowText layout row
  if selected = some row.name then
    styled .bold (styled .cyan ">") ++ " " ++ styled .cyan text ++ "\n"
  else "  " ++ text ++ "\n"

/-- The line below a table. -/
def footerText (list : ListView Row) : String :=
  let page := list.shown
  "page " ++ toString page.page ++ " of " ++ toString page.lastPage ++ " (" ++
    toString page.totalCount ++ " rows), sorted by " ++
    ",".intercalate (list.state.sorters.map Sorter.write)

/-- The width from which on a text cannot be filled up. -/
def widthLimit : Nat := 0x10000

/-- The page a list shows. There is none if a column is too wide to be filled
    up. -/
def renderPage (list : ListView Row) : Option String :=
  let rows := list.shown.rows
  if rows.isEmpty then some (styled .dimmed "No rows" ++ "\n")
  else
    let layout := layout rows
    if layout.any fun (_, width) => widthLimit ≤ width then none
    else
      some
        ("  " ++ styled .bold (headerText layout) ++ "\n" ++
          String.join (rows.map (renderRow layout list.state.selected)) ++
          "\n" ++ styled .dimmed (footerText list) ++ "\n")

end FindingsBrowser.Terminal
