import FindingsBrowser.Row.Cell
import FindingsBrowser.Table.Page

/-! # Rows — named rows of an aggregate table

    A row has a name and at most one cell for each column. Cells are kept in
    ascending order of their column names. -/

namespace FindingsBrowser

open Json

/-- Cells by column, in ascending order of the columns. -/
structure Cells where
  entries : List (String × Cell)
  sorted : entries.Pairwise fun a b => a.1 < b.1
  deriving DecidableEq

namespace Cells

def empty : Cells := ⟨[], .nil⟩

/-- The entries with one more, which replaces an entry of its column. -/
def insertEntry (column : String) (cell : Cell) :
    List (String × Cell) → List (String × Cell)
  | [] => [(column, cell)]
  | (c, x) :: rest =>
      if column < c then (column, cell) :: (c, x) :: rest
      else if column = c then (column, cell) :: rest
      else (c, x) :: insertEntry column cell rest

theorem mem_insertEntry {column : String} {cell : Cell} {entries : List (String × Cell)}
    {e : String × Cell} (h : e ∈ insertEntry column cell entries) :
    e = (column, cell) ∨ e ∈ entries := by
  induction entries with
  | nil => simpa [insertEntry] using h
  | cons head rest ih =>
      simp only [insertEntry] at h
      split at h
      · simpa using h
      · split at h
        · rcases List.mem_cons.mp h with h | h
          · exact .inl h
          · exact .inr (List.mem_cons_of_mem _ h)
        · rcases List.mem_cons.mp h with h | h
          · exact .inr (h ▸ List.mem_cons_self)
          · exact (ih h).imp id (List.mem_cons_of_mem _)

theorem sorted_insertEntry {column : String} {cell : Cell} {entries : List (String × Cell)}
    (h : entries.Pairwise fun a b => a.1 < b.1) :
    (insertEntry column cell entries).Pairwise fun a b => a.1 < b.1 := by
  induction entries with
  | nil => simp [insertEntry]
  | cons head rest ih =>
      obtain ⟨hhead, hrest⟩ := List.pairwise_cons.mp h
      simp only [insertEntry]
      split
      · next hlt =>
          refine List.pairwise_cons.mpr ⟨?_, h⟩
          intro e he
          rcases List.mem_cons.mp he with he | he
          · exact he ▸ hlt
          · exact String.lt_trans hlt (hhead e he)
      · next hnlt =>
          split
          · next heq =>
              refine List.pairwise_cons.mpr ⟨?_, hrest⟩
              intro e he
              exact heq ▸ hhead e he
          · next hne =>
              refine List.pairwise_cons.mpr ⟨?_, ih hrest⟩
              intro e he
              rcases mem_insertEntry he with he | he
              · exact he ▸ Std.lt_of_le_of_ne (String.not_lt.mp hnlt) (Ne.symm hne)
              · exact hhead e he

/-- The cells with one more, which replaces the cell of its column. -/
def insert (cells : Cells) (column : String) (cell : Cell) : Cells :=
  ⟨insertEntry column cell cells.entries, sorted_insertEntry cells.sorted⟩

/-- The cells of a list of entries, the last of a column counting. -/
def ofList (entries : List (String × Cell)) : Cells :=
  entries.foldl (fun cells entry => cells.insert entry.1 entry.2) empty

/-- The cell of a column. -/
def get? (cells : Cells) (column : String) : Option Cell :=
  (cells.entries.find? fun (c, _) => c == column).map Prod.snd

def columns (cells : Cells) : List String :=
  cells.entries.map Prod.fst

def toJson (cells : Cells) : Json :=
  .object (cells.entries.map fun (column, cell) => (column, cell.toJson))

/-- The entry that a field describes. -/
def entryOfJson? (field : String × Json) : Option (String × Cell) :=
  (Cell.ofJson? field.2).map fun cell => (field.1, cell)

/-- The cells of an object, all of whose fields are read. -/
def ofJson? : Json → Option Cells
  | .object fields => (fields.mapM entryOfJson?).map ofList
  | _ => none

end Cells

/-- A row of an aggregate table. -/
structure Row where
  name : String
  cells : Cells
  deriving DecidableEq

namespace Row

/-- The column that shows a row's name. -/
def nameColumn : String := "name"

/-- The sort key of a column; the name column always shows the row's name. -/
def key? (row : Row) (column : String) : Option SortKey :=
  if column = nameColumn then some (.text row.name)
  else (row.cells.get? column).map Cell.sortKey

instance : TableRow Row := ⟨Row.name, key?⟩

def toJson (row : Row) : Json :=
  .object [("name", .string row.name), ("values", row.cells.toJson)]

def ofJson? (j : Json) : Option Row := do
  let [name, cells] ← record? false ["name", "values"] j | none
  pure
    { name := ← required string? name
      cells := ← orDefault .empty Cells.ofJson? cells }

end Row

namespace Page

/-- A page of rows as JSON. -/
def toJson (page : Page Row) : Json :=
  .object
    [("page", .ofNat page.page), ("lastPage", .ofNat page.lastPage),
      ("totalCount", .ofNat page.totalCount), ("data", .array (page.rows.map Row.toJson))]

def ofJson? (j : Json) : Option (Page Row) := do
  let [page, lastPage, totalCount, rows] ←
    record? false ["page", "lastPage", "totalCount", "data"] j | none
  pure
    { page := ← required word? page
      lastPage := ← required word? lastPage
      totalCount := ← required word? totalCount
      rows := ← orDefault [] (list? Row.ofJson?) rows }

end Page

end FindingsBrowser
