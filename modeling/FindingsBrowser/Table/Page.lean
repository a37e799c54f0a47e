import FindingsBrowser.Table.Sorter
import FindingsBrowser.Table.SortKey

/-! # Tables — rows under a sort order, and their pages

    Sorting is stable, with the first sorter as the primary one. Rows without a
    column come after those that have it, whatever the direction. A page number
    outside the table means its first or last page. -/

namespace FindingsBrowser

/-- Rows that can be selected and sorted. -/
class TableRow (ρ : Type) where
  /-- The name that tells a row from the others. -/
  id : ρ → String
  /-- The key of a row in a column, if it has that column. -/
  key? : ρ → String → Option SortKey

/-- A column's order on rows. -/
def Sorter.compareKeys (direction : SortDirection) :
    Option SortKey → Option SortKey → Ordering
  | some a, some b =>
      match direction with
      | .asc => a.order b
      | .desc => (a.order b).swap
  | some _, none => .lt
  | none, some _ => .gt
  | none, none => .eq

section Rows

variable {ρ : Type} [TableRow ρ]

/-- The order of two rows: by the first sorter that tells them apart. -/
def compareRows : List Sorter → ρ → ρ → Ordering
  | [], _, _ => .eq
  | s :: rest, a, b =>
      (Sorter.compareKeys s.direction (TableRow.key? a s.column) (TableRow.key? b s.column)).then
        (compareRows rest a b)

/-- Rows in the order of a list of sorters. -/
def sortRows (sorters : List Sorter) (rows : List ρ) : List ρ :=
  rows.mergeSort fun a b => compareRows sorters a b != .gt

end Rows

/-- One page of rows. -/
structure Page (ρ : Type) where
  /-- The number of the page, from 1; 0 without any rows. -/
  page : Nat
  lastPage : Nat
  totalCount : Nat
  rows : List ρ
  deriving DecidableEq

/-- The page of a table without rows. -/
def Page.empty {ρ : Type} : Page ρ := ⟨0, 0, 0, []⟩

/-- What a page is fetched by. -/
structure PageRequest where
  page : Nat
  pageSize : Nat
  sorters : List Sorter
  deriving DecidableEq

/-- The number of pages of `size` rows that `total` rows take. -/
def pageCount (total size : Nat) : Nat :=
  total / size + (if total % size = 0 then 0 else 1)

/-- The number of the page that a request for `page` means: the nearest one there
    is. -/
def pageNumber (total size page : Nat) : Nat :=
  min (max page 1) (pageCount total size)

/-- The place of the first row of a page. -/
def pageStart (size page : Nat) : Nat :=
  (page - 1) * size

/-- The rows from place `start` on, at most `size` of them. -/
def slice {ρ : Type} (start size : Nat) (rows : List ρ) : List ρ :=
  (rows.drop start).take size

/-- A page of rows as they stand. A page size of 0 counts as 1. -/
def pageOf {ρ : Type} (rows : List ρ) (page pageSize : Nat) : Page ρ :=
  let size := max pageSize 1
  let total := rows.length
  if total = 0 then .empty
  else
    let page := pageNumber total size page
    { page
      lastPage := pageCount total size
      totalCount := total
      rows := slice (pageStart size page) size rows }

/-- A page of rows under a sort order. -/
def queryRows {ρ : Type} [TableRow ρ] (rows : List ρ) (request : PageRequest) : Page ρ :=
  pageOf (sortRows request.sorters rows) request.page request.pageSize

end FindingsBrowser
