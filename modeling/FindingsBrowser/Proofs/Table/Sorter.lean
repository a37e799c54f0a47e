import FindingsBrowser.Table.Sorter
import FindingsBrowser.Proofs.Text.Percent

/-! # Sorters — a written sorter is read back

    A sorter is cut at its last colon.  No direction is written with one, so the cut
    is made behind the column, whatever the column holds. -/

namespace FindingsBrowser

open Text

/-- A text with characters is not the empty text. -/
theorem Text.ofList_ne_empty {s : List Char} (h : s ≠ []) : String.ofList s ≠ "" := by
  intro hempty
  rw [← String.toList_eq_nil_iff, String.toList_ofList] at hempty
  exact h hempty

namespace SortDirection

/-- A direction is read from its name. -/
theorem read_name : ∀ direction : SortDirection,
    SortDirection.read direction.name.toList = .ok direction := by
  intro direction
  cases direction with
  | asc => rfl
  | desc => rfl

/-- The name of a direction is written without delimiters. -/
theorem not_mem_name : ∀ direction : SortDirection, ∀ c ∈ Percent.delimiters,
    c ∉ direction.name.toList := by
  intro direction
  cases direction with
  | asc => exact Percent.forall_mem_of_all (by decide)
  | desc => exact Percent.forall_mem_of_all (by decide)

end SortDirection

namespace Sorter

theorem toList_write (s : Sorter) :
    s.write.toList = s.column.toList ++ ':' :: s.direction.name.toList := by
  rw [write, String.toList_append, String.toList_append, List.append_assoc]
  rfl

/-- **A WRITTEN SORTER** is read back if it names a column. -/
theorem read_write {s : Sorter} (h : s.column ≠ "") : read s.write.toList = .ok s := by
  have hcolon : ':' ∉ s.direction.name.toList :=
    SortDirection.not_mem_name s.direction ':' (by decide)
  have hcolumn : s.column.toList.isEmpty = false := by
    rw [List.isEmpty_eq_false_iff]
    exact fun hnil => h (String.toList_eq_nil_iff.mp hnil)
  rw [toList_write, read, cutLast_append _ hcolon]
  dsimp only
  rw [SortDirection.read_name]
  dsimp only
  rw [ofColumn, hcolumn, String.ofList_toList]
  rfl

end Sorter

end FindingsBrowser
