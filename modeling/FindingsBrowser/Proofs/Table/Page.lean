import FindingsBrowser.Table.Page

/-! # Pages — where a page number lands

    The number of a page is the wanted one, moved into the table; asking for the
    number a page came with gives the same page again.  A page of a table that has
    rows is never without one (`laidOut_queryRows`). -/

namespace FindingsBrowser

/-! ## Page numbers -/

/-- A table that has rows has a page. -/
theorem one_le_pageCount {total size : Nat} (htotal : 0 < total) (hsize : 0 < size) :
    1 ≤ pageCount total size := by
  rw [pageCount]
  split
  · case _ hmod =>
      have hdiv : size ≤ total := Nat.le_of_dvd htotal (Nat.dvd_of_mod_eq_zero hmod)
      exact Nat.le_trans (Nat.div_pos hdiv hsize) (Nat.le_add_right _ _)
  · exact Nat.le_add_left 1 _

/-- There are no more pages than rows. -/
theorem pageCount_le {total size : Nat} (hsize : 0 < size) : pageCount total size ≤ total := by
  have hdiv : total / size ≤ total := Nat.div_le_self total size
  rw [pageCount]
  split
  · exact hdiv
  · case _ hmod =>
      -- a remainder leaves a row that no full page holds
      have hsplit := Nat.div_add_mod total size
      have hmul : total / size ≤ size * (total / size) := Nat.le_mul_of_pos_left _ hsize
      omega

/-- The number of a page lies in the table. -/
theorem pageNumber_bounds {total size : Nat} (htotal : 0 < total) (hsize : 0 < size)
    (page : Nat) :
    1 ≤ pageNumber total size page ∧ pageNumber total size page ≤ pageCount total size := by
  have hcount := one_le_pageCount htotal hsize
  rw [pageNumber]
  omega

/-- A number in the table is the number of its page. -/
theorem pageNumber_of_bounds {total size page : Nat} (hlow : 1 ≤ page)
    (hhigh : page ≤ pageCount total size) : pageNumber total size page = page := by
  rw [pageNumber]
  omega

/-- The first row of a page of the table lies in the table. -/
theorem pageStart_lt {total size page : Nat} (hsize : 0 < size) (hlow : 1 ≤ page)
    (hhigh : page ≤ pageCount total size) : pageStart size page < total := by
  have hfull : total / size * size ≤ total := Nat.div_mul_le_self total size
  rw [pageStart]
  rw [pageCount] at hhigh
  split at hhigh
  · case _ hmod =>
      rw [Nat.add_zero] at hhigh
      calc (page - 1) * size < page * size :=
            Nat.mul_lt_mul_of_pos_right (Nat.sub_lt hlow Nat.one_pos) hsize
        _ ≤ total / size * size := Nat.mul_le_mul_right size hhigh
        _ ≤ total := hfull
  · case _ hmod =>
      -- the pages before this one are full, and a remainder is left
      have hprev : (page - 1) * size ≤ total / size * size :=
        Nat.mul_le_mul_right size (Nat.sub_le_of_le_add hhigh)
      have hsplit := Nat.div_add_mod' total size
      omega

/-! ## Pages of rows -/

section Rows

variable {ρ : Type}

/-- The page of a table that has rows. -/
theorem pageOf_of_ne_nil {rows : List ρ} (h : rows ≠ []) (page pageSize : Nat) :
    pageOf rows page pageSize =
      { page := pageNumber rows.length (max pageSize 1) page
        lastPage := pageCount rows.length (max pageSize 1)
        totalCount := rows.length
        rows := slice (pageStart (max pageSize 1)
          (pageNumber rows.length (max pageSize 1) page)) (max pageSize 1) rows } :=
  if_neg fun hlength => h (List.length_eq_zero_iff.mp hlength)

/-- The number of the page of a table that has rows. -/
theorem page_pageOf_bounds {rows : List ρ} (h : rows ≠ []) (page pageSize : Nat) :
    1 ≤ (pageOf rows page pageSize).page
      ∧ (pageOf rows page pageSize).page ≤ pageCount rows.length (max pageSize 1) := by
  rw [pageOf_of_ne_nil h]
  exact pageNumber_bounds (List.length_pos_iff.mpr h) (Nat.le_max_right _ _) page

/-- **THE SAME PAGE AGAIN**: the number a page came with asks for that page. -/
theorem pageOf_page (rows : List ρ) (page pageSize : Nat) :
    pageOf rows
        (if 1 ≤ (pageOf rows page pageSize).page then (pageOf rows page pageSize).page else page)
        pageSize
      = pageOf rows page pageSize := by
  cases rows with
  | nil => rfl
  | cons row rest =>
      have hne : row :: rest ≠ [] := List.cons_ne_nil row rest
      obtain ⟨hlow, hhigh⟩ := page_pageOf_bounds hne page pageSize
      rw [if_pos hlow, pageOf_of_ne_nil hne (pageOf (row :: rest) page pageSize).page,
        pageNumber_of_bounds hlow hhigh, pageOf_of_ne_nil hne page]

theorem length_slice (start size : Nat) (rows : List ρ) :
    (slice start size rows).length = min size (rows.length - start) := by
  rw [slice, List.length_take, List.length_drop]

/-- A page as tables have them: the one without rows, or one of the table's pages
    with one to `size` rows. -/
def Page.LaidOut (size : Nat) (page : Page ρ) : Prop :=
  page = .empty ∨
    (1 ≤ page.page ∧ page.page ≤ page.lastPage
      ∧ 1 ≤ page.rows.length ∧ page.rows.length ≤ size)

/-- **EVERY PAGE OF A TABLE** is laid out. -/
theorem laidOut_pageOf (rows : List ρ) (page pageSize : Nat) :
    (pageOf rows page pageSize).LaidOut (max pageSize 1) := by
  cases rows with
  | nil => exact Or.inl rfl
  | cons row rest =>
      have hne : row :: rest ≠ [] := List.cons_ne_nil row rest
      have hsize : 0 < max pageSize 1 := Nat.le_max_right _ _
      obtain ⟨hlow, hhigh⟩ := pageNumber_bounds (List.length_pos_iff.mpr hne) hsize page
      have hstart := pageStart_lt hsize hlow hhigh
      rw [pageOf_of_ne_nil hne]
      refine Or.inr ⟨hlow, hhigh, ?_, ?_⟩
      · show 1 ≤ (slice _ _ _).length
        rw [length_slice]
        omega
      · show (slice _ _ _).length ≤ _
        rw [length_slice]
        exact Nat.min_le_left _ _

end Rows

/-! ## Pages under a sort order -/

section Sorted

variable {ρ : Type} [TableRow ρ]

theorem length_sortRows (sorters : List Sorter) (rows : List ρ) :
    (sortRows sorters rows).length = rows.length :=
  List.length_mergeSort rows

/-- A page that holds a row has a number from 1 to the number of rows. -/
theorem page_queryRows_bounds {rows : List ρ} {request : PageRequest} {row : ρ}
    (h : row ∈ (queryRows rows request).rows) :
    1 ≤ (queryRows rows request).page ∧ (queryRows rows request).page ≤ rows.length := by
  have hne : sortRows request.sorters rows ≠ [] := by
    intro hnil
    rw [queryRows, hnil] at h
    exact absurd h List.not_mem_nil
  obtain ⟨hlow, hhigh⟩ := page_pageOf_bounds hne request.page request.pageSize
  refine ⟨hlow, Nat.le_trans hhigh ?_⟩
  rw [length_sortRows request.sorters rows]
  exact pageCount_le (Nat.le_max_right _ _)

/-- A table that has rows has a page with a number. -/
theorem page_queryRows_pos {rows : List ρ} (h : rows ≠ []) (request : PageRequest) :
    1 ≤ (queryRows rows request).page := by
  have hne : sortRows request.sorters rows ≠ [] := by
    rw [← List.length_pos_iff, length_sortRows]
    exact List.length_pos_iff.mpr h
  exact (page_pageOf_bounds hne request.page request.pageSize).1

theorem laidOut_queryRows (rows : List ρ) (request : PageRequest) :
    (queryRows rows request).LaidOut (max request.pageSize 1) :=
  laidOut_pageOf (sortRows request.sorters rows) request.page request.pageSize

/-- **THE SAME PAGE AGAIN**, under a sort order. -/
theorem queryRows_page (rows : List ρ) (request : PageRequest) :
    queryRows rows
        { request with
          page := if 1 ≤ (queryRows rows request).page then (queryRows rows request).page
            else request.page }
      = queryRows rows request :=
  pageOf_page (sortRows request.sorters rows) request.page request.pageSize

end Sorted

end FindingsBrowser
