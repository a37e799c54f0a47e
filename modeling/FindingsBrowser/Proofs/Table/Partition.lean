import FindingsBrowser.Proofs.Table.Order
import FindingsBrowser.Proofs.Table.Page

/-! # Pages — together they are the table

    A page starts where the one before it ends, so the first `n` pages are the first
    `n * size` rows, and the last page is the first one that reaches the end.  Under a
    sort order the pages are cut from the stable arrangement of the rows; no row is lost
    between two pages, and none is shown on both. -/

namespace FindingsBrowser

/-! ## The places of pages -/

/-- A page that is not the last one ends within the table. -/
theorem mul_le_of_lt_pageCount {total size page : Nat} (hsize : 0 < size)
    (h : page < pageCount total size) : page * size ≤ total := by
  -- the next page starts where this one ends, and it has a row
  have hnext := pageStart_lt hsize (Nat.le_add_left 1 page) h
  rw [pageStart, Nat.add_sub_cancel] at hnext
  exact Nat.le_of_lt hnext

/-- The pages reach the end of the table. -/
theorem le_pageCount_mul (total : Nat) {size : Nat} (hsize : 0 < size) :
    total ≤ pageCount total size * size := by
  have hsplit := Nat.div_add_mod' total size
  have hmod := Nat.mod_lt total hsize
  rw [pageCount]
  split
  · rw [Nat.add_zero]
    omega
  · rw [Nat.add_mul, Nat.one_mul]
    omega

section Pages

variable {ρ : Type}

/-- The first `n` pages, one after the other, are the first `n * size` rows. -/
theorem flatMap_slice (size : Nat) (rows : List ρ) (n : Nat) :
    ((List.range' 1 n).flatMap fun page => slice (pageStart size page) size rows)
      = rows.take (n * size) := by
  induction n with
  | zero => rw [Nat.zero_mul, List.take_zero]; rfl
  | succ n ih =>
      have hstart : pageStart size (1 + n) = n * size := by
        rw [pageStart, Nat.add_sub_cancel_left]
      rw [List.range'_1_concat, List.flatMap_append, ih, List.flatMap_singleton, hstart, slice,
        Nat.succ_mul, List.take_add]

/-- The rows of a page of the table. -/
theorem rows_pageOf {rows : List ρ} (h : rows ≠ []) {page pageSize : Nat} (hlow : 1 ≤ page)
    (hhigh : page ≤ pageCount rows.length (max pageSize 1)) :
    (pageOf rows page pageSize).rows
      = slice (pageStart (max pageSize 1) page) (max pageSize 1) rows := by
  rw [pageOf_of_ne_nil h, pageNumber_of_bounds hlow hhigh]

/-- **NOTHING LOST, NOTHING TWICE**: the pages of a table, one after the other, are its
    rows. -/
theorem flatMap_rows_pageOf {rows : List ρ} (h : rows ≠ []) (pageSize : Nat) :
    ((List.range' 1 (pageCount rows.length (max pageSize 1))).flatMap fun page =>
        (pageOf rows page pageSize).rows) = rows := by
  have hsize : 0 < max pageSize 1 := Nat.le_max_right _ _
  have hpages : ∀ page ∈ List.range' 1 (pageCount rows.length (max pageSize 1)),
      (pageOf rows page pageSize).rows
        = slice (pageStart (max pageSize 1) page) (max pageSize 1) rows := by
    intro page hpage
    obtain ⟨hlow, hhigh⟩ := List.mem_range'_1.mp hpage
    exact rows_pageOf h hlow (by omega)
  rw [List.flatMap_def, List.map_congr_left hpages, ← List.flatMap_def, flatMap_slice]
  exact List.take_of_length_le (le_pageCount_mul rows.length hsize)

/-- A page that is not the last one is full. -/
theorem length_rows_pageOf {rows : List ρ} (h : rows ≠ []) {page pageSize : Nat}
    (hlow : 1 ≤ page) (hlast : page < pageCount rows.length (max pageSize 1)) :
    (pageOf rows page pageSize).rows.length = max pageSize 1 := by
  have hend := mul_le_of_lt_pageCount (Nat.le_max_right pageSize 1) hlast
  obtain ⟨before, rfl⟩ := Nat.exists_eq_add_of_le' hlow
  rw [rows_pageOf h hlow (Nat.le_of_lt hlast), length_slice, pageStart, Nat.add_sub_cancel]
  rw [Nat.add_mul, Nat.one_mul] at hend
  omega

/-- A page of a table that has rows has at least one and at most `size` of them. -/
theorem length_rows_pageOf_bounds {rows : List ρ} (h : rows ≠ []) (page pageSize : Nat) :
    1 ≤ (pageOf rows page pageSize).rows.length
      ∧ (pageOf rows page pageSize).rows.length ≤ max pageSize 1 := by
  rcases laidOut_pageOf rows page pageSize with hempty | ⟨-, -, hrows⟩
  · have htotal := congrArg Page.totalCount hempty
    rw [pageOf_of_ne_nil h] at htotal
    exact absurd (List.length_eq_zero_iff.mp htotal) h
  · exact hrows

/-- A page number outside the table means its first or its last page. -/
theorem pageOf_clamped {rows : List ρ} (h : rows ≠ []) (page pageSize : Nat) :
    (pageOf rows page pageSize).page
        = min (max page 1) (pageCount rows.length (max pageSize 1))
      ∧ pageOf rows page pageSize
        = pageOf rows (min (max page 1) (pageCount rows.length (max pageSize 1))) pageSize := by
  obtain ⟨hlow, hhigh⟩ := pageNumber_bounds (List.length_pos_iff.mpr h)
    (Nat.le_max_right pageSize 1) page
  have hnumber : pageNumber rows.length (max pageSize 1)
      (min (max page 1) (pageCount rows.length (max pageSize 1)))
        = pageNumber rows.length (max pageSize 1) page :=
    pageNumber_of_bounds hlow hhigh
  rw [pageOf_of_ne_nil h page, pageOf_of_ne_nil h (min _ _), hnumber]
  exact ⟨rfl, rfl⟩

end Pages

/-! ## Pages under a sort order -/

section Sorted

variable {ρ : Type} [TableRow ρ]

/-- Without sorters the rows stay as they are. -/
theorem sortRows_nil (rows : List ρ) : sortRows [] rows = rows :=
  sortRows_of_ordered (List.pairwise_of_forall fun _ _ => rfl)

theorem sortRows_ne_nil {rows : List ρ} (h : rows ≠ []) (sorters : List Sorter) :
    sortRows sorters rows ≠ [] := by
  rw [← List.length_pos_iff, length_sortRows]
  exact List.length_pos_iff.mpr h

theorem queryRows_nil (request : PageRequest) : queryRows ([] : List ρ) request = .empty := by
  rw [queryRows, sortRows, List.mergeSort_nil]
  rfl

/-- Every page of a table that has rows tells the number of pages. -/
theorem lastPage_queryRows {rows : List ρ} (h : rows ≠ []) (page pageSize : Nat)
    (sorters : List Sorter) : (queryRows rows ⟨page, pageSize, sorters⟩).lastPage
      = pageCount (sortRows sorters rows).length (max pageSize 1) := by
  rw [queryRows, pageOf_of_ne_nil (sortRows_ne_nil h sorters)]

/-- Every page of a table tells the number of rows. -/
theorem totalCount_queryRows (rows : List ρ) (page pageSize : Nat) (sorters : List Sorter) :
    (queryRows rows ⟨page, pageSize, sorters⟩).totalCount = rows.length := by
  by_cases hrows : rows = []
  · rw [hrows, queryRows_nil]
    rfl
  · rw [queryRows, pageOf_of_ne_nil (sortRows_ne_nil hrows sorters), length_sortRows]

/-- The pages of a table under a sort order, one after the other, are its rows in that
    order. -/
theorem flatMap_rows_queryRows (rows : List ρ) (sorters : List Sorter) (pageSize : Nat) :
    ((List.range' 1 (queryRows rows ⟨1, pageSize, sorters⟩).lastPage).flatMap fun page =>
        (queryRows rows ⟨page, pageSize, sorters⟩).rows) = sortRows sorters rows := by
  by_cases hrows : rows = []
  · rw [hrows, queryRows_nil, sortRows, List.mergeSort_nil]
    rfl
  · rw [lastPage_queryRows hrows]
    exact flatMap_rows_pageOf (sortRows_ne_nil hrows sorters) pageSize

/-- **PAGING LOSES AND DUPLICATES NOTHING**, for every table, sort order and page size.
    The pages, one after the other, are the rows in their stable arrangement, which
    without sorters is the given one.  Every page before the last is full, the last one
    has a row, all tell the number of rows and of pages, a page number outside the table
    means its first or last page, and a table without rows has the empty page only. -/
theorem pages_lay_out_table (rows : List ρ) (sorters : List Sorter) (pageSize : Nat) :
    let size := max pageSize 1
    let query (page : Nat) : Page ρ := queryRows rows ⟨page, pageSize, sorters⟩
    let last := (query 1).lastPage
    let shown := (List.range' 1 last).flatMap fun page => (query page).rows
    shown = sortRows sorters rows
      ∧ StablySorted sorters rows shown
      ∧ (sorters = [] → shown = rows)
      ∧ (∀ page, 1 ≤ page → page < last → (query page).rows.length = size)
      ∧ (rows ≠ [] → 1 ≤ (query last).rows.length ∧ (query last).rows.length ≤ size)
      ∧ (∀ page, (query page).totalCount = rows.length ∧ (query page).lastPage = last)
      ∧ (rows ≠ [] → ∀ page, (query page).page = min (max page 1) last
          ∧ query page = query (min (max page 1) last))
      ∧ (rows = [] → ∀ page, query page = .empty) := by
  intro size query last shown
  have hshown : shown = sortRows sorters rows := flatMap_rows_queryRows rows sorters pageSize
  have hempty : rows = [] → ∀ page, query page = .empty := by
    rintro rfl page
    exact queryRows_nil _
  have hne : rows ≠ [] → sortRows sorters rows ≠ [] := fun h => sortRows_ne_nil h sorters
  have hlast : rows ≠ [] → last = pageCount (sortRows sorters rows).length size :=
    fun h => lastPage_queryRows h 1 pageSize sorters
  refine ⟨hshown, ?_, ?_, ?_, ?_, ?_, ?_, hempty⟩
  · rw [hshown]
    exact stablySorted_sortRows sorters rows
  · rintro rfl
    rw [hshown, sortRows_nil]
  · intro page hlow hpage
    have hrows : rows ≠ [] := by
      intro h
      have hzero : last = 0 := congrArg Page.lastPage (hempty h 1)
      omega
    exact length_rows_pageOf (hne hrows) hlow (hlast hrows ▸ hpage)
  · intro hrows
    exact length_rows_pageOf_bounds (hne hrows) last pageSize
  · intro page
    refine ⟨totalCount_queryRows rows page pageSize sorters, ?_⟩
    by_cases hrows : rows = []
    · exact congrArg Page.lastPage ((hempty hrows page).trans (hempty hrows 1).symm)
    · exact (lastPage_queryRows hrows page pageSize sorters).trans (hlast hrows).symm
  · intro hrows page
    rw [hlast hrows]
    exact pageOf_clamped (hne hrows) page pageSize

/-- Three rows on pages of two, of which the last two draw: page 9 is the second page,
    and the rows that draw keep their order across the pages. -/
theorem pages_lay_out_table_draw :
    let row (name : String) (cost : Nat) : Row :=
      ⟨name, .ofList [("cost", .number (.ofNat cost))]⟩
    let rows := [row "a" 2, row "c" 1, row "b" 1]
    let query (page : Nat) : Page Row := queryRows rows ⟨page, 2, [⟨"cost", .desc⟩]⟩
    (query 1).rows.length = 2 ∧ (query 9).page = 2 ∧ query 9 = query 2
      ∧ ((query 2).totalCount = 3 ∧ (query 2).rows.length = 1)
      ∧ (query 1).rows ++ (query 2).rows = rows := by
  intro row rows query
  have hsorted : sortRows [⟨"cost", .desc⟩] rows = rows := List.mergeSort_of_pairwise (by decide)
  have hlast : (query 1).lastPage = 2 := by
    show (pageOf (sortRows _ rows) 1 2).lastPage = 2
    rw [hsorted]
    decide
  have htwo : List.range' 1 2 = [1, 2] := rfl
  obtain ⟨hshown, -, -, hfull, -, htotal, hclamped, -⟩ :
      ((List.range' 1 (query 1).lastPage).flatMap fun page => (query page).rows) = _ ∧ _ ∧ _
        ∧ (∀ page, 1 ≤ page → page < (query 1).lastPage → (query page).rows.length = 2) ∧ _
        ∧ _ ∧ (_ → ∀ page, (query page).page = min (max page 1) (query 1).lastPage
          ∧ query page = query (min (max page 1) (query 1).lastPage)) ∧ _ :=
    pages_lay_out_table rows [⟨"cost", .desc⟩] 2
  rw [hlast, hsorted, htwo, List.flatMap_cons, List.flatMap_singleton] at hshown
  rw [hlast] at hfull hclamped
  obtain ⟨hpage, hsame⟩ := hclamped (List.cons_ne_nil _ _) 9
  have hfirst := hfull 1 (Nat.le_refl 1) (by decide)
  have hlength := congrArg List.length hshown
  rw [List.length_append, hfirst] at hlength
  exact ⟨hfirst, hpage, hsame, ⟨(htotal 2).1, Nat.add_left_cancel hlength⟩, hshown⟩

end Sorted

end FindingsBrowser
