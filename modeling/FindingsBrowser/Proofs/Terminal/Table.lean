import FindingsBrowser.Proofs.Terminal.Style
import FindingsBrowser.Terminal.Table
import Mathlib.Algebra.GroupWithZero.Nat
import Mathlib.Data.List.Perm.Lattice
import Mathlib.Data.String.Basic

/-! # Tables on the terminal — which columns there are, and where each of them starts

    The columns of a page are the name column and, in ascending order, those for which any of
    its rows has a cell.  A column is as wide as the longest text in it, and all lines fill up
    their texts to these widths, so a column starts at the same place in each of them.

    * `foldl_noteColumn`: columns are found each once, by induction over the names.
    * `mem_valueColumns`, `pairwise_valueColumns`: the columns behind the name column are
      settled by the rows, in whatever order these come (`columns_perm`).
    * `slice_joinCells`: what stands in a column of a line is its text, and blanks behind it.
    * `renderPage_eq_none_iff`: a page is not shown if a text in it is too long to be filled
      up, and is shown otherwise (`renderPage_eq`).
    * `table_in_columns` puts these together. -/

namespace FindingsBrowser.Terminal

/-! ## Columns -/

theorem noteColumn_of_mem {found : List String} {column : String} (h : column ∈ found) :
    noteColumn found column = found :=
  if_pos (List.contains_iff_mem.mpr h)

theorem noteColumn_of_not_mem {found : List String} {column : String} (h : column ∉ found) :
    noteColumn found column = found ++ [column] :=
  if_neg (mt List.contains_iff_mem.mp h)

/-- **COLUMNS AS THEY ARE FOUND**: those found before stay in front, and behind them come,
    each once, the names that are not among them. -/
theorem foldl_noteColumn (names : List String) (found : List String) :
    ∃ more, names.foldl noteColumn found = found ++ more ∧ more.Nodup
      ∧ ∀ c, c ∈ more ↔ c ∈ names ∧ c ∉ found := by
  induction names generalizing found with
  | nil => exact ⟨[], (List.append_nil found).symm, List.nodup_nil, by simp⟩
  | cons name names ih =>
      rw [List.foldl_cons]
      by_cases hname : name ∈ found
      · obtain ⟨more, hmore, hnodup, hmem⟩ := ih found
        rw [noteColumn_of_mem hname]
        refine ⟨more, hmore, hnodup, fun c => ?_⟩
        rw [hmem, List.mem_cons]
        constructor
        · rintro ⟨hc, hnew⟩
          exact ⟨Or.inr hc, hnew⟩
        · rintro ⟨rfl | hc, hnew⟩
          · exact absurd hname hnew
          · exact ⟨hc, hnew⟩
      · obtain ⟨more, hmore, hnodup, hmem⟩ := ih (found ++ [name])
        have hnew : name ∉ more := by
          rw [hmem]
          simp
        rw [noteColumn_of_not_mem hname, hmore, List.append_assoc]
        refine ⟨name :: more, rfl, List.nodup_cons.mpr ⟨hnew, hnodup⟩, fun c => ?_⟩
        rw [List.mem_cons, List.mem_cons, hmem, List.mem_append, List.mem_singleton]
        by_cases hc : c = name
        · simp [hc, hname]
        · simp [hc]

/-- The columns of some rows as they are found: the name column, then those for which some
    row has a cell. -/
theorem foundColumns_eq (rows : List Row) :
    ∃ others, foundColumns rows = Row.nameColumn :: others ∧ others.Nodup
      ∧ ∀ c, c ∈ others ↔ c ≠ Row.nameColumn ∧ ∃ row ∈ rows, c ∈ row.cells.columns := by
  obtain ⟨others, hothers, hnodup, hmem⟩ :=
    foldl_noteColumn (rows.flatMap fun row => row.cells.columns) [Row.nameColumn]
  refine ⟨others, ?_, hnodup, fun c => ?_⟩
  · rw [foundColumns, ← List.foldl_flatMap, hothers]
    rfl
  · rw [hmem, List.mem_flatMap, List.mem_singleton, and_comm]

/-- The columns of some rows behind the name column. -/
def valueColumns (rows : List Row) : List String := (columns rows).tail

theorem columns_eq (rows : List Row) : columns rows = Row.nameColumn :: valueColumns rows := by
  obtain ⟨others, hfound, -, -⟩ := foundColumns_eq rows
  rw [valueColumns, columns, hfound]
  rfl

/-- Sorting them leaves the columns that have been found. -/
theorem valueColumns_perm (rows : List Row) :
    (valueColumns rows).Perm (foundColumns rows).tail := by
  obtain ⟨others, hfound, -, -⟩ := foundColumns_eq rows
  rw [valueColumns, columns, hfound]
  exact List.mergeSort_perm others _

theorem mem_valueColumns {rows : List Row} {column : String} :
    column ∈ valueColumns rows
      ↔ column ≠ Row.nameColumn ∧ ∃ row ∈ rows, column ∈ row.cells.columns := by
  obtain ⟨others, hfound, -, hmem⟩ := foundColumns_eq rows
  rw [(valueColumns_perm rows).mem_iff, hfound, List.tail_cons, hmem]

theorem pairwise_valueColumns (rows : List Row) : (valueColumns rows).Pairwise (· < ·) := by
  obtain ⟨others, hfound, hnodup, -⟩ := foundColumns_eq rows
  have hsorted : (others.mergeSort (· ≤ ·)).Pairwise fun a b => decide (a ≤ b) = true :=
    List.pairwise_mergeSort (by simpa using fun a b c => le_trans) (by simpa using le_total) others
  have hdistinct : (others.mergeSort (· ≤ ·)).Nodup :=
    (List.mergeSort_perm others _).nodup_iff.mpr hnodup
  rw [valueColumns, columns, hfound]
  exact hsorted.imp₂ (fun _ _ hle hne => lt_of_le_of_ne (of_decide_eq_true hle) hne) hdistinct

/-- The columns found, in ascending order, are the columns. -/
theorem valueColumns_eq {rows : List Row} {names : List String} (hsorted : names.Pairwise (· < ·))
    (hperm : names.Perm (foundColumns rows).tail) : valueColumns rows = names :=
  ((valueColumns_perm rows).trans hperm.symm).eq_of_pairwise
    (fun _ _ _ _ hab hba => absurd hab (lt_asymm hba)) (pairwise_valueColumns rows) hsorted

/-- **THE ORDER OF THE ROWS** makes no difference to the columns. -/
theorem columns_perm {rows shuffled : List Row} (h : rows.Perm shuffled) :
    columns shuffled = columns rows := by
  have hnodup : ∀ rows, (valueColumns rows).Nodup := fun rows =>
    (pairwise_valueColumns rows).imp fun hlt => ne_of_lt hlt
  have hmem : ∀ column, column ∈ valueColumns rows ↔ column ∈ valueColumns shuffled := by
    intro column
    simp only [mem_valueColumns, h.mem_iff]
  have hperm := (List.perm_ext_iff_of_nodup (hnodup rows) (hnodup shuffled)).mpr hmem
  rw [columns_eq, columns_eq]
  congr 1
  exact valueColumns_eq (pairwise_valueColumns rows) (hperm.trans (valueColumns_perm shuffled))

/-! ## Widths -/

/-- A column is as wide as its heading and the texts in it need. -/
theorem columnWidth_le_iff {rows : List Row} {column : String} {n : Nat} :
    columnWidth rows column ≤ n
      ↔ column.length ≤ n ∧ ∀ row ∈ rows, (cellText row column).length ≤ n := by
  have hfold : ∀ width, rows.foldl (fun width row => max width (cellText row column).length) width
      ≤ n ↔ width ≤ n ∧ ∀ row ∈ rows, (cellText row column).length ≤ n := by
    induction rows with
    | nil => simp
    | cons row rest ih =>
        intro width
        rw [List.foldl_cons, ih, List.forall_mem_cons, max_le_iff, and_assoc]
  exact hfold column.length

theorem length_heading_le (rows : List Row) (column : String) :
    column.length ≤ columnWidth rows column :=
  (columnWidth_le_iff.mp (Nat.le_refl _)).1

theorem length_cellText_le {rows : List Row} {row : Row} (h : row ∈ rows) (column : String) :
    (cellText row column).length ≤ columnWidth rows column :=
  (columnWidth_le_iff.mp (Nat.le_refl _)).2 row h

/-! ## Lines -/

/-- What stands in a column: a text with blanks behind it. -/
def inColumn (width : Nat) (text : String) : List Char :=
  text.toList ++ List.replicate (width - text.length) ' '

theorem toList_padRight (width : Nat) (text : String) :
    (padRight width text).toList = inColumn width text := by
  rw [padRight, String.toList_append, String.toList_ofList, inColumn]

theorem length_inColumn {width : Nat} {text : String} (h : text.length ≤ width) :
    (inColumn width text).length = width := by
  rw [inColumn, List.length_append, List.length_replicate, String.length_toList]
  omega

theorem joinCells_singleton (cell : Nat × String) :
    (joinCells [cell]).toList = inColumn cell.1 cell.2 := by
  rw [joinCells, List.map_singleton, String.intercalate_singleton, toList_padRight]

theorem joinCells_cons_cons (cell next : Nat × String) (rest : List (Nat × String)) :
    (joinCells (cell :: next :: rest)).toList
      = inColumn cell.1 cell.2 ++ ([' ', ' '] ++ (joinCells (next :: rest)).toList) := by
  have hgap : "  ".toList = [' ', ' '] := by decide
  rw [joinCells, List.map_cons, List.map_cons, String.intercalate_cons_cons,
    String.toList_append, String.toList_append, toList_padRight, hgap, List.append_assoc]
  rfl

/-- Two blanks stand between any two texts side by side. -/
theorem length_joinCells {cell : Nat × String} {rest : List (Nat × String)}
    (h : ∀ c ∈ cell :: rest, c.2.length ≤ c.1) :
    (joinCells (cell :: rest)).toList.length + 2 = ((cell :: rest).map fun c => c.1 + 2).sum := by
  induction rest generalizing cell with
  | nil =>
      rw [joinCells_singleton, length_inColumn (h cell List.mem_cons_self)]
      simp
  | cons next rest ih =>
      rw [List.forall_mem_cons] at h
      rw [joinCells_cons_cons, List.length_append, List.length_append, length_inColumn h.1,
        List.map_cons, List.sum_cons, ← ih h.2, List.length_cons, List.length_singleton]
      omega

/-- **A COLUMN** of texts side by side holds its text, and blanks behind it. -/
theorem slice_joinCells {cells : List (Nat × String)} (h : ∀ c ∈ cells, c.2.length ≤ c.1) :
    ∀ {i : Nat} {cell : Nat × String}, cells[i]? = some cell →
      ((joinCells cells).toList.drop ((cells.take i).map fun c => c.1 + 2).sum).take cell.1
        = inColumn cell.1 cell.2 := by
  induction cells with
  | nil => exact fun hcell => nomatch hcell
  | cons first rest ih =>
      rw [List.forall_mem_cons] at h
      intro i cell hcell
      have hlength := length_inColumn h.1
      cases rest with
      | nil =>
          cases i with
          | zero =>
              obtain rfl := Option.some.inj hcell
              rw [joinCells_singleton]
              exact List.take_of_length_le (Nat.le_of_eq hlength)
          | succ i => exact nomatch hcell
      | cons next rest =>
          rw [joinCells_cons_cons]
          cases i with
          | zero =>
              obtain rfl := Option.some.inj hcell
              exact List.take_left' hlength
          | succ i =>
              have hskip : ∀ k, (inColumn first.1 first.2
                  ++ ([' ', ' '] ++ (joinCells (next :: rest)).toList)).drop (first.1 + 2 + k)
                  = (joinCells (next :: rest)).toList.drop k := by
                intro k
                rw [← List.append_assoc, ← List.drop_drop, List.drop_left']
                rw [List.length_append, hlength]
                rfl
              rw [List.take_succ_cons, List.map_cons, List.sum_cons, hskip]
              exact ih h.2 hcell

/-- Where a column starts in a line: behind two characters and the columns before it, each
    with two blanks behind it. -/
def columnStart (widths : List Nat) (i : Nat) : Nat :=
  2 + ((widths.take i).map (· + 2)).sum

/-- A line in columns: as long as their widths make it, with a text in each of them. -/
structure InColumns (widths : List Nat) (texts : List String) (line : String) : Prop where
  length : line.length = (widths.map (· + 2)).sum
  cell : ∀ i width text, widths[i]? = some width → texts[i]? = some text →
    (line.toList.drop (columnStart widths i)).take width = inColumn width text
      ∧ text.length ≤ width

/-- Texts side by side, behind a mark of two characters, are a line in columns. -/
theorem inColumns_joinCells {names : List String} (hnames : names ≠ []) {width : String → Nat}
    {text : String → String} (h : ∀ c ∈ names, (text c).length ≤ width c) {mark : String}
    (hmark : mark.length = 2) :
    InColumns (names.map width) (names.map text)
      (mark ++ joinCells (names.map fun c => (width c, text c))) := by
  have hfit : ∀ cell ∈ names.map fun c => (width c, text c), cell.2.length ≤ cell.1 := by
    intro cell hcell
    obtain ⟨c, hc, rfl⟩ := List.mem_map.mp hcell
    exact h c hc
  constructor
  · obtain ⟨first, rest, rfl⟩ := List.exists_cons_of_ne_nil hnames
    have hlength := length_joinCells hfit
    rw [String.length_toList] at hlength
    rw [String.length_append, hmark, Nat.add_comm]
    refine hlength.trans ?_
    rw [← List.map_cons (f := fun c => (width c, text c)), List.map_map, List.map_map]
    rfl
  · intro i w t hwidth htext
    rw [List.getElem?_map, Option.map_eq_some_iff] at hwidth htext
    obtain ⟨c, hc, rfl⟩ := hwidth
    obtain ⟨c', hc', rfl⟩ := htext
    obtain rfl := Option.some.inj (hc.symm.trans hc')
    have hcell : (names.map fun c => (width c, text c))[i]? = some (width c, text c) := by
      rw [List.getElem?_map, hc]
      rfl
    have hslice := slice_joinCells hfit hcell
    rw [← List.map_take, List.map_map] at hslice
    refine ⟨?_, h c (List.mem_of_getElem? hc)⟩
    have hdrop : mark.toList.length = 2 := by rw [String.length_toList, hmark]
    rw [String.toList_append, columnStart, ← List.drop_drop, List.drop_left' hdrop,
      ← List.map_take, List.map_map]
    exact hslice

/-! ## Pages -/

/-- The line above the rows. -/
def tableHeader (layout : List (String × Nat)) : List Piece :=
  [⟨"  ", []⟩, ⟨headerText layout, [.bold]⟩, ⟨"\n", []⟩]

/-- The line of a row. -/
def tableRow (layout : List (String × Nat)) (selected : Option String) (row : Row) : List Piece :=
  if selected = some row.name then
    [⟨">", [.cyan, .bold]⟩, ⟨" ", []⟩, ⟨rowText layout row, [.cyan]⟩, ⟨"\n", []⟩]
  else [⟨"  ", []⟩, ⟨rowText layout row, []⟩, ⟨"\n", []⟩]

/-- What is below the rows. -/
def tableFooter (list : ListView Row) : List Piece :=
  [⟨"\n", []⟩, ⟨footerText list, [.dimmed]⟩, ⟨"\n", []⟩]

/-- What stands in front of a row. -/
def rowMark (selected : Option String) (row : Row) : String :=
  if selected = some row.name then "> " else "  "

theorem length_rowMark (selected : Option String) (row : Row) :
    (rowMark selected row).length = 2 := by
  rw [rowMark]
  split <;> decide

theorem shown_tableRow (layout : List (String × Nat)) (selected : Option String) (row : Row) :
    shown (tableRow layout selected row) = renderRow layout selected row := by
  rw [tableRow, renderRow]
  split <;> simp [Piece.shown, String.append_assoc]

theorem plain_tableRow (layout : List (String × Nat)) (selected : Option String) (row : Row) :
    plain (tableRow layout selected row)
      = rowMark selected row ++ rowText layout row ++ "\n" := by
  have hmark : ">" ++ " " = "> " := by decide
  rw [tableRow, rowMark]
  split
  · rw [← hmark]
    simp only [plain_cons, plain_nil, String.append_empty, String.append_assoc]
  · simp [String.append_assoc]

theorem plain_tableHeader (layout : List (String × Nat)) :
    plain (tableHeader layout) = "  " ++ headerText layout ++ "\n" := by
  simp [tableHeader, String.append_assoc]

/-- Whether a page is shown is settled by the widths of its columns. -/
theorem renderPage_of_rows {list : ListView Row} (h : list.shown.rows ≠ []) :
    renderPage list
      = if ∃ column ∈ columns list.shown.rows,
            widthLimit ≤ columnWidth list.shown.rows column then none
        else
          some (shown (tableHeader (layout list.shown.rows)
            ++ list.shown.rows.flatMap (tableRow (layout list.shown.rows) list.state.selected)
            ++ tableFooter list)) := by
  have hany : (layout list.shown.rows).any (fun cell => widthLimit ≤ cell.2) = true
      ↔ ∃ column ∈ columns list.shown.rows,
        widthLimit ≤ columnWidth list.shown.rows column := by
    simp [layout]
  rw [renderPage, List.isEmpty_eq_false_iff.mpr h, if_neg Bool.false_ne_true]
  refine if_congr hany rfl (congrArg some ?_)
  rw [shown_append, shown_append, shown_flatMap]
  simp only [shown_tableRow]
  simp [tableHeader, tableFooter, Piece.shown, String.append_assoc]

/-- **NO PAGE** is shown exactly if some column is too wide to be filled up. -/
theorem renderPage_eq_none_iff {list : ListView Row} (h : list.shown.rows ≠ []) :
    renderPage list = none
      ↔ ∃ column ∈ columns list.shown.rows,
        widthLimit ≤ columnWidth list.shown.rows column := by
  rw [renderPage_of_rows h, ite_eq_left_iff]
  exact ⟨fun hnone => by_contra fun hfits => Option.some_ne_none _ (hnone hfits),
    fun hwide hfits => absurd hwide hfits⟩

/-- **A PAGE** that is shown is a header, its rows and a footer. -/
theorem renderPage_eq {list : ListView Row} (h : list.shown.rows ≠ [])
    (hfits : ∀ column ∈ columns list.shown.rows,
      columnWidth list.shown.rows column < widthLimit) :
    renderPage list
      = some (shown (tableHeader (layout list.shown.rows)
          ++ list.shown.rows.flatMap (tableRow (layout list.shown.rows) list.state.selected)
          ++ tableFooter list)) := by
  rw [renderPage_of_rows h, if_neg]
  rintro ⟨column, hcolumn, hwide⟩
  exact absurd (hfits column hcolumn) (Nat.not_lt.mpr hwide)

/-- What a row shows, column by column. -/
def rowCells (rows : List Row) (row : Row) : List String :=
  row.name :: (valueColumns rows).map fun column =>
    ((row.cells.get? column).map formatCell).getD ""

theorem map_cellText (rows : List Row) (row : Row) :
    (columns rows).map (cellText row) = rowCells rows row := by
  rw [columns_eq, List.map_cons, rowCells]
  congr 1
  refine List.map_congr_left fun column hcolumn => ?_
  rw [cellText, if_neg (mem_valueColumns.mp hcolumn).1]
  cases row.cells.get? column <;> rfl

/-- Some text of a page is too long to be filled up exactly if a column is too wide. -/
theorem exists_wide_column_iff {rows : List Row} :
    (∃ column ∈ columns rows, widthLimit ≤ columnWidth rows column)
      ↔ ∃ texts ∈ columns rows :: rows.map (rowCells rows), ∃ text ∈ texts,
        widthLimit ≤ text.length := by
  have hwidth : ∀ column, widthLimit ≤ columnWidth rows column
      ↔ widthLimit ≤ column.length
        ∨ ∃ row ∈ rows, widthLimit ≤ (cellText row column).length := by
    intro column
    have hpos : 0 < widthLimit := by decide
    have hle : columnWidth rows column ≤ widthLimit - 1 ↔ _ := columnWidth_le_iff
    simp only [Nat.le_sub_one_iff_lt hpos] at hle
    rw [← Nat.not_lt, hle, not_and_or]
    simp only [not_forall, Nat.not_lt, exists_prop]
  constructor
  · rintro ⟨column, hcolumn, hwide⟩
    rcases (hwidth column).mp hwide with hheading | ⟨row, hrow, htext⟩
    · exact ⟨_, List.mem_cons_self, column, hcolumn, hheading⟩
    · refine ⟨_, List.mem_cons_of_mem _ (List.mem_map_of_mem hrow), cellText row column, ?_, htext⟩
      rw [← map_cellText]
      exact List.mem_map_of_mem hcolumn
  · rintro ⟨texts, htexts, text, htext, hwide⟩
    rcases List.mem_cons.mp htexts with rfl | hrow
    · exact ⟨text, htext, (hwidth text).mpr (Or.inl hwide)⟩
    · obtain ⟨row, hmem, rfl⟩ := List.mem_map.mp hrow
      rw [← map_cellText] at htext
      obtain ⟨column, hcolumn, rfl⟩ := List.mem_map.mp htext
      exact ⟨column, hcolumn, (hwidth column).mpr (Or.inr ⟨row, hmem, hwide⟩)⟩

/-- **TABLES IN COLUMNS**, for every page that has rows.  Behind the name column stand the
    columns for which some row has a cell, in ascending order and each once, in whatever
    order the rows come.  A page with a text that is too long to be filled up is not shown.
    Any other is shown as a header, its rows and a footer; and without its styles, the header
    and each row, selected or not, are lines in the same columns: equally long, with the
    heading, or what the row shows, at the start of each column and blanks behind it. -/
theorem table_in_columns (list : ListView Row) (h : list.shown.rows ≠ []) :
    let rows := list.shown.rows
    let widths := (columns rows).map (columnWidth rows)
    let pieces := tableRow (layout rows) list.state.selected
    columns rows = Row.nameColumn :: valueColumns rows
      ∧ (valueColumns rows).Pairwise (· < ·)
      ∧ (∀ column, column ∈ valueColumns rows
        ↔ column ≠ Row.nameColumn ∧ ∃ row ∈ rows, column ∈ row.cells.columns)
      ∧ (∀ shuffled, rows.Perm shuffled → columns shuffled = columns rows)
      ∧ (renderPage list = none
        ↔ ∃ texts ∈ columns rows :: rows.map (rowCells rows), ∃ text ∈ texts,
          widthLimit ≤ text.length)
      ∧ (∀ page, renderPage list = some page →
        page = shown (tableHeader (layout rows) ++ rows.flatMap pieces ++ tableFooter list))
      ∧ (∃ line, plain (tableHeader (layout rows)) = line ++ "\n"
        ∧ InColumns widths (columns rows) line)
      ∧ ∀ row ∈ rows, ∃ line, plain (pieces row) = line ++ "\n"
        ∧ InColumns widths (rowCells rows row) line := by
  intro rows widths pieces
  have hnames : columns rows ≠ [] := by
    rw [columns_eq]
    exact List.cons_ne_nil _ _
  have hnone : renderPage list = none
      ↔ ∃ column ∈ columns rows, widthLimit ≤ columnWidth rows column := renderPage_eq_none_iff h
  refine ⟨columns_eq rows, pairwise_valueColumns rows, fun column => mem_valueColumns,
    fun shuffled => columns_perm, hnone.trans exists_wide_column_iff, fun page hpage => ?_, ?_,
    fun row hrow => ?_⟩
  · have hfits : ∀ column ∈ columns rows, columnWidth rows column < widthLimit := by
      intro column hcolumn
      refine Nat.lt_of_not_le fun hwide => ?_
      rw [hnone.mpr ⟨column, hcolumn, hwide⟩] at hpage
      exact nomatch hpage
    exact Option.some.inj (hpage.symm.trans (renderPage_eq h hfits))
  · refine ⟨"  " ++ headerText (layout rows), plain_tableHeader _, ?_⟩
    have hblank : "  ".length = 2 := by decide
    have hheadings : ∀ c ∈ columns rows, (id c).length ≤ columnWidth rows c :=
      fun c _ => length_heading_le rows c
    have hline := inColumns_joinCells hnames hheadings hblank
    rw [List.map_id] at hline
    rw [headerText, layout, List.map_map]
    exact hline
  · refine ⟨rowMark list.state.selected row ++ rowText (layout rows) row, plain_tableRow .., ?_⟩
    have htexts : ∀ c ∈ columns rows, (cellText row c).length ≤ columnWidth rows c :=
      fun c _ => length_cellText_le hrow c
    have hline := inColumns_joinCells hnames htexts (length_rowMark list.state.selected row)
    rw [map_cellText] at hline
    rw [rowText, layout, List.map_map]
    exact hline

/-- Two rows without a column in common, one of them with a cell in the name column. -/
theorem table_in_columns_sparse :
    let first : Row := ⟨"bé", .ofList [("z", .text "1"), ("name", .text "hidden")]⟩
    let second : Row := ⟨"a", .ofList [("y", .text "wide")]⟩
    let fresh : ListView Row := .fresh ⟨"name", .asc⟩ 10
    let list : ListView Row := { fresh with shown := ⟨1, 1, 2, [first, second]⟩ }
    list.shown.rows ≠ [] ∧ columns [second, first] = ["name", "y", "z"]
      ∧ ∃ line, plain (tableRow (layout [first, second]) none first) = line ++ "\n"
        ∧ line.length = 15 ∧ (line.toList.drop 2).take 4 = ['b', 'é', ' ', ' ']
        ∧ (line.toList.drop 14).take 1 = ['1'] := by
  intro first second fresh list
  have hrows : list.shown.rows ≠ [] := List.cons_ne_nil _ _
  obtain ⟨-, -, -, hperm, -, -, -, hlines⟩ := table_in_columns list hrows
  obtain ⟨line, hplain, hline⟩ := hlines first List.mem_cons_self
  have hvalues : valueColumns [first, second] = ["y", "z"] :=
    valueColumns_eq (by decide) (by decide)
  have hcolumns : columns [first, second] = ["name", "y", "z"] := by
    rw [columns_eq, hvalues]
    rfl
  have hwidths : (columns [first, second]).map (columnWidth [first, second]) = [4, 4, 1] := by
    rw [hcolumns]
    decide
  have hcells : rowCells [first, second] first = ["bé", "", "1"] := by
    rw [rowCells, hvalues]
    decide
  rw [show list.shown.rows = [first, second] from rfl, hwidths, hcells] at hline
  refine ⟨hrows, ?_, line, hplain, hline.length, ?_, ?_⟩
  · exact (hperm _ (List.Perm.swap ..)).trans hcolumns
  · exact (hline.cell 0 4 "bé" rfl rfl).1.trans (by decide)
  · exact (hline.cell 2 1 "1" rfl rfl).1.trans (by decide)

/-- A name of `2 ^ 16` characters: the page is not shown. -/
theorem long_name_not_shown :
    let row : Row := ⟨String.ofList (List.replicate 65536 'a'), .empty⟩
    let fresh : ListView Row := .fresh ⟨"name", .asc⟩ 10
    let list : ListView Row := { fresh with shown := ⟨1, 1, 1, [row]⟩ }
    list.shown.rows ≠ [] ∧ renderPage list = none := by
  intro row fresh list
  have hrows : list.shown.rows ≠ [] := List.cons_ne_nil _ _
  have hname : widthLimit ≤ row.name.length := by
    rw [String.length_ofList, List.length_replicate]
    exact Nat.le_refl _
  refine ⟨hrows, (renderPage_eq_none_iff hrows).mpr ⟨_, List.mem_cons_self, ?_⟩⟩
  exact Nat.le_trans hname (length_cellText_le List.mem_cons_self Row.nameColumn)

end FindingsBrowser.Terminal
