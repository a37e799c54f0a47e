import FindingsBrowser.Http.Query
import FindingsBrowser.Proofs.Navigation.State
import FindingsBrowser.Proofs.Text.Form

/-! # Query parameters — what a form reader makes of the text of a list state

    A form reader cuts a query into its pairs and decodes each of them whole.  So it
    sees the five keys of a list state with plain values: a sort order in which columns
    are no longer encoded. -/

namespace FindingsBrowser.Http

open Text Percent

/-! ## Values -/

theorem isLiteral_of_isDigit (c : Char) (h : c.isDigit = true) : isLiteral c = true := by
  obtain ⟨hlow, hhigh⟩ := toNat_of_isDigit h
  have hpercent : c ≠ '%' := by
    rintro rfl
    exact absurd hlow (by decide)
  have hplus : c ≠ '+' := by
    rintro rfl
    exact absurd hlow (by decide)
  simp only [isLiteral, Bool.and_eq_true, decide_eq_true_eq, bne_iff_ne]
  exact ⟨⟨by omega, hpercent⟩, hplus⟩

/-- A number in digits stands for itself. -/
theorem spells_writeNatural (n : Nat) : Spells (writeNatural n) (writeNatural n) :=
  spells_literal (all_writeNatural isLiteral_of_isDigit n)

/-- A finite offset stands for itself. -/
theorem spells_plain (x : Binary64) : Spells x.finiteOrZero.plain x.finiteOrZero.plain :=
  spells_literal (ListState.all_plain isLiteral_of_isDigit rfl rfl x)

/-- One entry of a sort order spells its sorter. -/
theorem spells_writeSorter (s : Sorter) : Spells (ListState.writeSorter s) s.write.toList := by
  have hdirection : Spells (':' :: s.direction.name.toList) (':' :: s.direction.name.toList) := by
    cases s.direction with
    | asc => exact spells_literal (by decide)
    | desc => exact spells_literal (by decide)
  rw [Sorter.toList_write]
  exact (spells_encode s.column.toList).append hdirection

/-- A sort order in plain text. -/
def plainSorters (sorters : List Sorter) : List Char :=
  List.intercalate [','] (sorters.map fun s => s.write.toList)

theorem spells_writeSorters (sorters : List Sorter) :
    Spells (List.intercalate [','] (sorters.map ListState.writeSorter)) (plainSorters sorters) :=
  spells_intercalate (by decide) spells_writeSorter sorters

/-! ## Pairs -/

/-- A pair, form-decoded. -/
def readForm (pair : List Char) : String × String :=
  let (name, value) := (cutFirst '=' pair).getD (pair, [])
  (String.ofList (decodeForm name), String.ofList (decodeForm value))

/-- Each pair is decoded for itself. -/
theorem queryPairs_eq (query : List Char) :
    queryPairs query = (ListState.splitPairs query).map readForm :=
  rfl

/-- The keys of a state stand for themselves. -/
theorem all_isLiteral_of_mem_keys :
    ∀ key ∈ ListState.keys, key.toList.all isLiteral = true := by
  decide

/-- **ONE PAIR** of a state is read as its key and what its value spells. -/
theorem readForm_writePair {key : String} (hkey : key ∈ ListState.keys)
    {value plain : List Char} (h : Spells value plain) :
    readForm (ListState.writePair key value) = (key, String.ofList plain) := by
  have hequals : '=' ∉ key.toList := ListState.not_mem_key key hkey '=' (by decide)
  have hliteral := spells_literal (all_isLiteral_of_mem_keys key hkey)
  rw [readForm, ListState.writePair, cutFirst_append hequals]
  dsimp only [Option.getD_some]
  rw [hliteral.decodeForm, h.decodeForm, String.ofList_toList]

/-- The parameters of a state. -/
def parameters (s : ListState) : List (String × String) :=
  ("page", String.ofList (writeNatural (max s.page 1))) ::
    ((if s.sorters.isEmpty then [] else [("sort", String.ofList (plainSorters s.sorters))]) ++
      ((match s.selected with
        | none => []
        | some row => [("selected", row)]) ++
        [("scrollX", String.ofList s.scrollX.finiteOrZero.plain),
          ("scrollY", String.ofList s.scrollY.finiteOrZero.plain)]))

/-- **THE TEXT OF A STATE** is read as its parameters. -/
theorem queryPairs_write (s : ListState) : queryPairs s.write = parameters s := by
  have hsort : s.sortPairs.map readForm
      = if s.sorters.isEmpty then [] else [("sort", String.ofList (plainSorters s.sorters))] := by
    rw [ListState.sortPairs]
    split
    · rfl
    · rw [List.map_singleton, readForm_writePair (by decide) (spells_writeSorters s.sorters)]
  have hselected : s.selectedPairs.map readForm
      = match s.selected with
        | none => []
        | some row => [("selected", row)] := by
    rw [ListState.selectedPairs]
    cases s.selected with
    | none => rfl
    | some row =>
      dsimp only
      rw [List.map_singleton, readForm_writePair (by decide) (spells_encode row.toList),
        String.ofList_toList]
  rw [queryPairs_eq, ListState.splitPairs_write, ListState.pairs_eq, List.map_cons,
    List.map_append, List.map_append, hsort, hselected,
    readForm_writePair (by decide) (spells_writeNatural _), List.map_cons, List.map_singleton,
    readForm_writePair (by decide) (spells_plain _),
    readForm_writePair (by decide) (spells_plain _), parameters]

/-! ## Looking parameters up -/

/-- No parameter of a state is given twice. -/
theorem repeated?_parameters (s : ListState) :
    repeated? ["page", "size", "sort"] [] (parameters s) = none := by
  rw [parameters]
  cases s.sorters.isEmpty with
  | true => cases s.selected <;> rfl
  | false => cases s.selected <;> rfl

theorem parameter?_page (s : ListState) :
    parameter? "page" (parameters s) = some (String.ofList (writeNatural (max s.page 1))) :=
  rfl

theorem parameter?_size (s : ListState) : parameter? "size" (parameters s) = none := by
  rw [parameters]
  cases s.sorters.isEmpty with
  | true => cases s.selected <;> rfl
  | false => cases s.selected <;> rfl

theorem parameter?_sort (s : ListState) :
    parameter? "sort" (parameters s)
      = if s.sorters.isEmpty then none else some (String.ofList (plainSorters s.sorters)) := by
  rw [parameters]
  cases s.sorters.isEmpty with
  | true => cases s.selected <;> rfl
  | false => cases s.selected <;> rfl

end FindingsBrowser.Http
