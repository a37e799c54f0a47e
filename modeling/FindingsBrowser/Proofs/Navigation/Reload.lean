import FindingsBrowser.Proofs.Navigation.ListInvariant

/-! # Loading again — a list that shows what it asks for stays as it is

    A load rewrites the request that it was made with: the page number becomes that of
    the page that came, and a selected row that is not on it is dropped.  The table
    answers the request as rewritten with the same page, and that page finds nothing to
    rewrite. -/

namespace FindingsBrowser

variable {ρ : Type} [TableRow ρ]

/-- **A SOURCE IN MEMORY** answers with the page of its rows, unless there is an outage. -/
theorem MemorySource.fetchPage_eq_ok_iff {source : MemorySource ρ} {request : PageRequest}
    {page : Page ρ} :
    source.fetchPage request = .ok page
      ↔ source.outage = none ∧ page = queryRows source.rows request := by
  rw [fetchPage]
  cases source.outage with
  | some message => simp
  | none =>
      dsimp only
      rw [Except.ok.injEq, eq_self_iff_true, true_and]
      exact eq_comm

namespace ListView

/-- A list that has the number of the page on display, and no selected row but one of it,
    is left as it is by showing that page. -/
theorem display_shown {list : ListView ρ}
    (hpage : 1 ≤ list.shown.page → list.state.page = list.shown.page)
    (hselected : SelectionShown list) : list.display list.shown = list := by
  have hnumber : (if 1 ≤ list.shown.page then list.shown.page else list.state.page)
      = list.state.page := by
    split
    · case _ h => exact (hpage h).symm
    · rfl
  have hkept : list.state.selected.filter (holds list.shown) = list.state.selected := by
    cases hid : list.state.selected with
    | none => rfl
    | some id => rw [Option.filter_some, if_pos (hselected id hid)]
  rw [display, hnumber, hkept]

/-- **A LIST THAT DESCRIBES A TABLE** is left as it is by a load from it. -/
theorem load_of_settled {rows : List ρ} {list : ListView ρ} (h : Describes rows list)
    (hselected : SelectionShown list) {fetch : PageRequest → Except FetchError (Page ρ)}
    (hfetch : fetch list.request = .ok (queryRows rows list.request)) :
    list.load fetch = (list, .ok list.shown) := by
  obtain ⟨hshown, hpage⟩ := h
  rw [hshown] at hfetch
  rw [load_of_ok hfetch, display_shown hpage hselected]

/-- A row is selected behind a load exactly if it was before and is on the page. -/
theorem selected_display_iff (list : ListView ρ) (page : Page ρ) (id : String) :
    (list.display page).state.selected = some id
      ↔ list.state.selected = some id ∧ ∃ row ∈ page.rows, TableRow.id row = id := by
  show list.state.selected.filter (holds page) = some id ↔ _
  rw [Option.filter_eq_some_iff]
  refine and_congr_right fun _ => ?_
  rw [holds, List.any_eq_true]
  simp only [beq_iff_eq]

/-- **LOADING A LIST AGAIN CHANGES NOTHING.**  Take any list at all and any table in
    memory.  Without an outage a load succeeds.  When one has succeeded, it has returned
    the page of the table that was asked for and shows it, a row is selected exactly if
    it was before and is on that page, and a second load returns the same page and
    leaves all of the list as it is. -/
theorem loading_again_changes_nothing (list : ListView ρ) (source : MemorySource ρ) :
    (source.outage = none → ∃ loaded page, list.load source.fetchPage = (loaded, .ok page))
      ∧ ∀ loaded page, list.load source.fetchPage = (loaded, .ok page) →
          page = queryRows source.rows list.request
            ∧ loaded.shown = page
            ∧ (∀ id, loaded.state.selected = some id
                ↔ list.state.selected = some id ∧ ∃ row ∈ page.rows, TableRow.id row = id)
            ∧ loaded.load source.fetchPage = (loaded, .ok page) := by
  constructor
  · intro hup
    exact ⟨_, _, load_of_ok (MemorySource.fetchPage_eq_ok_iff.mpr ⟨hup, rfl⟩)⟩
  · intro loaded page hload
    cases hfetch : source.fetchPage list.request with
    | error e =>
        rw [load_of_error hfetch] at hload
        exact nomatch hload
    | ok answered =>
        rw [load_of_ok hfetch] at hload
        cases hload
        obtain ⟨hup, hpage⟩ := MemorySource.fetchPage_eq_ok_iff.mp hfetch
        have hagain := MemorySource.fetchPage_eq_ok_iff.mpr
          ⟨hup, Eq.refl (queryRows source.rows (list.display page).request)⟩
        exact ⟨hpage, rfl, selected_display_iff list page,
          load_of_settled (describes_display hpage) (selectionShown_display list page) hagain⟩

end ListView

end FindingsBrowser
