import FindingsBrowser.Proofs.Navigation.Link
import FindingsBrowser.Proofs.Navigation.ListRun
import FindingsBrowser.Row.Basic

/-! # Coming back — a list is found again as it was left

    A list is left for a row's detail view with a URL.  A list made from the
    window that went there, or one that restores the URL, asks for the same page
    under the same order; the row is on it, so it stays selected. -/

namespace FindingsBrowser.ListView

open Text

variable {ρ : Type} [TableRow ρ]

omit [TableRow ρ] in
/-- A fresh list that has taken a state over. -/
def arriving (default : Sorter) (size : Nat) (state : ListState) : ListView ρ :=
  { (fresh default size : ListView ρ) with
    state
    scrollTarget := some (state.scrollX, state.scrollY) }

omit [TableRow ρ] in
/-- Restoring a text whose state has a sort order takes that state over. -/
theorem restore_fresh (default : Sorter) (size : Nat) {query : List Char} {state : ListState}
    (hread : ListState.read? query = some state) (hsorters : state.sorters ≠ []) :
    (fresh default size : ListView ρ).restore query = (arriving default size state, true) := by
  have hdefault : state.withDefault (fresh default size : ListView ρ).defaultSorter = state :=
    if_neg fun h => hsorters (List.isEmpty_iff.mp h)
  rw [restore, hread]
  dsimp only
  rw [hdefault]
  rfl

/-- Showing the page that a list asks for, with its selected row on it, changes
    nothing but what is on display. -/
theorem display_of_selected {list : ListView ρ} {page : Page ρ} {id : String}
    (hpage : 1 ≤ page.page → list.state.page = page.page)
    (hselected : list.state.selected = some id) (hholds : holds page id = true) :
    list.display page = { list with shown := page } := by
  have hnumber : (if 1 ≤ page.page then page.page else list.state.page) = list.state.page := by
    split
    · case _ h => exact (hpage h).symm
    · rfl
  have hkept : list.state.selected.filter (holds page) = list.state.selected := by
    rw [hselected, Option.filter_some, if_pos hholds]
  rw [display, hnumber, hkept]

/-- A row on display of a described table: the list's page number is that of a
    page, and no larger than the number of rows. -/
theorem Describes.page_le {rows : List ρ} {list : ListView ρ} (h : Describes rows list)
    {id : String} (hholds : holds list.shown id = true) :
    1 ≤ list.state.page ∧ list.state.page ≤ rows.length := by
  obtain ⟨hshown, hpage⟩ := h
  obtain ⟨row, hrow, -⟩ := List.any_eq_true.mp hholds
  rw [← hshown] at hrow hpage
  obtain ⟨hlow, hhigh⟩ := page_queryRows_bounds hrow
  have hnumber : list.state.page = (queryRows rows list.request).page := hpage hlow
  rw [hnumber]
  exact ⟨hlow, hhigh⟩

/-- The state that the URL of a departure carries: an offset that is not finite is
    written as 0. -/
def carried (list : ListView ρ) (id : String) (host : BrowserHost) : ListState :=
  { list.leaving id host with
    scrollX := host.scrollX.finiteOrZero
    scrollY := host.scrollY.finiteOrZero }

/-- What the URL of a departure carries can be read back from it. -/
theorem read?_carried {rows : List ρ} (hrows : rows.length < wordLimit)
    {list : ListView ρ} (hdescribes : Describes rows list)
    (hsorters : ∀ sorter ∈ list.state.sorters, sorter.column ≠ "")
    {id : String} (hholds : holds list.shown id = true) (host : BrowserHost) :
    ListState.read? (list.leaving id host).write = some (list.carried id host) := by
  obtain ⟨hlow, hhigh⟩ := hdescribes.page_le hholds
  have hnamed : (list.leaving id host).namedSorters = list.state.sorters :=
    List.filter_eq_self.mpr fun sorter h => decide_eq_true (hsorters sorter h)
  have hpage : max (list.leaving id host).page 1 = list.state.page := max_eq_left hlow
  have hword : (list.leaving id host).page < wordLimit := Nat.lt_of_le_of_lt hhigh hrows
  rw [ListState.read?_write _ hword, hnamed, hpage]
  rfl

/-- **THE STATE A LIST LEAVES WITH** can be read back from its text as it is, if the
    offsets are finite. -/
theorem read?_leaving {rows : List ρ} (hrows : rows.length < wordLimit)
    {list : ListView ρ} (hdescribes : Describes rows list)
    (hsorters : ∀ sorter ∈ list.state.sorters, sorter.column ≠ "")
    {id : String} (hholds : holds list.shown id = true) {host : BrowserHost}
    (hx : host.scrollX.isFinite = true) (hy : host.scrollY.isFinite = true) :
    ListState.read? (list.leaving id host).write = some (list.leaving id host) := by
  have hfinite : list.carried id host = list.leaving id host := by
    rw [carried, Binary64.finiteOrZero, if_pos hx, Binary64.finiteOrZero, if_pos hy]
    rfl
  rw [read?_carried hrows hdescribes hsorters hholds host, hfinite]

/-- A list that asks a described table for the page on display, with one of its
    rows selected, loads that page and keeps all it has. -/
theorem load_of_describes {rows : List ρ} {list : ListView ρ}
    (hdescribes : Describes rows list) {id : String} (hholds : holds list.shown id = true)
    {back : ListView ρ} (hrequest : back.request = list.request)
    (hselected : back.state.selected = some id) :
    back.load (fetchTable rows) = ({ back with shown := list.shown }, .ok list.shown) := by
  obtain ⟨hshown, hpage⟩ := hdescribes
  have hfetch : fetchTable rows back.request = .ok list.shown := by
    rw [hrequest, fetchTable, hshown]
  have hnumber : 1 ≤ list.shown.page → back.state.page = list.shown.page := by
    intro h
    rw [← hpage h, ← hrequest]
    rfl
  rw [load, hfetch]
  dsimp only
  rw [display_of_selected hnumber hselected hholds]

/-- **COMING BACK RESTORES THE LIST.**  After any history whose last load was over
    some rows, with nothing since but selections and departures, a list is left
    for a row of its page.  (Rows are counted in 64 bits, and so are pages.)  Then
    a list made from the window that went there, and a fresh one that restores the
    URL, load from the same rows the page that was on display, under the same
    order, with the row selected and the window's offsets to scroll to. -/
theorem returning_restores_list (default : Sorter) (size : Nat) (rows : List ρ)
    (hrows : rows.length < wordLimit) (past since : List (ListEvent ρ))
    (hsince : ∀ e ∈ since, e.keepsPage = true) (list : ListView ρ)
    (hlist : list = (fresh default size).run (past ++ .load (fetchTable rows) :: since))
    (hsorters : ∀ sorter ∈ list.state.sorters, sorter.column ≠ "")
    (id : String) (host : BrowserHost)
    (hx : host.scrollX.isFinite = true) (hy : host.scrollY.isFinite = true)
    (left : ListView ρ) (there : BrowserHost) (url : String)
    (hleave : list.activate id host = (left, there, some url)) :
    ∀ back ∈ [ofHost default size there, ((fresh default size).restore url.toList).1],
      ∃ again : ListView ρ,
        back.load (fetchTable rows) = (again, .ok list.shown)
        ∧ again.shown = list.shown
        ∧ again.state.sorters = list.state.sorters
        ∧ again.state.selected = some id
        ∧ again.scrollTarget = some (host.scrollX, host.scrollY) := by
  have hregular : Regular default size list := by
    rw [hlist]
    exact regular_run (regular_fresh default size) _
  have hdescribes : Describes rows list := by
    rw [hlist, run_append, run_cons]
    exact describes_run (describes_load rows _) hsince
  obtain ⟨hholds, -, rfl, rfl⟩ := activate_eq_some hleave
  have hread := read?_leaving hrows hdescribes hsorters hholds hx hy
  have hread' := (NavigationLink.read?_write ⟨id, list.leaving id host⟩).trans hread
  have hstate : (list.leaving id host).sorters ≠ [] := hregular.sorters_ne_nil
  have hrequest : (arriving default size (list.leaving id host) : ListView ρ).request
      = list.request := by
    rw [request, request, hregular.pageSize]
    rfl
  -- both ways lead to a fresh list in the state of the departure
  have harrive : ∀ back : ListView ρ, back = arriving default size (list.leaving id host) →
      ∃ again : ListView ρ,
        back.load (fetchTable rows) = (again, .ok list.shown)
          ∧ again.shown = list.shown
          ∧ again.state.sorters = list.state.sorters
          ∧ again.state.selected = some id
          ∧ again.scrollTarget = some (host.scrollX, host.scrollY) := by
    rintro back rfl
    exact ⟨_, load_of_describes hdescribes hholds hrequest rfl, rfl, rfl, rfl, rfl⟩
  intro back hmem
  refine harrive back ?_
  rcases List.mem_cons.mp hmem with heq | hmem
  · rw [heq, ofHost_eq, BrowserHost.query_navigate, restore_fresh default size hread hstate]
  · rw [List.mem_singleton.mp hmem, String.toList_ofList,
      restore_fresh default size hread' hstate]

/-- Three rows by falling cost, two to a page: the third is left for from the second
    page, whose number was asked for as 9. -/
theorem returning_restores_list_clamped :
    let rows : List Row :=
      [⟨"bread/rye?", .ofList [("cost:%,", .number ⟨false, 3⟩)]⟩,
        ⟨"tart & pie#2", .ofList [("cost:%,", .number ⟨false, 2⟩)]⟩, ⟨"été+1", .empty⟩]
    let list := (fresh (.ascending "name") 2).run
      ([.setSorters [⟨"cost:%,", .desc⟩], .setPage 9] ++ .load (fetchTable rows)
        :: [.select "bread/rye?", .clearSelection])
    let host : BrowserHost := { location := "/list", scrollX := ⟨true, 0⟩, scrollY := ⟨false, 1⟩ }
    list.shown.page = 2 ∧
    ∃ again : ListView Row,
      (ofHost (.ascending "name") 2 (list.activate "été+1" host).2.1).load (fetchTable rows)
          = (again, .ok list.shown)
        ∧ again.shown = list.shown
        ∧ again.state.sorters = list.state.sorters
        ∧ again.state.selected = some "été+1"
        ∧ again.scrollTarget = some (⟨true, 0⟩, ⟨false, 1⟩) := by
  intro rows list host
  have hkeep := run_of_keepsPage [.select "bread/rye?", .clearSelection]
    ((fresh (.ascending "name") 2).run
      [.setSorters [⟨"cost:%,", .desc⟩], .setPage 9, .load (fetchTable rows)]) (by decide)
  have hsorted : sortRows [⟨"cost:%,", .desc⟩] rows = rows :=
    List.mergeSort_of_pairwise (by decide)
  have hshown : list.shown = pageOf rows 9 2 := by
    rw [← hsorted]
    exact hkeep.1
  have hsorters : list.state.sorters = [⟨"cost:%,", .desc⟩] :=
    congrArg PageRequest.sorters hkeep.2
  have hholds : holds list.shown "été+1" = true := by
    rw [hshown]
    decide
  have hleave := activate_of_holds hholds host
  rw [hleave]
  refine ⟨by rw [hshown]; decide, ?_⟩
  exact returning_restores_list (.ascending "name") 2 rows (by decide) _ _ (by decide) list rfl
    (by rw [hsorters]; decide) "été+1" host (by decide) (by decide) _ _ _ hleave _
    List.mem_cons_self

end FindingsBrowser.ListView
