import FindingsBrowser.Proofs.Navigation.ListRun
import FindingsBrowser.Row.Basic

/-! # Lists at any time — over tables that change and fetches that fail

    Every load goes to a source over some table, not always the same one, and may
    fail.

    * `Sound` holds throughout: the list is regular, and its page on display is laid
      out as a table's pages are.
    * `SelectionShown` holds from a load that succeeds, or from the start, until a
      restore takes over a state whose row need not be on display.
    * An event that fails changes nothing. -/

namespace FindingsBrowser.ListView

variable {ρ : Type} [TableRow ρ]

/-- A list opened for a window, or without one. -/
def opened (default : Sorter) (size : Nat) : Option BrowserHost → ListView ρ
  | none => fresh default size
  | some host => ofHost default size host

/-- Whether a history ends with a load that succeeds. -/
def EndsLoaded (start : ListView ρ) (history : List (ListEvent ρ)) : Prop :=
  ∃ past fetch page, history = past ++ [.load fetch]
    ∧ fetch (start.run past).request = .ok page

/-! ## The page on display -/

/-- What is true of a list at any time, whatever its sources answered. -/
structure Sound (default : Sorter) (size : Nat) (list : ListView ρ) : Prop extends
    Regular default size list where
  shown : list.shown.LaidOut (max size 1)

variable {default : Sorter} {size : Nat} {list : ListView ρ}

omit [TableRow ρ] in
theorem sound_opened (default : Sorter) (size : Nat) (window : Option BrowserHost) :
    Sound default size (opened default size window : ListView ρ) := by
  have hfresh : Regular default size (fresh default size : ListView ρ) :=
    regular_fresh default size
  cases window with
  | none => exact { toRegular := hfresh, shown := Or.inl rfl }
  | some host =>
      have hshown : (opened default size (some host) : ListView ρ).shown = .empty := by
        show ((fresh default size : ListView ρ).restore host.query).1.shown = _
        cases hread : ListState.read? host.query with
        | none => rw [restore_of_none hread]; rfl
        | some state => rw [restore_of_some hread]; rfl
      exact { toRegular := hfresh.restore host.query, shown := Or.inl hshown }

/-- **ONE EVENT** keeps a list sound, if it loads from a table. -/
theorem sound_step (h : Sound default size list) {e : ListEvent ρ} (he : ∃ rows, e.Over rows) :
    Sound default size (list.step e) := by
  refine { toRegular := regular_step h.toRegular e, shown := ?_ }
  rcases step_cases list e with ⟨fetch, page, rfl, hfetch, hstep⟩ | ⟨hshown, -⟩
  · obtain ⟨rows, hrows⟩ := he
    have hpage : page = queryRows rows list.request := hrows list.request page hfetch
    have hsize : max list.request.pageSize 1 = max size 1 := by
      show max list.pageSize 1 = max size 1
      rw [h.pageSize]
      omega
    rw [hstep, ← hsize]
    show page.LaidOut _
    rw [hpage]
    exact laidOut_queryRows rows list.request
  · rw [hshown]
    exact h.shown

/-- **EVERY RUN** over tables is sound. -/
theorem sound_run (h : Sound default size list) {history : List (ListEvent ρ)}
    (hover : ∀ e ∈ history, ∃ rows, e.Over rows) : Sound default size (list.run history) :=
  run_keeps (Sound default size) (fun _ _ he h => sound_step h he) h hover

/-! ## The selected row -/

/-- The selected row, if there is one, is on display. -/
def SelectionShown (list : ListView ρ) : Prop :=
  ∀ id, list.state.selected = some id → holds list.shown id = true

/-- A row is on display under its name. -/
theorem exists_of_holds {page : Page ρ} {id : String} (h : holds page id = true) :
    ∃ row ∈ page.rows, TableRow.id row = id := by
  obtain ⟨row, hrow, hid⟩ := List.any_eq_true.mp h
  exact ⟨row, hrow, beq_iff_eq.mp hid⟩

/-- **SHOWING A PAGE** leaves no other row selected than one of the page. -/
theorem selectionShown_display (list : ListView ρ) (page : Page ρ) :
    SelectionShown (list.display page) := by
  intro id hid
  have hfilter : list.state.selected.filter (holds page) = some id := hid
  exact (Option.filter_eq_some_iff.mp hfilter).2

theorem SelectionShown.row (h : SelectionShown list) {e : ListEvent ρ}
    (he : e.keepsPage = true) : SelectionShown (list.step e) := by
  rcases step_row_cases list he with hstep | ⟨state, hstep, -, -, hselected⟩
  · rw [hstep]
    exact h
  · rw [hstep]
    exact hselected

/-- **ONE EVENT** keeps the selected row on display, unless it restores a state. -/
theorem selectionShown_step (h : SelectionShown list) {e : ListEvent ρ}
    (he : e.restores = false) : SelectionShown (list.step e) := by
  cases e with
  | restore query =>
      have hread : ListState.read? query = none :=
        Option.isNone_iff_eq_none.mp (Option.isSome_eq_false_iff.mp he)
      show SelectionShown (list.restore query).1
      rw [restore_of_none hread]
      exact h
  | load fetch =>
      show SelectionShown (list.load fetch).1
      cases hfetch : fetch list.request with
      | error e =>
          rw [load_of_error hfetch]
          exact h
      | ok page =>
          rw [load_of_ok hfetch]
          exact selectionShown_display list page
  | setSorters sorters =>
      intro id hid
      have hselected : list.state.selected = some id :=
        (selected_withDefault list.defaultSorter
          { list.state with sorters, page := 1 }).symm.trans hid
      exact h id hselected
  | setPage page => exact h
  | select id => exact h.row rfl
  | clearSelection => exact h.row rfl
  | activate id host => exact h.row rfl

/-- **RUNS WITHOUT A RESTORED STATE** keep the selected row on display. -/
theorem selectionShown_run (h : SelectionShown list) {history : List (ListEvent ρ)}
    (hkeep : ∀ e ∈ history, e.restores = false) : SelectionShown (list.run history) :=
  run_keeps SelectionShown (fun _ _ he h => selectionShown_step h he) h hkeep

/-! ## After a load that succeeds -/

/-- A history that ends with a load ends with showing a page that was answered. -/
theorem EndsLoaded.run_eq {start : ListView ρ} {history : List (ListEvent ρ)}
    (h : EndsLoaded start history) : ∃ list page, start.run history = display list page := by
  obtain ⟨past, fetch, page, rfl, hfetch⟩ := h
  exact ⟨start.run past, page, run_load hfetch⟩

/-! ## Events that fail -/

theorem load_failed {fetch : PageRequest → Except FetchError (Page ρ)} {e : FetchError}
    (h : (list.load fetch).2 = .error e) : (list.load fetch).1 = list := by
  cases hfetch : fetch list.request with
  | error e' => rw [load_of_error hfetch]
  | ok page =>
      rw [load_of_ok hfetch] at h
      exact nomatch h

omit [TableRow ρ] in
theorem restore_failed {query : List Char} (h : (list.restore query).2 = false) :
    (list.restore query).1 = list := by
  cases hread : ListState.read? query with
  | none => rw [restore_of_none hread]
  | some state =>
      rw [restore_of_some hread] at h
      exact nomatch h

theorem select_failed {id : String} (h : (list.select id).2 = false) :
    (list.select id).1 = list := by
  cases hholds : holds list.shown id with
  | false => rw [select_of_not_holds hholds]
  | true =>
      rw [select_of_holds hholds] at h
      exact nomatch h

theorem activate_failed {id : String} {host : BrowserHost}
    (h : (list.activate id host).2.2 = none) : list.activate id host = (list, host, none) := by
  cases hholds : holds list.shown id with
  | false => exact activate_of_not_holds hholds host
  | true =>
      rw [activate_of_holds hholds] at h
      exact nomatch h

/-! ## All together -/

/-- **A LIST AT ANY TIME**, after any events over tables that may change and sources
    that may fail: page size and page number are positive and there is a sort order;
    the page on display is the empty one, or one of its table's pages with a row at
    least and no more than fit; after a load of a table that has rows the state's
    page number is that of the page on display; and since a load that succeeded, or
    since a start without a window, the selected row is on display, unless a state
    has been restored.  What fails leaves the list, and the window, as they were. -/
theorem list_at_any_time (default : Sorter) (size : Nat) (window : Option BrowserHost)
    (history : List (ListEvent ρ)) (hover : ∀ e ∈ history, ∃ rows, e.Over rows)
    (start list : ListView ρ) (hstart : start = opened default size window)
    (hlist : list = start.run history) :
    (1 ≤ list.pageSize ∧ 1 ≤ list.state.page ∧ list.state.sorters ≠ [])
      ∧ (list.shown = .empty ∨
          (1 ≤ list.shown.page ∧ list.shown.page ≤ list.shown.lastPage
            ∧ 1 ≤ list.shown.rows.length ∧ list.shown.rows.length ≤ list.pageSize))
      ∧ (∀ past fetch page rows, history = past ++ [.load fetch] →
          fetch (start.run past).request = .ok page → AnswersFrom rows fetch → rows ≠ [] →
          list.state.page = list.shown.page)
      ∧ (∀ past since, history = past ++ since →
          (window = none ∧ past = []) ∨ EndsLoaded start past →
          (∀ e ∈ since, e.restores = false) →
          ∀ id, list.state.selected = some id → ∃ row ∈ list.shown.rows, TableRow.id row = id)
      ∧ (∀ fetch e, (list.load fetch).2 = .error e → (list.load fetch).1 = list)
      ∧ (∀ query, (list.restore query).2 = false → (list.restore query).1 = list)
      ∧ (∀ id, (list.select id).2 = false → (list.select id).1 = list)
      ∧ (∀ id host, (list.activate id host).2.2 = none →
          list.activate id host = (list, host, none)) := by
  have hsound : Sound default size list := by
    rw [hlist, hstart]
    exact sound_run (sound_opened default size window) hover
  have hsize : list.pageSize = max size 1 := hsound.pageSize
  refine ⟨⟨?_, hsound.page_pos, hsound.sorters_ne_nil⟩, ?_, ?_, ?_, fun _ _ => load_failed,
    fun _ => restore_failed, fun _ => select_failed, fun _ _ => activate_failed⟩
  · rw [hsize]
    exact Nat.le_max_right size 1
  · rw [hsize]
    exact hsound.shown
  · intro past fetch page rows hhistory hfetch hrows hne
    have hdisplay : list = (start.run past).display page := by
      rw [hlist, hhistory, run_load hfetch]
    have hpage : 1 ≤ page.page := by
      rw [hrows _ _ hfetch]
      exact page_queryRows_pos hne _
    rw [hdisplay]
    exact if_pos hpage
  · intro past since hhistory hpast hsince id hid
    have hshown : SelectionShown (start.run past) := by
      rcases hpast with ⟨hwindow, hnil⟩ | hloaded
      · rw [hnil, hstart, hwindow]
        intro other hother
        rw [run_nil, opened, fresh, selected_withDefault] at hother
        exact nomatch hother
      · obtain ⟨before, page, hrun⟩ := hloaded.run_eq
        rw [hrun]
        exact selectionShown_display before page
    refine exists_of_holds ?_
    rw [hlist, hhistory, run_append] at hid ⊢
    exact selectionShown_run hshown hsince id hid

/-- A list opened for a window that asks for a page past the last one and for the third
    of three rows: another page is asked for during an outage, the table has lost its
    first row by the last load, and then the order is set back. -/
theorem list_at_any_time_shrinking :
    let source : MemorySource Row := { rows := [⟨"a", .empty⟩, ⟨"b", .empty⟩, ⟨"c", .empty⟩] }
    let down : MemorySource Row := { source with outage := some "down" }
    let shrunk : MemorySource Row := { rows := source.rows.tail }
    let past : List (ListEvent Row) :=
      [.load source.fetchPage, .setPage 4, .load down.fetchPage, .load shrunk.fetchPage]
    let since : List (ListEvent Row) := [.restore "utm=1".toList, .setSorters []]
    let list := (opened (.ascending "name") 2
      (some { location := "list?page=9&selected=c" })).run (past ++ since)
    (∀ e ∈ past ++ since, ∃ rows, e.Over rows)
      ∧ list.shown = ⟨1, 1, 2, shrunk.rows⟩
      ∧ 1 ≤ list.state.page
      ∧ (∀ id, list.state.selected = some id → ∃ row ∈ list.shown.rows, row.name = id)
      ∧ list.activate "a" { location := "list" } = (list, { location := "list" }, none) := by
  intro source down shrunk past since list
  have hsorted : sortRows [.ascending "name"] shrunk.rows = shrunk.rows :=
    List.mergeSort_of_pairwise (by decide)
  have hshown : list.shown = pageOf shrunk.rows 4 2 := by
    rw [← hsorted]
    rfl
  have hover : ∀ e ∈ past ++ since, ∃ rows, e.Over rows := by
    simp only [past, since, List.cons_append, List.nil_append, List.forall_mem_cons]
    exact ⟨⟨_, source.answersFrom⟩, ⟨[], trivial⟩, ⟨_, down.answersFrom⟩, ⟨_, shrunk.answersFrom⟩,
      ⟨[], trivial⟩, ⟨[], trivial⟩, List.forall_mem_nil _⟩
  obtain ⟨⟨-, hpage, -⟩, -, -, hselected, -, -, -, hactivate⟩ :=
    list_at_any_time (.ascending "name") 2 _ (past ++ since) hover _ list rfl rfl
  refine ⟨hover, hshown.trans (by decide), hpage, ?_, ?_⟩
  · refine hselected past since rfl (Or.inr ?_) (by decide)
    exact ⟨past.take 3, shrunk.fetchPage, _, rfl, rfl⟩
  · refine hactivate "a" _ ?_
    rw [activate_of_not_holds]
    rw [hshown]
    decide

end FindingsBrowser.ListView
