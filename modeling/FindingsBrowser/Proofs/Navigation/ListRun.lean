import FindingsBrowser.Navigation.ListView
import FindingsBrowser.Proofs.Navigation.State
import FindingsBrowser.Proofs.Table.Page

/-! # Runs of a list — what every order of events keeps

    A list is restored, loaded, sorted, paged, selected in and left, in any
    order and with sources that fail or answer anything.

    * `run_keeps` is the induction over a history that the invariants share.
    * `Regular` holds throughout: page size and page number are positive and
      there is a sort order.
    * `step_row_cases` says what an event about a row may change, and `step_cases`
      which events change the page on display and the page that the list asks for.
    * `Describes` holds after a load from a table: the request is the one that
      the page on display answers.  It stays until another page is asked for. -/

namespace FindingsBrowser

/-- Something that happens to a list. -/
inductive ListEvent (ρ : Type) where
  | restore (query : List Char)
  | load (fetch : PageRequest → Except FetchError (Page ρ))
  | setSorters (sorters : List Sorter)
  | setPage (page : Nat)
  | select (id : String)
  | clearSelection
  | activate (id : String) (host : BrowserHost)

/-- Whether an event is about a row of the page on display, and not about which
    page that is. -/
def ListEvent.keepsPage {ρ : Type} : ListEvent ρ → Bool
  | .select _ | .clearSelection | .activate _ _ => true
  | _ => false

/-- Whether an event is a restore that takes a state over. -/
def ListEvent.restores {ρ : Type} : ListEvent ρ → Bool
  | .restore query => (ListState.read? query).isSome
  | _ => false

/-- Whether an event asks for a page anew. -/
def ListEvent.asks {ρ : Type} : ListEvent ρ → Bool
  | .setSorters _ | .setPage _ => true
  | e => e.restores

/-- Fetching from a table held in memory. -/
def fetchTable {ρ : Type} [TableRow ρ] (rows : List ρ) (request : PageRequest) :
    Except FetchError (Page ρ) :=
  .ok (queryRows rows request)

/-- A source over a table: whatever it answers is the page of the table that was asked
    for.  It may fail at any request. -/
def AnswersFrom {ρ : Type} [TableRow ρ] (rows : List ρ)
    (fetch : PageRequest → Except FetchError (Page ρ)) : Prop :=
  ∀ request page, fetch request = .ok page → page = queryRows rows request

theorem answersFrom_fetchTable {ρ : Type} [TableRow ρ] (rows : List ρ) :
    AnswersFrom rows (fetchTable rows) :=
  fun _ _ h => (Except.ok.inj h).symm

/-- A source in memory answers from its rows, unless there is an outage. -/
theorem MemorySource.answersFrom {ρ : Type} [TableRow ρ] (source : MemorySource ρ) :
    AnswersFrom source.rows source.fetchPage := by
  intro request page h
  rw [fetchPage] at h
  split at h
  · exact nomatch h
  · exact (Except.ok.inj h).symm

/-- Whether an event that loads does so from a source over the table. -/
def ListEvent.Over {ρ : Type} [TableRow ρ] (rows : List ρ) : ListEvent ρ → Prop
  | .load fetch => AnswersFrom rows fetch
  | _ => True

namespace ListView

variable {ρ : Type} [TableRow ρ]

/-- What one event makes of a list. -/
def step (list : ListView ρ) : ListEvent ρ → ListView ρ
  | .restore query => (list.restore query).1
  | .load fetch => (list.load fetch).1
  | .setSorters sorters => list.setSorters sorters
  | .setPage page => list.setPage page
  | .select id => (list.select id).1
  | .clearSelection => list.clearSelection
  | .activate id host => (list.activate id host).1

/-- What a history makes of a list. -/
def run (list : ListView ρ) (history : List (ListEvent ρ)) : ListView ρ :=
  history.foldl step list

theorem run_append (list : ListView ρ) (past future : List (ListEvent ρ)) :
    list.run (past ++ future) = (list.run past).run future :=
  List.foldl_append

theorem run_nil (list : ListView ρ) : list.run [] = list :=
  rfl

theorem run_cons (list : ListView ρ) (e : ListEvent ρ) (rest : List (ListEvent ρ)) :
    list.run (e :: rest) = (list.step e).run rest :=
  rfl

/-- **INVARIANTS**: what each event of a kind keeps, a history of such events keeps. -/
theorem run_keeps (P : ListView ρ → Prop) {Q : ListEvent ρ → Prop}
    (hstep : ∀ list e, Q e → P list → P (list.step e)) {list : ListView ρ} (h : P list)
    {history : List (ListEvent ρ)} (hkind : ∀ e ∈ history, Q e) : P (list.run history) := by
  induction history generalizing list with
  | nil => exact h
  | cons e rest ih =>
      rw [run_cons]
      exact ih (hstep list e (hkind e List.mem_cons_self) h)
        (fun e' he' => hkind e' (List.mem_cons_of_mem e he'))

omit [TableRow ρ] in
/-- A list made for a window is a fresh one that takes over the window's query. -/
theorem ofHost_eq (default : Sorter) (size : Nat) (host : BrowserHost) :
    ofHost default size host = ((fresh default size : ListView ρ).restore host.query).1 :=
  rfl

/-! ## Selecting and leaving -/

/-- The state that a list leaves with for a row's detail view. -/
def leaving (list : ListView ρ) (id : String) (host : BrowserHost) : ListState :=
  { list.state with
    selected := some id
    scrollX := host.scrollX
    scrollY := host.scrollY }

/-- A row on display can be selected. -/
theorem select_of_holds {list : ListView ρ} {id : String} (h : holds list.shown id = true) :
    list.select id = ({ list with state := { list.state with selected := some id } }, true) :=
  if_pos h

/-- A row that is not on display is not selected, and nothing changes. -/
theorem select_of_not_holds {list : ListView ρ} {id : String}
    (h : holds list.shown id = false) : list.select id = (list, false) :=
  if_neg (ne_true_of_eq_false h)

/-- **LEAVING** succeeds for a row on display; then the list and the URL have the
    state it leaves with, and the window goes to the URL. -/
theorem activate_of_holds {list : ListView ρ} {id : String} (h : holds list.shown id = true)
    (host : BrowserHost) :
    list.activate id host =
      ({ list with state := list.leaving id host },
        host.navigate (String.ofList (NavigationLink.write ⟨id, list.leaving id host⟩)),
        some (String.ofList (NavigationLink.write ⟨id, list.leaving id host⟩))) := by
  rw [activate, select, if_pos h]
  rfl

/-- A row that is not on display is not left for, and nothing changes. -/
theorem activate_of_not_holds {list : ListView ρ} {id : String}
    (h : holds list.shown id = false) (host : BrowserHost) :
    list.activate id host = (list, host, none) := by
  have hne : ¬ holds list.shown id = true := by
    rw [h]
    exact Bool.false_ne_true
  rw [activate, select, if_neg hne]

/-- A list that was left had the row on display. -/
theorem activate_eq_some {list left : ListView ρ} {id : String} {host there : BrowserHost}
    {url : String} (h : list.activate id host = (left, there, some url)) :
    holds list.shown id = true
      ∧ left = { list with state := list.leaving id host }
      ∧ there = host.navigate (String.ofList (NavigationLink.write ⟨id, list.leaving id host⟩))
      ∧ url = String.ofList (NavigationLink.write ⟨id, list.leaving id host⟩) := by
  cases hholds : holds list.shown id with
  | true =>
      rw [activate_of_holds hholds] at h
      cases h
      exact ⟨rfl, rfl, rfl, rfl⟩
  | false =>
      rw [activate_of_not_holds hholds] at h
      cases h

/-- **AN EVENT ABOUT A ROW** leaves the list as it is, or changes no more of its state than
    the selection and the offsets; a row that is selected then is on display. -/
theorem step_row_cases (list : ListView ρ) {e : ListEvent ρ} (he : e.keepsPage = true) :
    list.step e = list
      ∨ ∃ state, list.step e = { list with state } ∧ state.page = list.state.page
          ∧ state.sorters = list.state.sorters
          ∧ ∀ id, state.selected = some id → holds list.shown id = true := by
  cases e with
  | select id =>
      cases hholds : holds list.shown id with
      | true =>
          refine Or.inr ⟨_, congrArg Prod.fst (select_of_holds hholds), rfl, rfl, ?_⟩
          rintro other ⟨⟩
          exact hholds
      | false => exact Or.inl (congrArg Prod.fst (select_of_not_holds hholds))
  | clearSelection => exact Or.inr ⟨_, rfl, rfl, rfl, fun id hid => nomatch hid⟩
  | activate id host =>
      cases hholds : holds list.shown id with
      | true =>
          refine Or.inr ⟨_, congrArg Prod.fst (activate_of_holds hholds host), rfl, rfl, ?_⟩
          rintro other ⟨⟩
          exact hholds
      | false => exact Or.inl (congrArg Prod.fst (activate_of_not_holds hholds host))
  | restore _ => exact nomatch he
  | load _ => exact nomatch he
  | setSorters _ => exact nomatch he
  | setPage _ => exact nomatch he

/-- So it changes neither the page on display nor the request. -/
theorem step_of_keepsPage (list : ListView ρ) {e : ListEvent ρ} (he : e.keepsPage = true) :
    (list.step e).shown = list.shown ∧ (list.step e).request = list.request := by
  rcases step_row_cases list he with hstep | ⟨state, hstep, hpage, hsorters, -⟩
  · rw [hstep]
    exact ⟨rfl, rfl⟩
  · rw [hstep, request, request]
    dsimp only
    rw [hpage, hsorters]
    exact ⟨rfl, rfl⟩

/-- Nor do any number of them. -/
theorem run_of_keepsPage (history : List (ListEvent ρ)) (list : ListView ρ)
    (h : ∀ e ∈ history, e.keepsPage = true) :
    (list.run history).shown = list.shown ∧ (list.run history).request = list.request := by
  refine run_keeps (fun later => later.shown = list.shown ∧ later.request = list.request)
    ?_ ⟨rfl, rfl⟩ h
  rintro later e he ⟨hshown, hrequest⟩
  obtain ⟨hshown', hrequest'⟩ := step_of_keepsPage later he
  exact ⟨hshown'.trans hshown, hrequest'.trans hrequest⟩

/-! ## Restoring and loading -/

omit [TableRow ρ] in
/-- A text without a state is not restored, and nothing changes. -/
theorem restore_of_none {query : List Char} (h : ListState.read? query = none)
    (list : ListView ρ) : list.restore query = (list, false) := by
  rw [restore, h]

omit [TableRow ρ] in
/-- A text with a state is restored: the list takes the state over. -/
theorem restore_of_some {query : List Char} {state : ListState}
    (h : ListState.read? query = some state) (list : ListView ρ) :
    list.restore query =
      ({ list with
          state := state.withDefault list.defaultSorter
          scrollTarget := some ((state.withDefault list.defaultSorter).scrollX,
            (state.withDefault list.defaultSorter).scrollY) }, true) := by
  rw [restore, h]

/-- A load that fails changes nothing. -/
theorem load_of_error {list : ListView ρ} {fetch : PageRequest → Except FetchError (Page ρ)}
    {e : FetchError} (h : fetch list.request = .error e) :
    list.load fetch = (list, .error e) := by
  rw [load, h]

/-- A load that succeeds shows the page. -/
theorem load_of_ok {list : ListView ρ} {fetch : PageRequest → Except FetchError (Page ρ)}
    {page : Page ρ} (h : fetch list.request = .ok page) :
    list.load fetch = (list.display page, .ok page) := by
  rw [load, h]

/-- A history that ends with a load that succeeds ends with showing the page. -/
theorem run_load {start : ListView ρ} {past : List (ListEvent ρ)}
    {fetch : PageRequest → Except FetchError (Page ρ)} {page : Page ρ}
    (h : fetch (start.run past).request = .ok page) :
    start.run (past ++ [.load fetch]) = (start.run past).display page := by
  rw [run_append]
  show ((start.run past).load fetch).1 = _
  rw [load_of_ok h]

/-- **ONE EVENT** shows the page that it loads, or else leaves the page on display as it
    is; then the request stays too, unless the event asks anew. -/
theorem step_cases (list : ListView ρ) (e : ListEvent ρ) :
    (∃ fetch page, e = .load fetch ∧ fetch list.request = .ok page
        ∧ list.step e = list.display page)
      ∨ (list.step e).shown = list.shown
          ∧ (e.asks = false → (list.step e).request = list.request) := by
  cases e with
  | restore query =>
      refine Or.inr ?_
      show (list.restore query).1.shown = list.shown
        ∧ ((ListState.read? query).isSome = false → (list.restore query).1.request = list.request)
      cases hread : ListState.read? query with
      | none =>
          rw [restore_of_none hread]
          exact ⟨rfl, fun _ => rfl⟩
      | some state =>
          rw [restore_of_some hread]
          exact ⟨rfl, fun h => nomatch h⟩
  | load fetch =>
      show (∃ _, _) ∨ (list.load fetch).1.shown = list.shown
        ∧ (_ → (list.load fetch).1.request = list.request)
      cases hfetch : fetch list.request with
      | error e =>
          rw [load_of_error hfetch]
          exact Or.inr ⟨rfl, fun _ => rfl⟩
      | ok page =>
          refine Or.inl ⟨fetch, page, rfl, hfetch, ?_⟩
          show (list.load fetch).1 = _
          rw [load_of_ok hfetch]
  | setSorters sorters => exact Or.inr ⟨rfl, fun h => nomatch h⟩
  | setPage page => exact Or.inr ⟨rfl, fun h => nomatch h⟩
  | select id =>
      obtain ⟨hshown, hrequest⟩ := step_of_keepsPage list (e := .select id) rfl
      exact Or.inr ⟨hshown, fun _ => hrequest⟩
  | clearSelection => exact Or.inr ⟨rfl, fun _ => rfl⟩
  | activate id host =>
      obtain ⟨hshown, hrequest⟩ := step_of_keepsPage list (e := .activate id host) rfl
      exact Or.inr ⟨hshown, fun _ => hrequest⟩

/-! ## What every run keeps -/

/-- What is true of a list of a default order and a page size at any time. -/
structure Regular (default : Sorter) (size : Nat) (list : ListView ρ) : Prop where
  defaultSorter : list.defaultSorter = default
  pageSize : list.pageSize = max size 1
  page_pos : 1 ≤ list.state.page
  sorters_ne_nil : list.state.sorters ≠ []

omit [TableRow ρ] in
/-- A state with the default order has an order. -/
theorem sorters_withDefault (default : Sorter) (s : ListState) :
    (s.withDefault default).sorters ≠ [] := by
  rw [ListState.withDefault]
  split
  · exact List.cons_ne_nil _ _
  · case _ h =>
      intro hnil
      rw [hnil] at h
      exact h rfl

omit [TableRow ρ] in
theorem page_withDefault (default : Sorter) (s : ListState) :
    (s.withDefault default).page = s.page := by
  rw [ListState.withDefault]
  split
  · rfl
  · rfl

omit [TableRow ρ] in
theorem selected_withDefault (default : Sorter) (s : ListState) :
    (s.withDefault default).selected = s.selected := by
  rw [ListState.withDefault]
  split
  · rfl
  · rfl

omit [TableRow ρ] in
theorem regular_fresh (default : Sorter) (size : Nat) :
    Regular default size (fresh default size : ListView ρ) :=
  { defaultSorter := rfl
    pageSize := rfl
    page_pos := (page_withDefault default {}).ge
    sorters_ne_nil := sorters_withDefault default {} }

variable {default : Sorter} {size : Nat} {list : ListView ρ}

omit [TableRow ρ] in
/-- Selection and offsets are free. -/
theorem Regular.withState (h : Regular default size list) {state : ListState}
    (hpage : state.page = list.state.page) (hsorters : state.sorters = list.state.sorters) :
    Regular default size { list with state } :=
  { defaultSorter := h.defaultSorter
    pageSize := h.pageSize
    page_pos := hpage ▸ h.page_pos
    sorters_ne_nil := hsorters ▸ h.sorters_ne_nil }

omit [TableRow ρ] in
theorem Regular.restore (h : Regular default size list) (query : List Char) :
    Regular default size (list.restore query).1 := by
  cases hread : ListState.read? query with
  | none =>
      rw [restore_of_none hread]
      exact h
  | some state =>
      rw [restore_of_some hread]
      exact
        { defaultSorter := h.defaultSorter
          pageSize := h.pageSize
          page_pos := (page_withDefault _ state).symm ▸ (ListState.regular_of_read? hread).page_pos
          sorters_ne_nil := sorters_withDefault _ state }

theorem Regular.load (h : Regular default size list)
    (fetch : PageRequest → Except FetchError (Page ρ)) :
    Regular default size (list.load fetch).1 := by
  cases hfetch : fetch list.request with
  | error e =>
      rw [load_of_error hfetch]
      exact h
  | ok page =>
      rw [load_of_ok hfetch]
      -- an empty page has number 0, and leaves the state's number alone
      have hpage : 1 ≤ (list.display page).state.page := by
        show 1 ≤ if 1 ≤ page.page then page.page else list.state.page
        split
        · assumption
        · exact h.page_pos
      exact
        { defaultSorter := h.defaultSorter
          pageSize := h.pageSize
          page_pos := hpage
          sorters_ne_nil := h.sorters_ne_nil }

theorem Regular.row (h : Regular default size list) {e : ListEvent ρ}
    (he : e.keepsPage = true) : Regular default size (list.step e) := by
  rcases step_row_cases list he with hstep | ⟨state, hstep, hpage, hsorters, -⟩
  · rw [hstep]
    exact h
  · rw [hstep]
    exact h.withState hpage hsorters

/-- **ONE EVENT** keeps a list regular. -/
theorem regular_step (h : Regular default size list) (e : ListEvent ρ) :
    Regular default size (list.step e) := by
  cases e with
  | restore query => exact h.restore query
  | load fetch => exact h.load fetch
  | setSorters sorters =>
      exact
        { defaultSorter := h.defaultSorter
          pageSize := h.pageSize
          page_pos :=
            (page_withDefault list.defaultSorter { list.state with sorters, page := 1 }).ge
          sorters_ne_nil := sorters_withDefault _ _ }
  | setPage page =>
      exact
        { defaultSorter := h.defaultSorter
          pageSize := h.pageSize
          page_pos := Nat.le_max_right page 1
          sorters_ne_nil := h.sorters_ne_nil }
  | select id => exact h.row rfl
  | clearSelection => exact h.row rfl
  | activate id host => exact h.row rfl

/-- **EVERY RUN** of a fresh list is regular. -/
theorem regular_run (h : Regular default size list) (history : List (ListEvent ρ)) :
    Regular default size (list.run history) := by
  refine run_keeps (Regular default size) (Q := fun _ => True) ?_ h fun _ _ => trivial
  intro _ e _ h
  exact regular_step h e

/-! ## After a load from a table -/

/-- The page on display is the one the list asks a table for, under the number it
    came with. -/
def Describes (rows : List ρ) (list : ListView ρ) : Prop :=
  queryRows rows list.request = list.shown
    ∧ (1 ≤ list.shown.page → list.request.page = list.shown.page)

/-- **LOADING** makes a list describe the table. -/
theorem describes_load (rows : List ρ) (list : ListView ρ) :
    Describes rows (list.step (.load (fetchTable rows))) :=
  ⟨queryRows_page rows list.request, fun h => if_pos h⟩

/-- Showing the page that was asked for does so. -/
theorem describes_display {rows : List ρ} {list : ListView ρ} {page : Page ρ}
    (hpage : page = queryRows rows list.request) : Describes rows (list.display page) := by
  rw [hpage]
  exact describes_load rows list

/-- **ONE EVENT** over the table keeps that, unless it asks anew. -/
theorem describes_step {rows : List ρ} {list : ListView ρ} (h : Describes rows list)
    {e : ListEvent ρ} (hover : e.Over rows) (hkeep : e.asks = false) :
    Describes rows (list.step e) := by
  rcases step_cases list e with ⟨fetch, page, rfl, hfetch, hstep⟩ | ⟨hshown, hrequest⟩
  · rw [hstep]
    exact describes_display (hover list.request page hfetch)
  · rw [Describes, hshown, hrequest hkeep]
    exact h

/-- Selecting and leaving keep that. -/
theorem describes_run {rows : List ρ} {list : ListView ρ} (h : Describes rows list)
    {history : List (ListEvent ρ)} (hkeep : ∀ e ∈ history, e.keepsPage = true) :
    Describes rows (list.run history) := by
  obtain ⟨hshown, hrequest⟩ := run_of_keepsPage history list hkeep
  rw [Describes, hshown, hrequest]
  exact h

end ListView

end FindingsBrowser
