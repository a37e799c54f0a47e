import FindingsBrowser.Navigation.Link
import FindingsBrowser.Table.Page
import FindingsBrowser.Viewer.Source

/-! # List view — a paged table that survives a round trip to a detail view

    The view holds a request (page, sort order, selection, scroll position) and
    the page shown last. A load brings the two together; a failed one changes
    nothing. -/

namespace FindingsBrowser

/-- A sortable, paged list of rows. -/
structure ListView (ρ : Type) where
  defaultSorter : Sorter
  pageSize : Nat
  state : ListState
  /-- The page on display. -/
  shown : Page ρ
  /-- The scroll position to go to once the page is shown. -/
  scrollTarget : Option (Binary64 × Binary64)

namespace ListView

variable {ρ : Type} [TableRow ρ]

omit [TableRow ρ] in
/-- A fresh list on its first page. -/
def fresh (defaultSorter : Sorter) (pageSize : Nat) : ListView ρ :=
  { defaultSorter
    pageSize := max pageSize 1
    state := ({} : ListState).withDefault defaultSorter
    shown := .empty
    scrollTarget := none }

/-- Take over the state a query text carries, if it carries one. -/
def restore (list : ListView ρ) (query : List Char) : ListView ρ × Bool :=
  match ListState.read? query with
  | none => (list, false)
  | some state =>
      let state := state.withDefault list.defaultSorter
      ({ list with state, scrollTarget := some (state.scrollX, state.scrollY) }, true)

/-- A list in the state of the host's location. -/
def ofHost (defaultSorter : Sorter) (pageSize : Nat) (host : BrowserHost) : ListView ρ :=
  ((fresh defaultSorter pageSize).restore host.query).1

/-- The page the list wants to show. -/
def request (list : ListView ρ) : PageRequest :=
  ⟨list.state.page, list.pageSize, list.state.sorters⟩

/-- Whether a page holds a row of this name. -/
def holds (page : Page ρ) (id : String) : Bool :=
  page.rows.any fun row => TableRow.id row == id

/-- The list with a page on display. Its number becomes the state's, and a
    selected row that is not on it is dropped. -/
def display (list : ListView ρ) (page : Page ρ) : ListView ρ :=
  let state := list.state
  { list with
    shown := page
    state :=
      { state with
        page := if 1 ≤ page.page then page.page else state.page
        selected := state.selected.filter (holds page) } }

/-- Fetch the wanted page and show it. -/
def load (list : ListView ρ) (fetch : PageRequest → Except FetchError (Page ρ)) :
    ListView ρ × Except FetchError (Page ρ) :=
  match fetch list.request with
  | .error e => (list, .error e)
  | .ok page => (list.display page, .ok page)

/-- Change the sort order, the default one for none, and go to the first
    page. -/
def setSorters (list : ListView ρ) (sorters : List Sorter) : ListView ρ :=
  let state := { list.state with sorters, page := 1 }
  { list with state := state.withDefault list.defaultSorter }

def setPage (list : ListView ρ) (page : Nat) : ListView ρ :=
  { list with state := { list.state with page := max page 1 } }

/-- Select a row on display. -/
def select (list : ListView ρ) (id : String) : ListView ρ × Bool :=
  if holds list.shown id then
    ({ list with state := { list.state with selected := some id } }, true)
  else (list, false)

def clearSelection (list : ListView ρ) : ListView ρ :=
  { list with state := { list.state with selected := none } }

/-- The URL of a row's detail view, carrying the current state. -/
def link (list : ListView ρ) (id : String) : String :=
  String.ofList (NavigationLink.write ⟨id, list.state⟩)

/-- Select a row on display, note the host's scroll position and go to the row's
    detail view; `none` if the row is not on display. -/
def activate (list : ListView ρ) (id : String) (host : BrowserHost) :
    ListView ρ × BrowserHost × Option String :=
  match list.select id with
  | (_, false) => (list, host, none)
  | (list, true) =>
      let list :=
        { list with
          state := { list.state with scrollX := host.scrollX, scrollY := host.scrollY } }
      let url := list.link id
      (list, host.navigate url, some url)

end ListView

/-! ## Sources in memory -/

/-- Files and rows held in memory, and the message of an outage while there is
    one. -/
structure MemorySource (ρ : Type) where
  files : List (String × FileDetail) := []
  rows : List ρ := []
  outage : Option String := none

namespace MemorySource

variable {ρ : Type}

def fetchFile (source : MemorySource ρ) (path : String) : Except FetchError FileDetail :=
  match source.outage with
  | some message => .error (.transport path message)
  | none =>
      match source.files.find? fun (p, _) => p == path with
      | some (_, detail) => .ok detail
      | none => .error (.notFound path)

def fetchPage [TableRow ρ] (source : MemorySource ρ) (request : PageRequest) :
    Except FetchError (Page ρ) :=
  match source.outage with
  | some message => .error (.transport "rows" message)
  | none => .ok (queryRows source.rows request)

end MemorySource

end FindingsBrowser
