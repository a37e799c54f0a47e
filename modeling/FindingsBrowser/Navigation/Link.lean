import FindingsBrowser.Navigation.State

/-! # Links — a target path with the list state to come back to

    The target's parts between slashes are percent-encoded one by one, and the
    state follows as the query. -/

namespace FindingsBrowser

open Text

/-- A navigation target and the state it carries. -/
structure NavigationLink where
  target : String
  state : ListState
  deriving DecidableEq

namespace NavigationLink

/-- A target, written. -/
def writeTarget (target : List Char) : List Char :=
  List.intercalate ['/'] ((target.splitOn '/').map Percent.encode)

/-- The URL of a link. -/
def write (link : NavigationLink) : List Char :=
  writeTarget link.target.toList ++ '?' :: link.state.write

/-- A part of a target; one that is not UTF-8 stands as it is written. -/
def readPart (part : List Char) : List Char :=
  (ListState.decodeValue? part).getD part

/-- The target that a path writes. -/
def readTarget (path : List Char) : List Char :=
  List.intercalate ['/'] ((path.splitOn '/').map readPart)

/-- The link that a URL writes. -/
def read (default : Sorter) (url : List Char) : NavigationLink :=
  let url := before '#' url
  let (path, query) := (cutFirst '?' url).getD (url, [])
  ⟨String.ofList (readTarget path), ListState.read default query⟩

end NavigationLink

/-! ## The browser's side -/

/-- A browser window: its location, its scroll position, and the locations to go
    back to, latest first. -/
structure BrowserHost where
  location : String
  scrollX : Binary64 := .zero
  scrollY : Binary64 := .zero
  history : List String := []

namespace BrowserHost

/-- The query text of the location, without `?`. -/
def query (host : BrowserHost) : List Char :=
  match cutFirst '?' (before '#' host.location.toList) with
  | some (_, query) => query
  | none => []

/-- Go to a URL. -/
def navigate (host : BrowserHost) (url : String) : BrowserHost :=
  { host with location := url, history := host.location :: host.history }

/-- Go back, if there is anything to go back to. -/
def back (host : BrowserHost) : BrowserHost × Bool :=
  match host.history with
  | [] => (host, false)
  | previous :: rest => ({ host with location := previous, history := rest }, true)

end BrowserHost

end FindingsBrowser
