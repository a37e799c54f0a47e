import FindingsBrowser.Detail
import FindingsBrowser.Document.Basic
import FindingsBrowser.Overlay
import FindingsBrowser.Viewer.Source

/-! # Viewer — one document, its findings and the current selection

    Fetching is split into `begin`, which issues a ticket, and `finish`, which
    hands in the result under that ticket. Only the most recent ticket counts,
    so the newest request wins every race. Decorations are kept for the visible
    lines and computed anew whenever those change. -/

namespace FindingsBrowser

/-- The lines decorated after a load while no viewport is known. -/
def initialViewportLines : Nat := 50

/-- A handle for one fetch: the number of the request and its path. -/
structure LoadTicket where
  generation : Nat
  path : String

/-- What handing in a result did. -/
inductive LoadOutcome where
  | loaded
  /-- A newer request had been made; nothing changed. -/
  | discarded
  deriving DecidableEq

/-- What an event did to the selection. -/
inductive SelectionChange where
  | unchanged
  | selected (line : Nat)
  | cleared
  deriving DecidableEq

/-- Whether the detail panel has to be shown anew. -/
def SelectionChange.isChanged : SelectionChange → Bool
  | unchanged => false
  | _ => true

/-- A document on display. -/
structure LoadedFile where
  document : Document
  index : LineIndex
  /-- The viewer's policy under the document's own tolerance. -/
  policy : OverlayPolicy
  selection : Option Nat

/-- A viewer for one analysis. -/
structure Viewer where
  kind : AnalysisKind
  basePolicy : OverlayPolicy
  loaded : Option LoadedFile
  /-- The number of requests made so far. -/
  generation : Nat
  viewport : Option LineSpan
  /-- Decorated visible lines, in ascending order. -/
  decorations : List (Nat × Decoration)

namespace Viewer

/-- An empty viewer with a policy. -/
def withPolicy (kind : AnalysisKind) (policy : OverlayPolicy) : Viewer :=
  { kind
    basePolicy := policy
    loaded := none
    generation := 0
    viewport := none
    decorations := [] }

/-- An empty viewer with the policy of its kind. -/
def empty (kind : AnalysisKind) (settings : OverlaySettings) : Viewer :=
  withPolicy kind (.forKind settings kind)

/-- The policy in effect. -/
def policy (v : Viewer) : OverlayPolicy :=
  match v.loaded with
  | some file => file.policy
  | none => v.basePolicy

def document? (v : Viewer) : Option Document :=
  v.loaded.map LoadedFile.document

def index? (v : Viewer) : Option LineIndex :=
  v.loaded.map LoadedFile.index

def selection (v : Viewer) : Option Nat :=
  v.loaded.bind LoadedFile.selection

/-! ## Viewport -/

/-- Show the lines of `visible` that exist. Without a document nothing
    happens. -/
def showLines (v : Viewer) (visible : LineSpan) : Viewer :=
  match v.loaded with
  | none => v
  | some file =>
      let span := visible.clampTo file.document.lineCount
      { v with
        viewport := some span
        decorations := file.policy.decorateSpan file.index span }

/-- The number of lines that were visible last. -/
def height (v : Viewer) : Nat :=
  match v.viewport with
  | some span => if span.isEmpty then initialViewportLines else span.size
  | none => initialViewportLines

/-! ## Loading -/

/-- Request a path. Earlier tickets become stale. -/
def begin (v : Viewer) (path : String) : Viewer × LoadTicket :=
  ({ v with generation := v.generation + 1 }, ⟨v.generation + 1, path⟩)

/-- Put a file on display, with nothing selected and its first lines visible. -/
def install (v : Viewer) (path : String) (detail : FileDetail) : Viewer :=
  let document : Document := ⟨path, detail.content⟩
  let file : LoadedFile :=
    { document
      index := .buildWithin detail.findings document.lineCount
      policy := v.basePolicy.withTolerance detail.tolerance
      selection := none }
  { v with loaded := some file }.showLines ⟨1, v.height⟩

/-- Hand in the result of a request. Stale tickets are discarded, and an error
    leaves what is on display. -/
def finish (v : Viewer) (ticket : LoadTicket) (result : Except FetchError FileDetail) :
    Viewer × Except FetchError LoadOutcome :=
  if ticket.generation ≠ v.generation then (v, .ok .discarded)
  else
    match result with
    | .error e => (v, .error e)
    | .ok detail => (v.install ticket.path detail, .ok .loaded)

/-- Fetch a path and put it on display. -/
def load (v : Viewer) (fetch : String → Except FetchError FileDetail) (path : String) :
    Viewer × Except FetchError LoadOutcome :=
  let (v, ticket) := v.begin path
  v.finish ticket (fetch path)

/-! ## Selection -/

/-- The viewer with another selection in its document. -/
def withSelection (v : Viewer) (selection : Option Nat) : Viewer :=
  { v with loaded := v.loaded.map fun file => { file with selection } }

/-- Select a line of the document. -/
def activate (v : Viewer) (line : Nat) : Viewer × SelectionChange :=
  match v.loaded with
  | none => (v, .unchanged)
  | some file =>
      if file.document.containsLine line && file.selection != some line then
        (v.withSelection (some line), .selected line)
      else (v, .unchanged)

/-- Select nothing. -/
def clearSelection (v : Viewer) : Viewer × SelectionChange :=
  if v.selection.isSome then (v.withSelection none, .cleared) else (v, .unchanged)

/-! ## Queries -/

/-- The decoration of a line, visible or not. -/
def decorationAt (v : Viewer) (line : Nat) : Option Decoration :=
  match v.loaded with
  | none => none
  | some file =>
      match v.decorations.find? fun (n, _) => n == line with
      | some (_, decoration) => some decoration
      | none => file.policy.decorate (file.index.query line)

/-- The detail panel for the current selection. -/
def detail (v : Viewer) : DetailView :=
  match v.loaded with
  | none => .noSelection
  | some file => .ofSelection file.selection file.index v.kind

end Viewer

end FindingsBrowser
