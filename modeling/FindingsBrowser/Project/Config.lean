import FindingsBrowser.Overlay
import FindingsBrowser.Path.Basic
import FindingsBrowser.Row.Basic
import FindingsBrowser.Toml.Parser

/-! # Configuration — what a project sets

    Every setting has a default. The configuration is closed: a field it does
    not know is an error, not a typo that goes unnoticed. -/

namespace FindingsBrowser

open Json

/-- One more than the largest port number. -/
def portLimit : Nat := 0x10000

/-- One more than the largest size of a duplication palette. -/
def paletteLimit : Nat := 0x100

/-- Settings of the server. -/
structure ServerConfig where
  /-- The port to listen on; a free one is looked for if there is none. -/
  port : Option Nat := none
  /-- Whether to show the dashboard in a browser. -/
  openBrowser : Bool := false
  deriving DecidableEq

/-- Settings of a project. -/
structure Config where
  reportDir : String := "reports"
  sourceDir : String := "."
  pageSize : Nat := 10
  duplicationLevels : Nat := 5
  complexityTolerance : Nat := 10
  defaultSort : String := Row.nameColumn
  server : ServerConfig := {}
  deriving DecidableEq

namespace Config

def overlaySettings (c : Config) : OverlaySettings :=
  ⟨c.complexityTolerance, c.duplicationLevels⟩

/-- The default sort order, or ascending by name if it is no sorter. -/
def defaultSorter (c : Config) : Sorter :=
  match Sorter.read c.defaultSort.toList with
  | .ok sorter => sorter
  | .error _ => .ascending Row.nameColumn

/-- A directory seen from `root`. -/
def resolveDir (root dir : String) : String :=
  String.ofList (Path.join root.toList dir.toList)

/-- The configuration with its directories seen from `root`. -/
def resolve (root : String) (c : Config) : Config :=
  { c with
    reportDir := resolveDir root c.reportDir
    sourceDir := resolveDir root c.sourceDir }

end Config

/-! ## Reading and writing -/

def ServerConfig.ofJson? (j : Json) : Option ServerConfig := do
  let [port, openBrowser] ← record? true ["port", "open"] j | none
  pure
    { port := ← optional (natural? portLimit) port
      openBrowser := ← orDefault false bool? openBrowser }

def ServerConfig.toJson (c : ServerConfig) : Json :=
  .object
    [("port", (c.port.map Json.ofNat).getD .null), ("open", .bool c.openBrowser)]

namespace Config

def ofJson? (j : Json) : Option Config := do
  let [reportDir, sourceDir, pageSize, levels, tolerance, defaultSort, server] ←
    record? true
      ["report_dir", "source_dir", "page_size", "duplication_levels",
        "complexity_tolerance", "default_sort", "server"] j
    | none
  let default : Config := {}
  pure
    { reportDir := ← orDefault default.reportDir string? reportDir
      sourceDir := ← orDefault default.sourceDir string? sourceDir
      pageSize := ← orDefault default.pageSize word? pageSize
      duplicationLevels := ← orDefault default.duplicationLevels (natural? paletteLimit) levels
      complexityTolerance := ← orDefault default.complexityTolerance word? tolerance
      defaultSort := ← orDefault default.defaultSort string? defaultSort
      server := ← orDefault default.server ServerConfig.ofJson? server }

def toJson (c : Config) : Json :=
  .object
    [("report_dir", .string c.reportDir), ("source_dir", .string c.sourceDir),
      ("page_size", .ofNat c.pageSize), ("duplication_levels", .ofNat c.duplicationLevels),
      ("complexity_tolerance", .ofNat c.complexityTolerance),
      ("default_sort", .string c.defaultSort), ("server", c.server.toJson)]

/-- The server settings of a TOML document; a list may go on behind them. -/
def cutServer : String × Json → String × Json
  | ("server", .array items) => ("server", .array (items.take 2))
  | field => field

/-- The configuration that a TOML document writes. -/
def ofToml? (text : String) : Option Config := do
  let fields ← Toml.parse text
  ofJson? (.object (fields.map cutServer))

end Config

end FindingsBrowser
