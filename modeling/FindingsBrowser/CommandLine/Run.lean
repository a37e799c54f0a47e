import FindingsBrowser.CommandLine.Help
import FindingsBrowser.Http.Router
import FindingsBrowser.Terminal.Source
import FindingsBrowser.Terminal.Table

/-! # Running commands — from arguments and a file tree to what is printed -/

namespace FindingsBrowser.CommandLine

/-- What a command comes to. -/
inductive Outcome where
  /-- It is over: exit code, standard output, and the message of an error. -/
  | done (code : Nat) (stdout : String) (error : Option String)
  /-- Requests are to be answered. -/
  | serve (server : Http.Server) (port : Option Nat) (openBrowser : Bool)

/-- A failed command. -/
def failure (message : String) : Outcome := .done 1 "" (some message)

def success (stdout : String) : Outcome := .done 0 stdout none

/-- A command that breaks off before anything is printed. -/
def aborted : Outcome := .done 101 "" none

/-- What is printed instead of carrying out a command. -/
def Exit.outcome : Exit → Outcome
  | .help command => success (helpText command)
  | .version => success versionText
  | .misuse => .done 2 "" none

/-- The source of an analysis, or what is said if it has no report. -/
def openSource (tree : FileTree) (config : Config) (kind : AnalysisKind) :
    Except String KindSource :=
  match ReportStore.open? tree config with
  | .error e => .error e.message
  | .ok store =>
      match store.source? tree kind with
      | some source => .ok source
      | none => .error ("No " ++ kind.slug ++ " report in " ++ config.reportDir)

/-- The list a command shows: a restored state first, then the sort order, then
    the page. -/
def listFor (config : Config) (state : Option String) (page : Option Nat)
    (sorters : List Sorter) : ListView Row :=
  let list : ListView Row := .fresh config.defaultSorter config.pageSize
  let list :=
    match state with
    | some query => (list.restore query.toList).1
    | none => list
  let list := if sorters.isEmpty then list else list.setSorters sorters
  match page with
  | some page => list.setPage page
  | none => list

/-- Print a page of a table, or the URL that a row leads to. -/
def runList (tree : FileTree) (config : Config) (kind : AnalysisKind)
    (state : Option String) (page : Option Nat) (sorters : List Sorter)
    (activate : Option String) : Outcome :=
  match openSource tree config kind with
  | .error message => failure message
  | .ok source =>
      match (listFor config state page sorters).load source.fetchPage with
      | (_, .error _) => failure ("Failed to load " ++ kind.slug ++ " rows")
      | (list, .ok _) =>
          match activate with
          | none =>
              match Terminal.renderPage list with
              | some page => success page
              | none => aborted
          | some row =>
              match list.activate row { location := kind.slug } with
              | (_, _, some url) => success (kind.slug ++ "/" ++ url ++ "\n")
              | (list, _, none) =>
                  failure
                    ("Row '" ++ row ++ "' is not on page " ++ toString list.state.page)

/-- Print a file with its findings, and the findings of a selected line. -/
def runShow (tree : FileTree) (config : Config) (kind : AnalysisKind) (path : String)
    (first last line : Option Nat) : Outcome :=
  match openSource tree config kind with
  | .error message => failure message
  | .ok source =>
      match (Viewer.empty kind config.overlaySettings).load source.fetchFile path with
      | (_, .error _) => failure ("Failed to open " ++ path)
      | (viewer, .ok _) =>
          let count := (viewer.document?.map Document.lineCount).getD 0
          let viewer := viewer.showLines ⟨first.getD 1, last.getD count⟩
          let viewer :=
            match line with
            | some line => (viewer.activate line).1
            | none => viewer
          success
            (Terminal.renderSource viewer ++ "\n" ++ Terminal.renderDetail viewer.detail)

/-- The configuration to use: a named one has to be there, and the one of the
    project is optional. -/
def loadConfig (tree : FileTree) (cwd : String) (named : Option String) :
    Except ConfigError Config :=
  let root := projectRoot tree cwd
  (match named with
    | some path => Config.load tree cwd path
    | none => .ok (Config.loadOrDefault tree cwd (Config.resolveDir root configPath))).map
    (Config.resolve root)

/-- Carry out a command. -/
def Invocation.run (tree : FileTree) (cwd : String) (invocation : Invocation) : Outcome :=
  match loadConfig tree cwd invocation.config with
  | .error e => failure e.message
  | .ok config =>
      match invocation.command with
      | .list kind state page sorters activate =>
          runList tree config kind state page sorters activate
      | .show kind path first last line => runShow tree config kind path first last line
      | .serve port openBrowser =>
          match ReportStore.open? tree config with
          | .error e => failure e.message
          | .ok store =>
              .serve (.ofConfig store tree config) (port.or config.server.port)
                (openBrowser || config.server.openBrowser)

/-- Carry out what the arguments ask for, in the directory `cwd`. -/
def run (tree : FileTree) (cwd : String) (args : List String) : Outcome :=
  match Invocation.read args with
  | .error exit => exit.outcome
  | .ok invocation => invocation.run tree cwd

end FindingsBrowser.CommandLine
