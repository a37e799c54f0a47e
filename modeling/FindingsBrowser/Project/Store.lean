import FindingsBrowser.Project.Loading
import FindingsBrowser.Viewer.Source

/-! # Reports — the rows and findings of each analysis, and the sources they
    speak about

    The report directory holds at most one JSON report per analysis, named by
    its slug. Files are read from the source directory when they are asked for,
    and never from outside it. -/

namespace FindingsBrowser

open Json

/-- The findings a report holds on one file. -/
structure FileEntry where
  findings : List Finding := []
  tolerance : Option Nat := none
  deriving DecidableEq

/-- One analysis report. -/
structure Report where
  rows : List Row
  files : List (String × FileEntry)

namespace FileEntry

def ofJson? (j : Json) : Option FileEntry := do
  let [findings, tolerance] ← record? false ["findings", "tolerance"] j | none
  pure
    { findings := ← orDefault [] (list? Finding.ofJson?) findings
      tolerance := ← optional word? tolerance }

/-- The entry that a field describes. -/
def ofField? (field : String × Json) : Option (String × FileEntry) :=
  (ofJson? field.2).map fun entry => (field.1, entry)

/-- The entries of an object, by path. -/
def byPath? : Json → Option (List (String × FileEntry))
  | .object fields => fields.mapM ofField?
  | _ => none

end FileEntry

namespace Report

def ofJson? (j : Json) : Option Report := do
  let [rows, files] ← record? false ["rows", "files"] j | none
  pure
    { rows := ← orDefault [] (list? Row.ofJson?) rows
      files := ← orDefault [] FileEntry.byPath? files }

/-- The entry of a path; the last one counts. -/
def file? (r : Report) (path : String) : Option FileEntry :=
  (r.files.reverse.find? fun (p, _) => p == path).map Prod.snd

end Report

/-- Why a report cannot be loaded. -/
inductive ReportError where
  | unreadable (path : String)
  | malformed (path : String)
  deriving DecidableEq

def ReportError.message : ReportError → String
  | unreadable path => "Failed to read report: " ++ path
  | malformed path => "Failed to parse report: " ++ path

/-- Where the report of a kind lies. -/
def reportPath (reportDir : String) (kind : AnalysisKind) : String :=
  Config.resolveDir reportDir (kind.slug ++ ".json")

/-- The report in a file. -/
def Report.load (tree : FileTree) (path : String) : Except ReportError Report :=
  match tree.readText path with
  | .error _ => .error (.unreadable path)
  | .ok text =>
      match (Json.parse text).bind Report.ofJson? with
      | some report => .ok report
      | none => .error (.malformed path)

/-- All reports of a project, in dashboard order. -/
structure ReportStore where
  sourceDir : String
  reports : List (AnalysisKind × Report)

/-- One analysis with its report and the files it speaks about. -/
structure KindSource where
  kind : AnalysisKind
  report : Report
  tree : FileTree
  sourceDir : String

namespace ReportStore

/-- The reports of some kinds that are there. -/
def loadKinds (tree : FileTree) (reportDir : String) :
    List AnalysisKind → Except ReportError (List (AnalysisKind × Report))
  | [] => .ok []
  | kind :: rest => do
      let path := reportPath reportDir kind
      if tree.isFile path then
        let report ← Report.load tree path
        let reports ← loadKinds tree reportDir rest
        pure ((kind, report) :: reports)
      else loadKinds tree reportDir rest

/-- The store of a configuration whose directories are absolute. A missing
    report directory holds no reports; a report that is there has to be
    readable. -/
def open? (tree : FileTree) (config : Config) : Except ReportError ReportStore := do
  let reports ←
    if tree.isDirectory config.reportDir then
      loadKinds tree config.reportDir AnalysisKind.all
    else .ok []
  pure ⟨config.sourceDir, reports⟩

def kinds (store : ReportStore) : List AnalysisKind :=
  store.reports.map Prod.fst

def report? (store : ReportStore) (kind : AnalysisKind) : Option Report :=
  (store.reports.find? fun (k, _) => k = kind).map Prod.snd

/-- The source of one kind, if it has a report. -/
def source? (store : ReportStore) (tree : FileTree) (kind : AnalysisKind) :
    Option KindSource :=
  (store.report? kind).map fun report => ⟨kind, report, tree, store.sourceDir⟩

end ReportStore

namespace KindSource

/-- A file of the source directory with the report's findings on it; a file the
    report does not mention has none. -/
def fetchFile (source : KindSource) (path : String) : Except FetchError FileDetail :=
  if !Path.staysInside path.toList then .error (.notFound path)
  else
    match source.tree.readText (Config.resolveDir source.sourceDir path) with
    | .error .notFound => .error (.notFound path)
    | .error .notUtf8 => .error (.decode path "file is not valid UTF-8")
    | .error e => .error (.transport path e.message)
    | .ok content =>
        let entry := (source.report.file? path).getD {}
        .ok { content, findings := entry.findings, tolerance := entry.tolerance }

/-- A page of the report's rows. -/
def fetchPage (source : KindSource) (request : PageRequest) :
    Except FetchError (Page Row) :=
  .ok (queryRows source.report.rows request)

end KindSource

end FindingsBrowser
