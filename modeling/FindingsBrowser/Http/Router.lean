import FindingsBrowser.Http.Query
import FindingsBrowser.Http.Target
import FindingsBrowser.Project.Store

/-! # Router — the HTTP interface of the dashboard

    * `/api/health` tells that the server is up.
    * `/api/kinds` lists the analyses with a report.
    * `/api/{kind}/rows?page=&size=&sort=` is one page of a report's rows.
    * `/api/{kind}/file?path=` is a file with the report's findings.

    Every failure of the last two has a JSON body with a message and a code,
    but for a parameter given twice and a kind that is not UTF-8. -/

namespace FindingsBrowser.Http

open Json

/-- An answer. -/
structure Response where
  status : Nat
  contentType : Option String
  body : String
  deriving DecidableEq

namespace Response

/-- An answer without a body. -/
def bare (status : Nat) : Response := ⟨status, none, ""⟩

def text (status : Nat) (body : String) : Response :=
  ⟨status, some "text/plain; charset=utf-8", body⟩

def json (status : Nat) (body : Json) : Response :=
  ⟨status, some "application/json", body.print⟩

end Response

/-! ## Payloads -/

/-- The body of an error answer. -/
structure Problem where
  error : String
  code : String

def Problem.toJson (p : Problem) : Json :=
  .object [("error", .string p.error), ("code", .string p.code)]

def Problem.ofJson? (j : Json) : Option Problem := do
  let [error, code] ← record? false ["error", "code"] j | none
  pure { error := ← required string? error, code := ← required string? code }

/-- An analysis with a report. -/
structure KindInfo where
  kind : AnalysisKind
  title : String
  defaultSort : String

def KindInfo.toJson (k : KindInfo) : Json :=
  .object
    [("kind", k.kind.toJson), ("title", .string k.title), ("defaultSort", .string k.defaultSort)]

def KindInfo.ofJson? (j : Json) : Option KindInfo := do
  let [kind, title, defaultSort] ← record? false ["kind", "title", "defaultSort"] j | none
  pure
    { kind := ← required AnalysisKind.ofJson? kind
      title := ← required string? title
      defaultSort := ← required string? defaultSort }

/-- The state of the server. -/
structure Health where
  status : String
  version : String

def Health.toJson (h : Health) : Json :=
  .object [("status", .string h.status), ("version", .string h.version)]

def Health.ofJson? (j : Json) : Option Health := do
  let [status, version] ← record? false ["status", "version"] j | none
  pure { status := ← required string? status, version := ← required string? version }

/-- The version of the interface. -/
def version : String := "1.0.0"

/-! ## Errors -/

def badRequest (message : String) : Response :=
  .json 400 (Problem.toJson ⟨message, "bad_request"⟩)

def notFound (message : String) : Response :=
  .json 404 (Problem.toJson ⟨message, "not_found"⟩)

def internal (message : String) : Response :=
  .json 500 (Problem.toJson ⟨message, "internal"⟩)

/-- The answer to a failed fetch. -/
def fetchFailure (e : FetchError) : Response :=
  if e.isNotFound then notFound e.message else internal e.message

/-! ## Requests -/

/-- What the handlers share. -/
structure Server where
  store : ReportStore
  tree : FileTree
  defaultSorter : Sorter
  pageSize : Nat

/-- The server of a project. -/
def Server.ofConfig (store : ReportStore) (tree : FileTree) (config : Config) : Server :=
  ⟨store, tree, config.defaultSorter, max config.pageSize 1⟩

/-- A numeric parameter; a missing or empty one means the default. -/
def readNumber (name : String) (value : Option String) (default : Nat) :
    Except Response Nat :=
  match value with
  | none => .ok default
  | some "" => .ok default
  | some raw =>
      match Text.readNatural Text.wordLimit raw.toList with
      | some n => .ok n
      | none => .error (badRequest ("Invalid " ++ name ++ ": '" ++ raw ++ "'"))

/-- The sorters that pieces between commas write. -/
def readSorters : List (List Char) → Except SorterError (List Sorter)
  | [] => .ok []
  | piece :: rest =>
      if piece.isEmpty then readSorters rest
      else do
        let sorter ← Sorter.read piece
        let sorters ← readSorters rest
        pure (sorter :: sorters)

/-- A sort order as a parameter; a missing or empty one means the default. -/
def readSort (value : Option String) (default : Sorter) : Except Response (List Sorter) :=
  match readSorters ((value.getD "").toList.splitOn ',') with
  | .error e => .error (badRequest e.message)
  | .ok [] => .ok [default]
  | .ok sorters => .ok sorters

namespace Server

/-- The source of the analysis a path segment names. -/
def kindSource (server : Server) (slug : String) : Except Response KindSource :=
  match AnalysisKind.ofSlug? slug with
  | none => .error (badRequest (AnalysisKind.unknownMessage slug))
  | some kind =>
      match server.store.source? server.tree kind with
      | none => .error (notFound ("No report for " ++ kind.slug))
      | some source => .ok source

/-- The page a query asks for. -/
def pageRequest (server : Server) (pairs : List (String × String)) :
    Except Response PageRequest := do
  let page ← readNumber "page" (parameter? "page" pairs) 1
  let size ← readNumber "size" (parameter? "size" pairs) server.pageSize
  let sorters ← readSort (parameter? "sort" pairs) server.defaultSorter
  pure ⟨max page 1, max size 1, sorters⟩

/-- The answer to a request for rows. -/
def rows (server : Server) (slug : String) (pairs : List (String × String)) :
    Except Response Response := do
  let source ← server.kindSource slug
  let request ← server.pageRequest pairs
  match source.fetchPage request with
  | .ok page => pure (.json 200 page.toJson)
  | .error e => throw (fetchFailure e)

/-- The answer to a request for a file. -/
def file (server : Server) (slug : String) (pairs : List (String × String)) :
    Except Response Response := do
  let source ← server.kindSource slug
  match (parameter? "path" pairs).filter fun path => !path.isEmpty with
  | none => throw (badRequest "Missing 'path' parameter")
  | some path =>
      match source.fetchFile path with
      | .ok detail => pure (.json 200 (detail.toJsonAt path))
      | .error e => throw (fetchFailure e)

def health : Response := .json 200 (Health.toJson ⟨"ok", version⟩)

/-- The analyses with a report. -/
def kinds (server : Server) : Response :=
  let info (kind : AnalysisKind) : KindInfo :=
    ⟨kind, kind.title, server.defaultSorter.write⟩
  .json 200 (.array (server.store.kinds.map fun kind => (info kind).toJson))

/-! ## Routes -/

/-- A resource of the interface. -/
inductive Route where
  | health
  | kinds
  | rows (segment : List Char)
  | file (segment : List Char)

/-- The resource at a path. -/
def route? (path : List Char) : Option Route :=
  match (path.splitOn '/').map String.ofList with
  | ["", "api", "health"] => some .health
  | ["", "api", "kinds"] => some .kinds
  | ["", "api", segment, "rows"] => some (.rows segment.toList)
  | ["", "api", segment, "file"] => some (.file segment.toList)
  | _ => none

/-- The one of two answers that a computation ended with. -/
def merge (result : Except Response Response) : Response :=
  match result with
  | .ok r => r
  | .error r => r

/-- The answer of a handler that takes the parameters `names`. The path segment
    has to be UTF-8, and none of the parameters may be given twice. -/
def handle (names : List String) (segment : List Char) (query : List Char)
    (handler : String → List (String × String) → Except Response Response) : Response :=
  match Text.Percent.decode? segment with
  | none => .text 400 "Invalid URL: Invalid UTF-8 in \x60kind\x60"
  | some slug =>
      let pairs := queryPairs query
      match repeated? names [] pairs with
      | some name =>
          .text 400
            ("Failed to deserialize query string: duplicate field \x60" ++ name ++ "\x60")
      | none => merge (handler (String.ofList slug) pairs)

/-- The answer to a request for a resource. -/
def get (server : Server) (route : Route) (query : List Char) : Response :=
  match route with
  | .health => health
  | .kinds => server.kinds
  | .rows segment => handle ["page", "size", "sort"] segment query server.rows
  | .file segment => handle ["path"] segment query server.file

/-- The answer to a request. Any question about options is answered at once,
    and `HEAD` is answered like `GET`, without the body. -/
def respond (server : Server) (method : String) (target : Target) : Response :=
  if method = "OPTIONS" then .bare 200
  else
    match route? target.path with
    | none => .bare 404
    | some route =>
        let response := server.get route (target.query.getD [])
        if method = "GET" then response
        else if method = "HEAD" then { response with body := "" }
        else .bare 405

end Server

end FindingsBrowser.Http
