import FindingsBrowser.Proofs.Http.Wire
import FindingsBrowser.Proofs.Project.Fetch
import Mathlib.Data.List.Duplicate

/-! # Failures over HTTP — every one is told as a problem, but for a repeated parameter

    The handlers of rows and of files fail in their own words: each failure has a JSON
    body that a client reads as a problem, with the code of its status.  In front of the
    handlers stands the reader of the parameters, which refuses a parameter that is given
    twice, in plain text.

    * `Realizes`: a computation succeeds with what there is, and fails with a problem if
      there is nothing; `Realizes.bind` goes from step to step.
    * `page?` and `file?` are what there is, `realizes_rows` and `realizes_file` what the
      handlers make of it.
    * `repeated?_eq_none_iff` and `mem_or_duplicate_of_repeated?`: what the reader of the
      parameters lets through, and what it complains about.
    * `failures_are_problems` is the interface as a whole. -/

namespace FindingsBrowser.Http

open Json Text

/-! ## Problems -/

/-- The codes of problems, by status. -/
def problemCodes : List (Nat × String) :=
  [(400, "bad_request"), (404, "not_found"), (500, "internal")]

/-- An answer that a client reads as a problem, with the code of its status. -/
def Response.IsProblem (r : Response) : Prop :=
  r.contentType = some "application/json"
    ∧ ∃ problem : Problem, (r.status, problem.code) ∈ problemCodes
      ∧ (Json.parse r.body).bind Problem.ofJson? = some problem

/-- An answer that delivers what there is to deliver, and tells of a problem if there is
    nothing. -/
def Response.Delivers (r : Response) : Option Json → Prop
  | some payload => r = .json 200 payload
  | none => r.IsProblem

/-- A problem is read from its text as it is. -/
theorem isProblem_json {status : Nat} {code : String} (h : (status, code) ∈ problemCodes)
    (message : String) : (Response.json status (Problem.toJson ⟨message, code⟩)).IsProblem := by
  let problem : Problem := ⟨message, code⟩
  exact ⟨rfl, problem, h, Plain.restores problem.plain_toJson problem.ofJson?_toJson⟩

theorem isProblem_badRequest (message : String) : (badRequest message).IsProblem :=
  isProblem_json (by decide) message

theorem isProblem_notFound (message : String) : (notFound message).IsProblem :=
  isProblem_json (by decide) message

theorem isProblem_fetchFailure (e : FetchError) : (fetchFailure e).IsProblem := by
  rw [fetchFailure]
  split
  · exact isProblem_notFound e.message
  · exact isProblem_json (by decide) e.message

/-! ## What there is to deliver -/

/-- The number that a parameter gives; a missing or empty one means the default. -/
def number? (value : Option String) (default : Nat) : Option Nat :=
  match value with
  | none => some default
  | some raw => if raw = "" then some default else readNatural wordLimit raw.toList

/-- The sort order that a parameter gives, in pieces between commas; one without sorters
    means the default. -/
def order? (value : Option String) (default : Sorter) : Option (List Sorter) := do
  let pieces := ((value.getD "").toList.splitOn ',').filter fun piece => !piece.isEmpty
  let sorters ← pieces.mapM fun piece => (Sorter.read piece).toOption
  some (if sorters = [] then [default] else sorters)

namespace Server

/-- The source of the analysis that a path segment names. -/
def source? (server : Server) (slug : String) : Option KindSource :=
  (AnalysisKind.ofSlug? slug).bind (server.store.source? server.tree)

/-- The page that the parameters ask for. -/
def request? (server : Server) (pairs : List (String × String)) : Option PageRequest := do
  let page ← number? (parameter? "page" pairs) 1
  let size ← number? (parameter? "size" pairs) server.pageSize
  let sorters ← order? (parameter? "sort" pairs) server.defaultSorter
  some ⟨max page 1, max size 1, sorters⟩

/-- The page of rows that is there for a path segment and parameters. -/
def page? (server : Server) (slug : String) (pairs : List (String × String)) :
    Option (Page Row) := do
  let source ← server.source? slug
  let request ← server.request? pairs
  some (queryRows source.report.rows request)

/-- The file that is there for a path segment and parameters. -/
def file? (server : Server) (slug : String) (pairs : List (String × String)) :
    Option FileAt := do
  let source ← server.source? slug
  let path ← parameter? "path" pairs
  let detail ← (source.fetchFile path).toOption
  some ⟨path, detail⟩

end Server

/-! ## What the handlers make of it -/

/-- A computation that succeeds with what there is, and fails with a problem if there is
    nothing. -/
inductive Realizes {α : Type} : Except Response α → Option α → Prop where
  | success (a : α) : Realizes (.ok a) (some a)
  | failure {r : Response} (h : r.IsProblem) : Realizes (.error r) none

namespace Realizes

variable {α β : Type}

/-- Step by step: the first failure is the failure of the whole. -/
theorem bind {x : Except Response α} {o : Option α} (h : Realizes x o)
    {f : α → Except Response β} {g : α → Option β} (hnext : ∀ a, Realizes (f a) (g a)) :
    Realizes (x >>= f) (o >>= g) := by
  cases h with
  | success a => exact hnext a
  | failure hproblem => exact .failure hproblem

/-- The answer of a computation of answers delivers what there is. -/
theorem delivers {x : Except Response Response} {payload : Option Json}
    (h : Realizes x (payload.map (Response.json 200))) : (Server.merge x).Delivers payload := by
  cases payload with
  | some payload =>
      cases h with
      | success => exact rfl
  | none =>
      cases h with
      | failure hproblem => exact hproblem

end Realizes

theorem realizes_readNumber (name : String) (value : Option String) (default : Nat) :
    Realizes (readNumber name value default) (number? value default) := by
  cases value with
  | none => exact .success default
  | some raw =>
      rw [number?]
      by_cases hempty : raw = ""
      · rw [if_pos hempty, hempty]
        exact .success default
      · rw [if_neg hempty, readNumber]
        · cases readNatural wordLimit raw.toList with
          | none => exact .failure (isProblem_badRequest _)
          | some n => exact .success n
        · exact hempty

/-- Sorters are read piece by piece, past the empty pieces. -/
theorem toOption_readSorters (pieces : List (List Char)) :
    (readSorters pieces).toOption
      = (pieces.filter fun piece => !piece.isEmpty).mapM fun piece =>
          (Sorter.read piece).toOption := by
  induction pieces with
  | nil => rfl
  | cons piece rest ih =>
      rw [readSorters]
      by_cases hempty : piece.isEmpty = true
      · rw [if_pos hempty, List.filter_cons_of_neg (by simp [hempty]), ih]
      · rw [if_neg hempty, List.filter_cons_of_pos (by simp [hempty]), List.mapM_cons, ← ih]
        cases Sorter.read piece with
        | error e => rfl
        | ok sorter =>
            cases readSorters rest with
            | error e => rfl
            | ok sorters => rfl

theorem realizes_readSort (value : Option String) (default : Sorter) :
    Realizes (readSort value default) (order? value default) := by
  rw [readSort, order?, ← toOption_readSorters]
  cases readSorters ((value.getD "").toList.splitOn ',') with
  | error e => exact .failure (isProblem_badRequest e.message)
  | ok sorters =>
      cases sorters with
      | nil => exact .success [default]
      | cons first rest => exact .success (first :: rest)

namespace Server

theorem realizes_kindSource (server : Server) (slug : String) :
    Realizes (server.kindSource slug) (server.source? slug) := by
  rw [kindSource, source?]
  cases AnalysisKind.ofSlug? slug with
  | none => exact .failure (isProblem_badRequest _)
  | some kind =>
      rw [Option.bind_some]
      dsimp only
      cases server.store.source? server.tree kind with
      | none => exact .failure (isProblem_notFound _)
      | some source => exact .success source

theorem realizes_pageRequest (server : Server) (pairs : List (String × String)) :
    Realizes (server.pageRequest pairs) (server.request? pairs) := by
  refine (realizes_readNumber ..).bind fun page => ?_
  refine (realizes_readNumber ..).bind fun size => ?_
  refine (realizes_readSort ..).bind fun sorters => ?_
  exact .success _

/-- **THE HANDLER OF ROWS** answers with the page that is there. -/
theorem realizes_rows (server : Server) (slug : String) (pairs : List (String × String)) :
    Realizes (server.rows slug pairs)
      ((server.page? slug pairs).map fun page => .json 200 page.toJson) := by
  simp only [page?, Option.bind_eq_bind, Option.map_bind, Function.comp_def]
  refine (server.realizes_kindSource slug).bind fun source => ?_
  refine (server.realizes_pageRequest pairs).bind fun request => ?_
  exact .success _

/-- **THE HANDLER OF FILES** answers with the file that is there, under its path. -/
theorem realizes_file (server : Server) (slug : String) (pairs : List (String × String)) :
    Realizes (server.file slug pairs)
      ((server.file? slug pairs).map fun file => .json 200 file.toJson) := by
  simp only [file?, Option.bind_eq_bind, Option.map_bind, Function.comp_def]
  refine (server.realizes_kindSource slug).bind fun source => ?_
  cases parameter? "path" pairs with
  | none => exact .failure (isProblem_badRequest _)
  | some path =>
      by_cases hempty : path = ""
      · have hfetch : source.fetchFile "" = .error (.notFound "") :=
          KindSource.fetchFile_of_not_staysInside (by decide)
        simp only [hempty, Option.bind_some, hfetch]
        exact .failure (isProblem_badRequest _)
      · have hfilter : (some path).filter (fun path => !path.isEmpty) = some path := by
          simp [hempty]
        rw [hfilter, Option.bind_some]
        dsimp only
        cases source.fetchFile path with
        | error e => exact .failure (isProblem_fetchFailure e)
        | ok detail => exact .success _

end Server

/-! ## The reader of the parameters -/

/-- The names of those parameters that are looked at, in the order they are given. -/
def given (names : List String) (pairs : List (String × String)) : List String :=
  (pairs.map Prod.fst).filter names.contains

theorem given_cons (names : List String) (pair : String × String)
    (rest : List (String × String)) :
    given names (pair :: rest)
      = if names.contains pair.1 then pair.1 :: given names rest else given names rest :=
  List.filter_cons

/-- The reader lets a query through exactly if no parameter is given twice, of those it
    looks at. -/
theorem repeated?_eq_none_iff {names : List String} {pairs : List (String × String)}
    {seen : List String} :
    repeated? names seen pairs = none
      ↔ (given names pairs).Nodup ∧ ∀ name ∈ given names pairs, name ∉ seen := by
  induction pairs generalizing seen with
  | nil => simp [repeated?, given]
  | cons pair rest ih =>
      rw [repeated?, given_cons]
      by_cases hname : names.contains pair.1 = true
      · rw [if_pos hname, if_pos hname, List.nodup_cons, List.forall_mem_cons]
        by_cases hseen : pair.1 ∈ seen
        · simp [hseen]
        · rw [if_neg (by simpa using hseen), ih]
          -- from here on the name counts as seen
          simp only [List.mem_cons, not_or]
          constructor
          · rintro ⟨hnodup, hrest⟩
            exact ⟨⟨fun hmem => (hrest _ hmem).1 rfl, hnodup⟩, hseen,
              fun name hmem => (hrest name hmem).2⟩
          · rintro ⟨⟨hmem, hnodup⟩, -, hrest⟩
            exact ⟨hnodup, fun name h => ⟨fun heq => hmem (heq ▸ h), hrest name h⟩⟩
      · rw [if_neg hname, if_neg hname]
        exact ih

/-- What it complains about is given again: it has been seen, or is given twice. -/
theorem mem_or_duplicate_of_repeated? {names : List String} {pairs : List (String × String)}
    {seen : List String} {name : String} (h : repeated? names seen pairs = some name) :
    (name ∈ seen ∧ name ∈ given names pairs) ∨ List.Duplicate name (given names pairs) := by
  induction pairs generalizing seen with
  | nil => exact nomatch h
  | cons pair rest ih =>
      rw [repeated?] at h
      rw [given_cons]
      by_cases hname : names.contains pair.1 = true
      · rw [if_pos hname] at h ⊢
        by_cases hseen : pair.1 ∈ seen
        · rw [if_pos (by simpa using hseen)] at h
          obtain rfl := Option.some.inj h
          exact Or.inl ⟨hseen, List.mem_cons_self⟩
        · rw [if_neg (by simpa using hseen)] at h
          rcases ih h with ⟨hmem, hgiven⟩ | hdup
          · rcases List.mem_cons.mp hmem with rfl | hold
            · exact Or.inr (List.Mem.duplicate_cons_self hgiven)
            · exact Or.inl ⟨hold, List.mem_cons_of_mem _ hgiven⟩
          · exact Or.inr (hdup.duplicate_cons _)
      · rw [if_neg hname] at h ⊢
        exact ih h

namespace Server

/-! ## The interface -/

/-- A segment of a path: what stands between two slashes, and is not empty. -/
structure IsSegment (segment : List Char) : Prop where
  nonempty : segment ≠ []
  slash_not_mem : '/' ∉ segment

/-- The path of one of the two resources of a kind. -/
def resourcePath (segment : List Char) (name : String) : List Char :=
  List.intercalate ['/'] [[], "api".toList, segment, name.toList]

theorem pieces_resourcePath {segment : List Char} (hsegment : '/' ∉ segment) {name : String}
    (hname : '/' ∉ name.toList) :
    ((resourcePath segment name).splitOn '/').map String.ofList
      = ["", "api", String.ofList segment, name] := by
  have hsplit : (resourcePath segment name).splitOn '/'
      = [[], "api".toList, segment, name.toList] := by
    refine List.splitOn_intercalate '/' ?_ (List.cons_ne_nil _ _)
    simp only [List.forall_mem_cons]
    exact ⟨List.not_mem_nil, by decide, hsegment, hname, fun _ h => nomatch h⟩
  rw [hsplit]
  simp

theorem route?_rows {segment : List Char} (h : '/' ∉ segment) :
    route? (resourcePath segment "rows") = some (.rows segment) := by
  rw [route?, pieces_resourcePath h (by decide)]
  simp

theorem route?_file {segment : List Char} (h : '/' ∉ segment) :
    route? (resourcePath segment "file") = some (.file segment) := by
  rw [route?, pieces_resourcePath h (by decide)]
  simp

/-- The resource of rows is answered by its handler, which takes three parameters. -/
theorem respond_rowsPath (server : Server) {segment : List Char} (h : '/' ∉ segment)
    (query : Option (List Char)) :
    server.respond "GET" ⟨resourcePath segment "rows", query⟩
      = handle ["page", "size", "sort"] segment (query.getD []) server.rows := by
  rw [respond, if_neg (by decide), route?_rows h]
  rfl

/-- The resource of files is answered by its handler, which takes the path only. -/
theorem respond_filePath (server : Server) {segment : List Char} (h : '/' ∉ segment)
    (query : Option (List Char)) :
    server.respond "GET" ⟨resourcePath segment "file", query⟩
      = handle ["path"] segment (query.getD []) server.file := by
  rw [respond, if_neg (by decide), route?_file h]
  rfl

/-- The refusal of a parameter that is given twice, in plain text. -/
def refusal (name : String) : Response :=
  .text 400 ("Failed to deserialize query string: duplicate field \x60" ++ name ++ "\x60")

/-- An answer to a query for a `payload`, if there is one: it delivers, unless one of the
    parameters `names` is given twice, and then it is a refusal. -/
def DeliversUnlessRepeated (names : List String) (pairs : List (String × String))
    (payload : Option Json) (r : Response) : Prop :=
  ((given names pairs).Nodup → r.Delivers payload)
    ∧ (¬(given names pairs).Nodup →
        ∃ name, List.Duplicate name (given names pairs) ∧ r = refusal name)

theorem deliversUnlessRepeated_handle (names : List String) {segment slug : List Char}
    (hslug : Percent.decode? segment = some slug) (query : List Char)
    {handler : String → List (String × String) → Except Response Response}
    {payload : Option Json}
    (h : Realizes (handler (String.ofList slug) (queryPairs query))
      (payload.map (Response.json 200))) :
    DeliversUnlessRepeated names (queryPairs query) payload
      (handle names segment query handler) := by
  rw [handle, hslug]
  dsimp only
  cases hrepeated : repeated? names [] (queryPairs query) with
  | none =>
      have hnodup := (repeated?_eq_none_iff.mp hrepeated).1
      exact ⟨fun _ => h.delivers, fun hdup => absurd hnodup hdup⟩
  | some name =>
      have hdup := (mem_or_duplicate_of_repeated? hrepeated).resolve_left
        fun hmem => nomatch hmem.1
      have hnot := List.exists_duplicate_iff_not_nodup.mp ⟨name, hdup⟩
      exact ⟨fun hnodup => absurd hnodup hnot, fun _ => ⟨name, hdup, rfl⟩⟩

/-- **FAILURES ARE TOLD AS PROBLEMS**, for every store, every segment of a path that is UTF-8
    and every query.  The resources of rows and of files deliver the page and the file that are
    there; if there is none, they answer with a JSON body that is read as a problem, and
    whose code is that of the status.  All of that holds as long as none of the parameters
    that they look at is given twice: then the query is refused in plain text. -/
theorem failures_are_problems (server : Server) {segment slug : List Char}
    (hsegment : IsSegment segment) (hslug : Percent.decode? segment = some slug)
    (query : Option (List Char)) :
    let pairs := queryPairs (query.getD [])
    let kind := String.ofList slug
    DeliversUnlessRepeated ["page", "size", "sort"] pairs
        ((server.page? kind pairs).map Page.toJson)
        (server.respond "GET" ⟨resourcePath segment "rows", query⟩)
      ∧ DeliversUnlessRepeated ["path"] pairs ((server.file? kind pairs).map FileAt.toJson)
        (server.respond "GET" ⟨resourcePath segment "file", query⟩) := by
  intro pairs kind
  rw [server.respond_rowsPath hsegment.slash_not_mem, server.respond_filePath hsegment.slash_not_mem]
  constructor
  · refine deliversUnlessRepeated_handle _ hslug _ ?_
    rw [Option.map_map]
    exact server.realizes_rows kind pairs
  · refine deliversUnlessRepeated_handle _ hslug _ ?_
    rw [Option.map_map]
    exact server.realizes_file kind pairs

/-- A kind that is partly percent-encoded, a parameter that is not known, given twice, and a
    page that is no number: a problem.  And a file by an encoded path, with a parameter
    that only rows have, given twice. -/
theorem failures_are_problems_encoded :
    let tree : FileTree := .directory [("p", .directory [("f.c", .file [0x61])])]
    let server := Server.ofConfig ⟨"/p", [(.complexity, ⟨[], []⟩)]⟩ tree {}
    let segment := "comple%78ity".toList
    let rows := server.respond "GET" ⟨resourcePath segment "rows", some "x=1&page=two&x".toList⟩
    let file := server.respond "GET"
      ⟨resourcePath segment "file", some "page=1&path=.%2Ff.c&page=2".toList⟩
    rows.IsProblem ∧ file = .json 200 (FileAt.toJson ⟨"./f.c", { content := "a" }⟩) := by
  intro tree server segment rows file
  have hsegment : IsSegment segment := ⟨by decide, by decide⟩
  have hslug : Percent.decode? segment = some "complexity".toList := by decide
  have hpage : server.page? "complexity" (queryPairs "x=1&page=two&x".toList) = none := by rfl
  have hread : tree.readText (Config.resolveDir "/p" "./f.c") = .ok "a" := by
    rw [show Config.resolveDir "/p" "./f.c" = "/p/./f.c" by decide]
    exact FileTree.readText_of_resolve (by rfl) (by rfl)
  let source : KindSource := ⟨.complexity, ⟨[], []⟩, tree, "/p"⟩
  have hsource : server.source? "complexity" = some source := by rfl
  have hpath : parameter? "path" (queryPairs "page=1&path=.%2Ff.c&page=2".toList)
      = some "./f.c" := by decide
  have hfetch : source.fetchFile "./f.c" = .ok { content := "a" } :=
    KindSource.fetchFile_eq_ok_iff.mpr ⟨by decide, hread, by rfl, by rfl⟩
  have hfile : server.file? "complexity" (queryPairs "page=1&path=.%2Ff.c&page=2".toList)
      = some ⟨"./f.c", { content := "a" }⟩ := by
    simp only [Server.file?, hsource, hpath, Option.bind_eq_bind, Option.bind_some, hfetch]
    rfl
  have hproblem := (failures_are_problems server hsegment hslug
    (some "x=1&page=two&x".toList)).1.1 (by decide)
  have hdelivery := (failures_are_problems server hsegment hslug
    (some "page=1&path=.%2Ff.c&page=2".toList)).2.1 (by decide)
  rw [String.ofList_toList, Option.getD_some] at hproblem hdelivery
  rw [hpage] at hproblem
  rw [hfile] at hdelivery
  exact ⟨hproblem, hdelivery⟩

/-- A page that is asked for twice: no problem is told. -/
theorem repeated_page_refused_in_plain_text :
    let server := Server.ofConfig ⟨"/p", [(.complexity, ⟨[], []⟩)]⟩ .empty {}
    let rows := server.respond "GET"
      ⟨resourcePath "complexity".toList "rows", some "page=1&page=2".toList⟩
    rows = refusal "page" ∧ ¬rows.IsProblem := by
  intro server rows
  have hrows : rows = refusal "page" := by decide
  refine ⟨hrows, fun h => ?_⟩
  rw [hrows] at h
  exact absurd h.1 (by decide)

end Server

end FindingsBrowser.Http
