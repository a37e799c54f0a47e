import FindingsBrowser.Http.Router
import FindingsBrowser.Navigation.ListView
import FindingsBrowser.Proofs.Http.Query
import FindingsBrowser.Proofs.Http.Target
import FindingsBrowser.Proofs.Navigation.ListRun

/-! # Rows over HTTP — the server and a list agree about a list state

    A list state is read twice: a list cuts its text and decodes the columns it finds,
    and the server is handed decoded parameters and cuts these.  Both ask for the same
    page, unless a column holds a comma: that is where the server cuts a sort order.

    * `pageRequest_parameters` and `request_restore`: what the two readers ask for;
    * `rows_answer_is_list_page`: the answer is the page that the list shows;
    * `rows_answer_cut_at_comma`: a column with a comma is refused. -/

namespace FindingsBrowser

open Text

/-! ## What a list asks for -/

/-- The order of a state depends on its sorters only. -/
theorem ListState.sorters_withDefault_congr {s t : ListState} (default : Sorter)
    (h : s.sorters = t.sorters) :
    (s.withDefault default).sorters = (t.withDefault default).sorters := by
  rw [withDefault, withDefault, h]
  cases t.sorters.isEmpty with
  | true => rfl
  | false => exact h

/-- **A LIST** that restores the text of a state asks for the page of the state, in the
    state's order. -/
theorem ListView.request_restore {ρ : Type} [TableRow ρ] (list : ListView ρ) {s : ListState}
    (hpage : s.page < wordLimit) (hnamed : ∀ sorter ∈ s.sorters, sorter.column ≠ "") :
    (list.restore s.write).1.request
      = ⟨max s.page 1, list.pageSize, (s.withDefault list.defaultSorter).sorters⟩ := by
  have hsorters : s.namedSorters = s.sorters :=
    List.filter_eq_self.mpr fun sorter h => decide_eq_true (hnamed sorter h)
  rw [restore_of_some (ListState.read?_write s hpage), request]
  dsimp only
  rw [page_withDefault, ListState.sorters_withDefault_congr list.defaultSorter hsorters]

namespace Http

/-! ## What the server asks for -/

/-- A parameter with a number in digits means the number. -/
theorem readNumber_writeNatural (name : String) {n : Nat} (h : n < wordLimit) (default : Nat) :
    readNumber name (some (String.ofList (writeNatural n))) default = .ok n := by
  have hne : String.ofList (writeNatural n) ≠ "" := ofList_ne_empty Nat.toDigits_ne_nil
  rw [readNumber]
  · rw [String.toList_ofList, readNatural_writeNatural h]
  · exact hne

/-- Sorters come back from their texts if they name their columns. -/
theorem readSorters_map_write {sorters : List Sorter}
    (hnamed : ∀ sorter ∈ sorters, sorter.column ≠ "") :
    readSorters (sorters.map fun s => s.write.toList) = .ok sorters := by
  induction sorters with
  | nil => rfl
  | cons s rest ih =>
      have hpiece : s.write.toList.isEmpty = false := by
        rw [List.isEmpty_eq_false_iff, Sorter.toList_write]
        exact List.append_ne_nil_of_right_ne_nil _ (List.cons_ne_nil _ _)
      rw [List.map_cons, readSorters, hpiece, Sorter.read_write (hnamed s List.mem_cons_self),
        ih fun s' h => hnamed s' (List.mem_cons_of_mem s h)]
      rfl

/-- A sorter is written without a comma if its column is. -/
theorem comma_not_mem_write {s : Sorter} (h : ',' ∉ s.column.toList) : ',' ∉ s.write.toList := by
  rw [Sorter.toList_write, List.mem_append, List.mem_cons]
  rintro (hcolumn | hcolon | hdirection)
  · exact h hcolumn
  · exact absurd hcolon (by decide)
  · exact SortDirection.not_mem_name s.direction ',' (by decide) hdirection

/-- **A SORT ORDER IN PLAIN TEXT** means the same order, or the default one without
    sorters, if its columns have names without commas. -/
theorem readSort_parameters (default : Sorter) {s : ListState}
    (hcolumn : ∀ sorter ∈ s.sorters, sorter.column ≠ "" ∧ ',' ∉ sorter.column.toList) :
    readSort (parameter? "sort" (parameters s)) default
      = .ok (s.withDefault default).sorters := by
  rw [parameter?_sort, ListState.withDefault]
  cases hsorters : s.sorters with
  | nil => rfl
  | cons first rest =>
      rw [hsorters] at hcolumn
      -- without commas in them, the texts of the sorters are the pieces of the cut
      have hsplit : (plainSorters (first :: rest)).splitOn ','
          = (first :: rest).map fun s => s.write.toList := by
        refine List.splitOn_intercalate ',' ?_ (List.cons_ne_nil _ _)
        intro piece hpiece
        obtain ⟨sorter, hmem, rfl⟩ := List.mem_map.mp hpiece
        exact comma_not_mem_write (hcolumn sorter hmem).2
      have hread := readSorters_map_write fun sorter hmem => (hcolumn sorter hmem).1
      show readSort (some (String.ofList (plainSorters (first :: rest)))) default = .ok s.sorters
      rw [readSort, Option.getD_some, String.toList_ofList, hsplit, hread, hsorters]

/-- **THE SERVER** asks for the page of a state, in the state's order. -/
theorem Server.pageRequest_parameters (server : Server) {s : ListState}
    (hpage : s.page < wordLimit)
    (hcolumn : ∀ sorter ∈ s.sorters, sorter.column ≠ "" ∧ ',' ∉ sorter.column.toList) :
    server.pageRequest (parameters s)
      = .ok ⟨max s.page 1, max server.pageSize 1,
          (s.withDefault server.defaultSorter).sorters⟩ := by
  -- a page number of 0 has been written as 1 already, so the server changes nothing
  have hmax : max s.page 1 < wordLimit := max_lt hpage (by decide)
  rw [pageRequest, parameter?_page, readNumber_writeNatural "page" hmax, parameter?_size,
    readSort_parameters server.defaultSorter hcolumn]
  show Except.ok _ = Except.ok _
  rw [max_assoc, max_self]

/-! ## From the request to the page -/

/-- The path of the rows of a kind. -/
def rowsPath (kind : AnalysisKind) : List Char :=
  '/' :: List.intercalate ['/'] ["api".toList, kind.slug.toList, "rows".toList]

/-- What a request for the rows of a kind in a list state asks for. -/
def rowsTarget (kind : AnalysisKind) (s : ListState) : Target :=
  ⟨rowsPath kind, some s.write⟩

/-- The URI of such a request. -/
def rowsUri (kind : AnalysisKind) (s : ListState) : List Char :=
  rowsPath kind ++ '?' :: s.write

/-- **THE URI**, unless it is too long, is taken apart into the path and the text of the
    state. -/
theorem read?_rowsUri (kind : AnalysisKind) (s : ListState)
    (hlength : (Utf8.encode (rowsUri kind s)).length ≤ Target.maxLength) :
    Target.read? (rowsUri kind s) = some (rowsTarget kind s) := by
  have hpath : ∀ kind, (rowsPath kind).all Target.isPathChar = true := by
    intro kind
    cases kind <;> decide
  exact Target.read?_append (hpath kind) (Target.isQueryChar_write s) hlength

namespace Server

/-- The path of the rows of a kind leads to them. -/
theorem route?_rowsPath (kind : AnalysisKind) :
    route? (rowsPath kind) = some (.rows kind.slug.toList) := by
  cases kind <;> rfl

theorem ofSlug?_slug (kind : AnalysisKind) : AnalysisKind.ofSlug? kind.slug = some kind := by
  cases kind <;> rfl

/-- A slug stands for itself. -/
theorem decode?_slug (kind : AnalysisKind) :
    Percent.decode? kind.slug.toList = some kind.slug.toList := by
  have hliteral : ∀ kind : AnalysisKind, kind.slug.toList.all Percent.isLiteral = true := by
    intro kind
    cases kind <;> decide
  exact (Percent.spells_literal (hliteral kind)).decode?

/-- A request for the rows of a kind in a list state is answered by the handler of rows,
    which is given the kind and the parameters of the state. -/
theorem respond_rowsTarget (server : Server) (kind : AnalysisKind) (s : ListState) :
    server.respond "GET" (rowsTarget kind s) = merge (server.rows kind.slug (parameters s)) := by
  have hget : server.respond "GET" (rowsTarget kind s)
      = server.get (.rows kind.slug.toList) s.write := by
    rw [respond, rowsTarget, if_neg (by decide), route?_rowsPath]
    rfl
  rw [hget, get, handle, decode?_slug]
  dsimp only
  rw [queryPairs_write, repeated?_parameters, String.ofList_toList]

/-- The handler of rows answers with the page that the source of the kind delivers. -/
theorem rows_eq {server : Server} {kind : AnalysisKind} {source : KindSource}
    (hsource : server.store.source? server.tree kind = some source)
    {pairs : List (String × String)} {request : PageRequest}
    (hrequest : server.pageRequest pairs = .ok request) :
    server.rows kind.slug pairs
      = .ok (.json 200 (queryRows source.report.rows request).toJson) := by
  have hkind : server.kindSource kind.slug = .ok source := by
    rw [kindSource, ofSlug?_slug]
    dsimp only
    rw [hsource]
  rw [rows, hkind, hrequest]
  rfl

/-- **THE SERVER AND THE LIST AGREE ABOUT A STATE**, for every configuration, store and
    kind with a report: a list that restores the text of the state and loads shows a
    page, and a request for rows with the text is answered with this page.  The columns
    of the state need names without commas; all else about it is free.  The URI of the
    request stands for the request if it is not too long. -/
theorem rows_answer_is_list_page (tree : FileTree) (config : Config) (store : ReportStore)
    (kind : AnalysisKind) (source : KindSource) (hsource : store.source? tree kind = some source)
    (s : ListState) (hpage : s.page < wordLimit)
    (hcolumn : ∀ sorter ∈ s.sorters, sorter.column ≠ "" ∧ ',' ∉ sorter.column.toList) :
    let server := Server.ofConfig store tree config
    let restored := (ListView.fresh config.defaultSorter config.pageSize).restore s.write
    ((Utf8.encode (rowsUri kind s)).length ≤ Target.maxLength →
        Target.read? (rowsUri kind s) = some (rowsTarget kind s))
      ∧ ∃ list page, restored.1.load source.fetchPage = (list, .ok page)
          ∧ list.shown = page
          ∧ server.respond "GET" (rowsTarget kind s) = .json 200 page.toJson := by
  intro server restored
  have hlist : restored.1.request
      = ⟨max s.page 1, max config.pageSize 1, (s.withDefault config.defaultSorter).sorters⟩ :=
    ListView.request_restore _ hpage fun sorter hmem => (hcolumn sorter hmem).1
  -- the configured size is made positive when the server starts, and by each request
  have hsize : max server.pageSize 1 = max config.pageSize 1 := by
    show max (max config.pageSize 1) 1 = _
    rw [max_assoc, max_self]
  have hserver : server.pageRequest (parameters s) = .ok restored.1.request := by
    rw [hlist, pageRequest_parameters server hpage hcolumn, hsize]
    rfl
  refine ⟨read?_rowsUri kind s, _, _, ListView.load_of_ok rfl, rfl, ?_⟩
  rw [respond_rowsTarget, rows_eq hsource hserver]
  rfl

/-- A column with a colon, a percent sign, delimiters of a query and a space; the row
    without it is alone on the second page. -/
theorem rows_answer_is_list_page_encoded :
    let cells (cost : Nat) : Cells := .ofList [("cost: 100%+é&a=b", .number (.ofNat cost))]
    let report : Report := ⟨[⟨"b", cells 2⟩, ⟨"a", cells 1⟩, ⟨"c", .empty⟩], []⟩
    let config : Config := { pageSize := 2 }
    let server := Server.ofConfig ⟨"src", [(.complexity, report)]⟩ .empty config
    let s : ListState := ⟨7, [⟨"cost: 100%+é&a=b", .desc⟩], some "a", .zero, .zero⟩
    let page : Page Row := ⟨2, 2, 3, [⟨"c", .empty⟩]⟩
    Target.read? (rowsUri .complexity s) = some (rowsTarget .complexity s)
      ∧ server.respond "GET" (rowsTarget .complexity s) = .json 200 page.toJson := by
  intro cells report config server s page
  have hsorted : sortRows s.sorters report.rows = report.rows :=
    List.mergeSort_of_pairwise (by decide)
  have hpage : queryRows report.rows ⟨7, 2, s.sorters⟩ = page := by
    rw [queryRows, hsorted]
    decide
  have hrequest : ((ListView.fresh config.defaultSorter 2 : ListView Row).restore s.write).1.request
      = ⟨7, 2, s.sorters⟩ :=
    ListView.request_restore _ (by decide) (by decide)
  obtain ⟨huri, list, shown, hload, -, hanswer⟩ := rows_answer_is_list_page .empty config
    ⟨"src", [(.complexity, report)]⟩ .complexity ⟨.complexity, report, .empty, "src"⟩ rfl s
    (by decide) (by decide)
  have hshown : queryRows report.rows
      ((ListView.fresh config.defaultSorter 2 : ListView Row).restore s.write).1.request = shown :=
    Except.ok.inj (congrArg Prod.snd hload)
  rw [hrequest, hpage] at hshown
  refine ⟨huri (by decide), ?_⟩
  rw [hshown]
  exact hanswer

/-- A column with a comma: the list shows the rows in its order, and the server takes
    what stands in front of the comma for a sorter of its own and refuses it. -/
theorem rows_answer_cut_at_comma :
    let cells (cost : Nat) : Cells := .ofList [("cost:net,gross", .number (.ofNat cost))]
    let report : Report := ⟨[⟨"b", cells 2⟩, ⟨"a", cells 1⟩], []⟩
    let config : Config := {}
    let server := Server.ofConfig ⟨"src", [(.complexity, report)]⟩ .empty config
    let source : KindSource := ⟨.complexity, report, .empty, "src"⟩
    let s : ListState := ⟨1, [⟨"cost:net,gross", .desc⟩], none, .zero, .zero⟩
    let page : Page Row := ⟨1, 1, 2, report.rows⟩
    let restored := (ListView.fresh config.defaultSorter config.pageSize).restore s.write
    server.store.source? server.tree .complexity = some source
      ∧ (restored.1.load source.fetchPage).2 = .ok page
      ∧ Target.read? (rowsUri .complexity s) = some (rowsTarget .complexity s)
      ∧ server.respond "GET" (rowsTarget .complexity s)
        = badRequest "unknown sort direction 'net'" := by
  intro cells report config server source s page restored
  have hsorted : sortRows s.sorters report.rows = report.rows :=
    List.mergeSort_of_pairwise (by decide)
  have hpage : queryRows report.rows ⟨1, 10, s.sorters⟩ = page := by
    rw [queryRows, hsorted]
    decide
  have hrequest : restored.1.request = ⟨1, 10, s.sorters⟩ :=
    ListView.request_restore _ (by decide) (by decide)
  refine ⟨rfl, ?_, read?_rowsUri .complexity s (by decide), ?_⟩
  · show Except.ok (queryRows report.rows restored.1.request) = _
    rw [hrequest, hpage]
  · rw [respond_rowsTarget]
    decide

end Server

end Http

end FindingsBrowser
