import FindingsBrowser.Http.Router
import FindingsBrowser.Proofs.Project.Fetch

/-! # Files over HTTP — an answer tells nothing from outside the source directory

    Of all handlers only the one of files looks at the file tree, and it does so by a
    fetch.  So a server answers every request alike on two trees on which every fetch
    delivers the same. -/

namespace FindingsBrowser

namespace Http.Server

open FileTree

/-- A path segment names the same analysis on every tree, or is refused alike. -/
theorem kindSource_cases (server : Server) (slug : String) :
    (∃ e, ∀ tree, { server with tree := tree }.kindSource slug = .error e)
      ∨ ∃ kind report, ∀ tree, { server with tree := tree }.kindSource slug
          = .ok ⟨kind, report, tree, server.store.sourceDir⟩ := by
  cases hkind : AnalysisKind.ofSlug? slug with
  | none =>
      refine Or.inl ⟨badRequest (AnalysisKind.unknownMessage slug), fun tree => ?_⟩
      rw [kindSource, hkind]
  | some kind =>
      cases hreport : server.store.report? kind with
      | none =>
          refine Or.inl ⟨notFound ("No report for " ++ kind.slug), fun tree => ?_⟩
          rw [kindSource, hkind]
          dsimp only
          rw [ReportStore.source?, hreport]
          rfl
      | some report =>
          refine Or.inr ⟨kind, report, fun tree => ?_⟩
          rw [kindSource, hkind]
          dsimp only
          rw [ReportStore.source?, hreport]
          rfl

/-- The handler of rows does not look at the file tree. -/
theorem rows_congr (server : Server) (a b : FileTree) (slug : String)
    (pairs : List (String × String)) :
    { server with tree := a }.rows slug pairs = { server with tree := b }.rows slug pairs := by
  rw [rows, rows]
  obtain ⟨e, he⟩ | ⟨kind, report, hsource⟩ := server.kindSource_cases slug
  · rw [he, he]
    rfl
  · rw [hsource, hsource]
    rfl

/-- The handler of files looks at the file tree by a fetch only. -/
theorem file_congr (server : Server) {a b : FileTree}
    (h : EndAlike (a.lookUp server.store.sourceDir) (b.lookUp server.store.sourceDir))
    (slug : String) (pairs : List (String × String)) :
    { server with tree := a }.file slug pairs = { server with tree := b }.file slug pairs := by
  rw [file, file]
  obtain ⟨e, he⟩ | ⟨kind, report, hsource⟩ := server.kindSource_cases slug
  · rw [he, he]
  · rw [hsource, hsource]
    simp only [bind, Except.bind, KindSource.fetchFile_congr kind report h]

/-- **EVERY REQUEST** is answered alike where look-ups of the source directory end alike. -/
theorem respond_congr (server : Server) {a b : FileTree}
    (h : EndAlike (a.lookUp server.store.sourceDir) (b.lookUp server.store.sourceDir))
    (method : String) (target : Target) :
    { server with tree := a }.respond method target
      = { server with tree := b }.respond method target := by
  have hrows : { server with tree := a }.rows = { server with tree := b }.rows := by
    funext slug pairs
    exact rows_congr server a b slug pairs
  have hfile : { server with tree := a }.file = { server with tree := b }.file := by
    funext slug pairs
    exact file_congr server h slug pairs
  have hget : ∀ route query, { server with tree := a }.get route query
      = { server with tree := b }.get route query := by
    intro route query
    cases route with
    | health => rfl
    | kinds => rfl
    | rows segment => rw [get, get, hrows]
    | file segment => rw [get, get, hfile]
  rw [respond, respond]
  simp only [hget]

/-- **FILE FETCHES NEVER SEE OUTSIDE THE SOURCE DIRECTORY**, for every report, path and
    two trees that agree on everything at the source directory and below it, and where
    it is missing miss it for the same reason.  A fetch delivers the same on both, and so
    does every request to a server.  A path that is empty, absolute or has a part `..` is
    not found on any tree, and what is delivered is the file that the names of the path
    lead to from the source directory. -/
theorem fetches_stay_in_source_dir (kind : AnalysisKind) (report : Report) (dir : String)
    (a b : FileTree) (hbelow : AgreeBelow dir a b)
    (hmissing : ∀ e, a.lookUp dir = .error e → b.lookUp dir = .error e) (path : String) :
    let source (tree : FileTree) : KindSource := ⟨kind, report, tree, dir⟩
    (source a).fetchFile path = (source b).fetchFile path
      ∧ (∀ reports defaultSorter pageSize method target,
          let server (tree : FileTree) : Server := ⟨⟨dir, reports⟩, tree, defaultSorter, pageSize⟩
          (server a).respond method target = (server b).respond method target)
      ∧ (path = "" ∨ Path.isAbsolute path.toList = true ∨ ".." ∈ parts path →
          ∀ tree, (source tree).fetchFile path = .error (.notFound path))
      ∧ ∀ detail, (source a).fetchFile path = .ok detail →
          ∃ here bytes, a.lookUp dir = .ok here
            ∧ here.below? ((Path.names path.toList).map String.ofList) = some (.file bytes)
            ∧ Text.Utf8.decode? bytes = some detail.content.toList := by
  intro source
  have hdir : EndAlike (a.lookUp dir) (b.lookUp dir) := hbelow.endAlike hmissing
  refine ⟨KindSource.fetchFile_congr kind report hdir path, ?_, ?_, ?_⟩
  · intro reports defaultSorter pageSize method target
    exact respond_congr ⟨⟨dir, reports⟩, a, defaultSorter, pageSize⟩ hdir method target
  · intro hunsafe tree
    refine KindSource.fetchFile_of_not_staysInside ?_
    rw [Bool.eq_false_iff, ne_eq, Path.staysInside_iff]
    rintro ⟨hne, habsolute, hparent⟩
    rcases hunsafe with rfl | htrue | hmem
    · exact hne rfl
    · exact Bool.false_ne_true (habsolute.symm.trans htrue)
    · exact hparent (mem_parts.mp hmem)
  · exact fun detail hdetail => KindSource.below?_of_fetchFile hdetail

/-- A file next to the source directory, or none: the file below it is delivered all the
    same, by a path with dots and empty parts. -/
theorem fetches_stay_in_source_dir_spelled :
    let below : FileTree := .directory [("src", .directory [("f.c", .file [0x61])])]
    let bare : FileTree := .directory [("p", below)]
    let full : FileTree := .directory [("secret", .file [0x73]), ("p", below)]
    let source (tree : FileTree) : KindSource := ⟨.complexity, ⟨[], []⟩, tree, "/p/"⟩
    (source full).fetchFile "./src//f.c" = .ok { content := "a" }
      ∧ (source bare).fetchFile "./src//f.c" = .ok { content := "a" }
      ∧ ∀ tree,
        (source tree).fetchFile "src/../../secret" = .error (.notFound "src/../../secret") := by
  intro below bare full source
  have hbare : bare.lookUp "/p/" = .ok below := by rfl
  have hfull : full.lookUp "/p/" = .ok below := by rfl
  have hbelow : AgreeBelow "/p/" full bare := by
    intro names
    rw [hbare, hfull]
  have hmissing : ∀ e, full.lookUp "/p/" = .error e → bare.lookUp "/p/" = .error e := by
    intro e he
    rw [hfull] at he
    exact nomatch he
  have hfile : full.resolve "/p/./src//f.c" = .ok (.file [0x61]) :=
    (resolve_eq_lookUp (by decide) (by decide) (by decide) full).trans (by rfl)
  have htext : full.readText (Config.resolveDir "/p/" "./src//f.c") = .ok "a" := by
    rw [readText, show Config.resolveDir "/p/" "./src//f.c" = "/p/./src//f.c" from rfl, hfile]
    rfl
  have hread : (source full).fetchFile "./src//f.c" = .ok { content := "a" } := by
    rw [KindSource.fetchFile, show Path.staysInside "./src//f.c".toList = true by decide, htext]
    rfl
  have hsame := (fetches_stay_in_source_dir .complexity ⟨[], []⟩ "/p/" full bare hbelow hmissing
    "./src//f.c").1
  have hunsafe := (fetches_stay_in_source_dir .complexity ⟨[], []⟩ "/p/" full bare hbelow hmissing
    "src/../../secret").2.2.1 (Or.inr (Or.inr (by decide)))
  exact ⟨hread, hsame.symm.trans hread, hunsafe⟩

/-- Two trees without the source directory, in one of which a file stands in its way:
    they agree on everything at it and below it, which is nothing, and the fetch of a
    file tells them apart. -/
theorem fetch_tells_why_source_dir_is_missing :
    let bare : FileTree := .directory [("p", .directory [])]
    let blocked : FileTree := .directory [("p", .directory [("a", .file [])])]
    let source (tree : FileTree) : KindSource := ⟨.complexity, ⟨[], []⟩, tree, "/p/a/src"⟩
    AgreeBelow "/p/a/src" bare blocked
      ∧ (source bare).fetchFile "f.c" = .error (.notFound "f.c")
      ∧ (source blocked).fetchFile "f.c"
        = .error (.transport "f.c" "Not a directory (os error 20)") := by
  intro bare blocked source
  have hbare : bare.lookUp "/p/a/src" = .error .notFound := by rfl
  have hblocked : blocked.lookUp "/p/a/src" = .error .notDirectory := by rfl
  have hread (tree : FileTree) {e : ReadError} (he : tree.lookUp "/p/a/src/f.c" = .error e) :
      tree.readText (Config.resolveDir "/p/a/src" "f.c") = .error e := by
    rw [readText, show Config.resolveDir "/p/a/src" "f.c" = "/p/a/src/f.c" from rfl,
      resolve_eq_lookUp (by decide) (by decide) (by decide), he]
  refine ⟨?_, ?_, ?_⟩
  · intro names
    rw [hbare, hblocked]
    rfl
  · rw [KindSource.fetchFile, show Path.staysInside "f.c".toList = true by decide,
      hread bare (by rfl : bare.lookUp "/p/a/src/f.c" = .error .notFound)]
    rfl
  · rw [KindSource.fetchFile, show Path.staysInside "f.c".toList = true by decide,
      hread blocked (by rfl : blocked.lookUp "/p/a/src/f.c" = .error .notDirectory)]
    rfl

end Http.Server

end FindingsBrowser
