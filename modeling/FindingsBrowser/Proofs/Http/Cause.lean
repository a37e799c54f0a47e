import FindingsBrowser.Proofs.Http.Failure
import FindingsBrowser.Proofs.Project.Cause

/-! # Causes over HTTP — which status tells why there is no file

    The resource of files answers a fetch by its outcome.  Together with the causes of each
    outcome, that says for every path what a client is told: 404 for a path that does not
    stay inside and for a missing name, 500 for everything else that hinders a read. -/

namespace FindingsBrowser

open FileTree

namespace Http

/-- The answer to a fetch of a path, by its outcome. -/
def fileAnswer (path : String) : Except FetchError FileDetail → Response
  | .ok detail => .json 200 (detail.toJsonAt path)
  | .error (.notFound p) => notFound (FetchError.notFound p).message
  | .error e => internal e.message

namespace Server

/-- The handler of files answers a path that is not empty by the outcome of its fetch. -/
theorem merge_file {server : Server} {slug : String} {source : KindSource}
    (hsource : server.kindSource slug = .ok source) {pairs : List (String × String)}
    {path : String} (hpath : parameter? "path" pairs = some path) :
    merge (server.file slug pairs)
      = if path = "" then badRequest "Missing 'path' parameter"
        else fileAnswer path (source.fetchFile path) := by
  rw [file, hsource, hpath]
  by_cases hempty : path = ""
  · subst hempty
    rfl
  · have hfilter : (some path).filter (fun path => !path.isEmpty) = some path := by
      simp [hempty]
    rw [if_neg hempty, hfilter]
    simp only [bind, Except.bind]
    cases source.fetchFile path with
    | ok detail => rfl
    | error e => cases e <;> rfl

/-- **THE RESOURCE OF FILES** answers a query with one path by the outcome of its fetch. -/
theorem respond_file {server : Server} {segment slug : List Char} (hsegment : '/' ∉ segment)
    (hslug : Text.Percent.decode? segment = some slug) {source : KindSource}
    (hsource : server.kindSource (String.ofList slug) = .ok source) {query : List Char}
    (hnodup : (given ["path"] (queryPairs query)).Nodup) {path : String}
    (hpath : parameter? "path" (queryPairs query) = some path) :
    server.respond "GET" ⟨resourcePath segment "file", some query⟩
      = if path = "" then badRequest "Missing 'path' parameter"
        else fileAnswer path (source.fetchFile path) := by
  have hrepeated : repeated? ["path"] [] (queryPairs query) = none :=
    repeated?_eq_none_iff.mpr ⟨hnodup, fun _ _ => List.not_mem_nil⟩
  rw [server.respond_filePath hsegment, Option.getD_some, handle, hslug]
  dsimp only
  rw [hrepeated]
  exact merge_file hsource hpath

end Server

end Http

namespace KindSource

/-! ## Fetches, by cause -/

variable {source : KindSource} {path : String}

/-- **NOT FOUND** is what a fetch says of a path that does not stay inside, and of a missing
    name. -/
theorem fetchFile_eq_notFound_iff {p : String} :
    source.fetchFile path = .error (.notFound p)
      ↔ p = path ∧ (Path.staysInside path.toList = false
        ∨ (Path.staysInside path.toList = true
          ∧ Hinders source.tree (source.target path) .notFound)) := by
  rw [fetchFile_eq_error_iff]
  constructor
  · intro hfails
    cases hfails with
    | outside houtside => exact ⟨rfl, Or.inl houtside⟩
    | missing hinside hhinders => exact ⟨rfl, Or.inr ⟨hinside, hhinders⟩⟩
  · rintro ⟨rfl, houtside | ⟨hinside, hhinders⟩⟩
    · exact .outside houtside
    · exact .missing hinside hhinders

/-- **TRANSPORT** is what a fetch says of a directory, and of everything that hinders a path
    but a missing name. -/
theorem fetchFile_eq_transport_iff {p message : String} :
    source.fetchFile path = .error (.transport p message)
      ↔ p = path ∧ Path.staysInside path.toList = true
        ∧ ((∃ entries, source.tree.resolve (source.target path) = .ok (directory entries)
              ∧ message = ReadError.isDirectory.message)
          ∨ ∃ e, Hinders source.tree (source.target path) e ∧ e ≠ .notFound
              ∧ message = e.message) := by
  rw [fetchFile_eq_error_iff]
  constructor
  · intro hfails
    cases hfails with
    | hindered hinside hhinders hother =>
        exact ⟨rfl, hinside, Or.inr ⟨_, hhinders, hother, rfl⟩⟩
    | directory hinside hresolve => exact ⟨rfl, hinside, Or.inl ⟨_, hresolve, rfl⟩⟩
  · rintro ⟨rfl, hinside, ⟨entries, hresolve, rfl⟩ | ⟨e, hhinders, hother, rfl⟩⟩
    · exact .directory hinside hresolve
    · exact .hindered hinside hhinders hother

/-- **DECODE** is what a fetch says of a file that is no text. -/
theorem fetchFile_eq_decode_iff {p message : String} :
    source.fetchFile path = .error (.decode p message)
      ↔ p = path ∧ message = "file is not valid UTF-8" ∧ Path.staysInside path.toList = true
        ∧ ∃ bytes, source.tree.resolve (source.target path) = .ok (file bytes)
          ∧ Text.Utf8.decode? bytes = none := by
  rw [fetchFile_eq_error_iff]
  constructor
  · intro hfails
    cases hfails with
    | undecodable hinside hresolve hdecode => exact ⟨rfl, rfl, hinside, _, hresolve, hdecode⟩
  · rintro ⟨rfl, rfl, hinside, bytes, hresolve, hdecode⟩
    exact .undecodable hinside hresolve hdecode

/-- **A FILE** is what a fetch delivers of a text, with what the report holds on its path. -/
theorem fetchFile_eq_ok_iff_resolve {detail : FileDetail} :
    source.fetchFile path = .ok detail
      ↔ Path.staysInside path.toList = true
        ∧ (∃ bytes, source.tree.resolve (source.target path) = .ok (file bytes)
          ∧ Text.Utf8.decode? bytes = some detail.content.toList)
        ∧ detail.findings = (source.report.entry path).findings
        ∧ detail.tolerance = (source.report.entry path).tolerance := by
  rw [fetchFile_eq_ok_iff, ← target, readText_eq_ok_iff]

/-- Something hinders a path from being resolved exactly if nothing exists there. -/
theorem hindered_iff (h : Path.staysInside path.toList = true) :
    (∃ e, Hinders source.tree (source.target path) e)
      ↔ ∀ node, source.tree.resolve (source.target path) ≠ .ok node := by
  have hne := isEmpty_target source h
  constructor
  · rintro ⟨e, hhinders⟩ node hresolve
    rw [(resolve_eq_error_iff hne).mpr hhinders] at hresolve
    exact nomatch hresolve
  · intro hnothing
    cases hresolve : source.tree.resolve (source.target path) with
    | ok node => exact absurd hresolve (hnothing node)
    | error e => exact ⟨e, (resolve_eq_error_iff hne).mp hresolve⟩

/-! ## What a client is told -/

/-- **WHAT IS TOLD, AND WHY**, for every report, every tree of directories and regular files
    that may be read, and every path; what else a disk can hold, or refuse to hand out, is
    no part of a tree.  Where nothing exists at the path below the source directory,
    something hinders it; where that is a missing name, or the path does not stay inside,
    it is not found.  All else that hinders it, and a directory, is reported as a failure of
    transport; a file that is no text as one of decoding; and any other file is delivered,
    without findings and tolerance if the report does not mention the path.  Over HTTP the
    first is answered by 404, or by 400 if the path is empty, and the other failures by
    500. -/
theorem fetches_tell_causes (source : KindSource) (path : String) :
    let inside := Path.staysInside path.toList
    let resolved := source.tree.resolve (source.target path)
    let Hindered := Hinders source.tree (source.target path)
    (inside = true → ((∃ e, Hindered e) ↔ ∀ node, resolved ≠ .ok node))
      ∧ (∀ p, source.fetchFile path = .error (.notFound p)
        ↔ p = path ∧ (inside = false ∨ (inside = true ∧ Hindered .notFound)))
      ∧ (∀ p message, source.fetchFile path = .error (.transport p message)
        ↔ p = path ∧ inside = true
          ∧ ((∃ entries, resolved = .ok (directory entries)
                ∧ message = ReadError.isDirectory.message)
            ∨ ∃ e, Hindered e ∧ e ≠ .notFound ∧ message = e.message))
      ∧ (∀ p message, source.fetchFile path = .error (.decode p message)
        ↔ p = path ∧ message = "file is not valid UTF-8" ∧ inside = true
          ∧ ∃ bytes, resolved = .ok (file bytes) ∧ Text.Utf8.decode? bytes = none)
      ∧ (∀ detail, source.fetchFile path = .ok detail
        ↔ inside = true
          ∧ (∃ bytes, resolved = .ok (file bytes)
            ∧ Text.Utf8.decode? bytes = some detail.content.toList)
          ∧ detail.findings = (source.report.entry path).findings
          ∧ detail.tolerance = (source.report.entry path).tolerance)
      ∧ (source.report.file? path = none → source.report.entry path = {})
      ∧ ∀ (server : Http.Server) (segment slug query : List Char), '/' ∉ segment →
        Text.Percent.decode? segment = some slug →
        server.kindSource (String.ofList slug) = .ok source →
        (Http.given ["path"] (Http.queryPairs query)).Nodup →
        Http.parameter? "path" (Http.queryPairs query) = some path →
        server.respond "GET" ⟨Http.Server.resourcePath segment "file", some query⟩
          = if path = "" then Http.badRequest "Missing 'path' parameter"
            else Http.fileAnswer path (source.fetchFile path) := by
  refine ⟨hindered_iff, fun p => fetchFile_eq_notFound_iff,
    fun p message => fetchFile_eq_transport_iff, fun p message => fetchFile_eq_decode_iff,
    fun detail => fetchFile_eq_ok_iff_resolve, ?_, ?_⟩
  · intro hnone
    rw [Report.entry, hnone]
    rfl
  · intro server segment slug query hsegment hslug hsource hnodup hpath
    exact Http.Server.respond_file hsegment hslug hsource hnodup hpath

/-- A name that the source directory does not have: not found, and 404. -/
theorem fetches_tell_causes_missing_name :
    let tree : FileTree := directory [("p", directory [("main.c", file [0x61])])]
    let source : KindSource := ⟨.complexity, ⟨[], []⟩, tree, "/p"⟩
    let server := Http.Server.ofConfig ⟨"/p", [(.complexity, ⟨[], []⟩)]⟩ tree {}
    source.fetchFile "other.c" = .error (.notFound "other.c")
      ∧ server.respond "GET"
          ⟨Http.Server.resourcePath "complexity".toList "file", some "path=other.c".toList⟩
        = Http.notFound "other.c: not found" := by
  intro tree source server
  have hhinders : Hinders tree (source.target "other.c") .notFound := by
    have htarget : source.target "other.c" = "/p/other.c" := by decide
    rw [htarget]
    have hparts : parts "/p/other.c" = ["", "p"] ++ "other.c" :: [] := by decide
    have hwalk : walk [] tree ["", "p"] = .ok (directory [("main.c", file [0x61])]) := rfl
    exact .onTheWay (by decide) (by decide) hparts hwalk
      (.missing ⟨by decide, by decide⟩ (by decide) rfl)
  obtain ⟨-, hnotFound, -, -, -, -, hhttp⟩ := fetches_tell_causes source "other.c"
  have hfetch : source.fetchFile "other.c" = .error (.notFound "other.c") :=
    (hnotFound "other.c").mpr ⟨rfl, Or.inr ⟨by decide, hhinders⟩⟩
  have hrespond := hhttp server "complexity".toList "complexity".toList "path=other.c".toList
    (by decide) (by decide) rfl (by decide) (by decide)
  rw [hfetch] at hrespond
  exact ⟨hfetch, hrespond⟩

/-- A path on from a regular file, where nothing can exist: a failure of transport, and
    500. -/
theorem path_below_file_is_transport :
    let tree : FileTree := directory [("p", directory [("main.c", file [0x61])])]
    let source : KindSource := ⟨.complexity, ⟨[], []⟩, tree, "/p"⟩
    let server := Http.Server.ofConfig ⟨"/p", [(.complexity, ⟨[], []⟩)]⟩ tree {}
    (∀ node, tree.resolve (source.target "main.c/x") ≠ .ok node)
      ∧ source.fetchFile "main.c/x"
        = .error (.transport "main.c/x" "Not a directory (os error 20)")
      ∧ (server.respond "GET"
          ⟨Http.Server.resourcePath "complexity".toList "file",
            some "path=main.c%2Fx".toList⟩).status = 500 := by
  intro tree source server
  have htarget : source.target "main.c/x" = "/p/main.c/x" := by decide
  have hparts : parts "/p/main.c/x" = ["", "p", "main.c"] ++ "x" :: [] := by decide
  have hhinders : Hinders tree (source.target "main.c/x") .notDirectory := by
    rw [htarget]
    have hwalk : walk [] tree ["", "p", "main.c"] = .ok (file [0x61]) := rfl
    exact .onTheWay (by decide) (by decide) hparts hwalk (.belowFile _ _)
  have hfetch : source.fetchFile "main.c/x"
      = .error (.transport "main.c/x" "Not a directory (os error 20)") :=
    fetchFile_eq_transport_iff.mpr
      ⟨rfl, by decide, Or.inr ⟨.notDirectory, hhinders, by decide, rfl⟩⟩
  have hslug : Text.Percent.decode? "complexity".toList = some "complexity".toList := by decide
  have hsource : server.kindSource (String.ofList "complexity".toList) = .ok source := rfl
  have hpath : Http.parameter? "path" (Http.queryPairs "path=main.c%2Fx".toList)
      = some "main.c/x" := by decide
  have hrespond := Http.Server.respond_file (by decide) hslug hsource (by decide) hpath
  rw [hfetch] at hrespond
  refine ⟨(hindered_iff (by decide)).mp ⟨_, hhinders⟩, hfetch, ?_⟩
  rw [hrespond]
  rfl

end KindSource

end FindingsBrowser
