import FindingsBrowser.Project.Store
import FindingsBrowser.Proofs.Project.FileTree

/-! # Fetching files — nothing outside the source directory is seen

    A path that is let through goes down from the source directory, so what a fetch
    delivers is settled by what stands at the source directory and below it.  Of what
    lies outside, a fetch can tell one thing only: why a source directory that is not
    there cannot be found. -/

namespace FindingsBrowser

namespace FileTree

/-- Two trees agree on everything at a directory and below it: wherever names lead from
    there, both have nothing, or a directory, or a file with the same bytes. -/
def AgreeBelow (dir : String) (a b : FileTree) : Prop :=
  ∀ names, ((a.lookUp dir).toOption.bind (below? · names)).map node
    = ((b.lookUp dir).toOption.bind (below? · names)).map node

/-- Look-ups of a directory end alike in trees that agree on it, if it is missing for the
    same reason where it is missing. -/
theorem AgreeBelow.endAlike {dir : String} {a b : FileTree} (h : AgreeBelow dir a b)
    (hmissing : ∀ e, a.lookUp dir = .error e → b.lookUp dir = .error e) :
    EndAlike (a.lookUp dir) (b.lookUp dir) := by
  rw [AgreeBelow] at h
  generalize a.lookUp dir = x at h hmissing ⊢
  generalize b.lookUp dir = y at h hmissing ⊢
  cases x with
  | error e =>
      rw [hmissing e rfl]
      exact .failed e
  | ok here =>
      cases y with
      | error e => exact nomatch h []
      | ok there => exact .found h

/-- Look-ups that go on alike from where they ended alike end alike. -/
theorem EndAlike.bind {x y : Except ReadError FileTree} (h : EndAlike x y)
    {next : FileTree → Except ReadError FileTree}
    (hnext : ∀ {a b}, Alike a b → EndAlike (next a) (next b)) :
    EndAlike (x.bind next) (y.bind next) := by
  cases h with
  | failed e => exact .failed e
  | found alike => exact hnext alike

end FileTree

/-- What a report holds on a path; on a path that it does not mention, nothing. -/
def Report.entry (report : Report) (path : String) : FileEntry :=
  (report.file? path).getD {}

namespace KindSource

open FileTree

/-- A path that does not stay inside is not found, whatever there is. -/
theorem fetchFile_of_not_staysInside {source : KindSource} {path : String}
    (h : Path.staysInside path.toList = false) :
    source.fetchFile path = .error (.notFound path) := by
  rw [fetchFile, h]
  rfl

/-- **TWO TREES**: where look-ups of the source directory end alike, fetches of every
    path deliver the same. -/
theorem fetchFile_congr (kind : AnalysisKind) (report : Report) {dir : String} {a b : FileTree}
    (h : EndAlike (a.lookUp dir) (b.lookUp dir)) (path : String) :
    fetchFile ⟨kind, report, a, dir⟩ path = fetchFile ⟨kind, report, b, dir⟩ path := by
  by_cases hinside : Path.staysInside path.toList = true
  · obtain ⟨-, -, hparent⟩ := (Path.staysInside_iff path.toList).mp hinside
    have hdown : ".." ∉ parts path := fun hmem => hparent (mem_parts.mp hmem)
    have hread : a.readText (Config.resolveDir dir path)
        = b.readText (Config.resolveDir dir path) := by
      refine readText_congr ?_
      rw [lookUp_resolveDir a dir hinside, lookUp_resolveDir b dir hinside]
      exact h.bind fun halike => walk_alike hdown halike
    rw [fetchFile, fetchFile]
    dsimp only
    rw [hread]
  · rw [Bool.not_eq_true] at hinside
    rw [fetchFile_of_not_staysInside hinside, fetchFile_of_not_staysInside hinside]

/-- **DELIVERIES**: a file is delivered exactly for a path that stays inside, with the text
    that is read there and with what the report holds on the path as it is written. -/
theorem fetchFile_eq_ok_iff {source : KindSource} {path : String} {detail : FileDetail} :
    source.fetchFile path = .ok detail
      ↔ Path.staysInside path.toList = true
        ∧ source.tree.readText (Config.resolveDir source.sourceDir path) = .ok detail.content
        ∧ detail.findings = (source.report.entry path).findings
        ∧ detail.tolerance = (source.report.entry path).tolerance := by
  by_cases hinside : Path.staysInside path.toList = true
  · rw [fetchFile, hinside, Bool.not_true, if_neg Bool.false_ne_true]
    constructor
    · intro h
      split at h
      · exact nomatch h
      · exact nomatch h
      · exact nomatch h
      · case _ content hread =>
          obtain rfl := Except.ok.inj h
          exact ⟨rfl, hread, rfl, rfl⟩
    · rintro ⟨-, hread, hfindings, htolerance⟩
      rw [hread]
      dsimp only
      rw [← Report.entry, ← hfindings, ← htolerance]
  · rw [Bool.not_eq_true] at hinside
    rw [fetchFile_of_not_staysInside hinside, hinside]
    exact ⟨fun h => (nomatch h), fun h => absurd h.1 Bool.false_ne_true⟩

/-- **WHAT IS DELIVERED** is the text of the file that the names of the path lead to from
    the source directory. -/
theorem below?_of_fetchFile {source : KindSource} {path : String} {detail : FileDetail}
    (h : source.fetchFile path = .ok detail) :
    ∃ here bytes, source.tree.lookUp source.sourceDir = .ok here
      ∧ here.below? ((Path.names path.toList).map String.ofList) = some (.file bytes)
      ∧ Text.Utf8.decode? bytes = some detail.content.toList := by
  obtain ⟨hinside, hread, -, -⟩ := fetchFile_eq_ok_iff.mp h
  obtain ⟨-, -, hparent⟩ := (Path.staysInside_iff path.toList).mp hinside
  have hdown : ".." ∉ parts path := fun hmem => hparent (mem_parts.mp hmem)
  obtain ⟨bytes, hfile, hdecode⟩ := lookUp_of_readText hread
  rw [lookUp_resolveDir _ _ hinside] at hfile
  cases hdir : source.tree.lookUp source.sourceDir with
  | error e =>
      rw [hdir] at hfile
      exact nomatch hfile
  | ok here =>
      rw [hdir] at hfile
      have hbelow := below?_of_walk hdown hfile
      rw [filter_parts hparent] at hbelow
      exact ⟨here, bytes, rfl, hbelow, hdecode⟩

end KindSource

end FindingsBrowser
