import FindingsBrowser.Proofs.Project.Fetch

/-! # Spellings of a path — one text, and the findings of each spelling

    Empty parts and dots lead nowhere, so paths with the same names are spellings of one
    path, and whatever spelling a file is fetched by, its text is the same.  A report files
    its findings under paths as they are written, and a fetch asks for them in the same
    way: they come with the spellings that the report knows.

    * `spellings_share_text`: two spellings deliver the same text, and the same file
      exactly if the report holds the same on both.
    * `dotted_spelling_without_findings`: a spelling that the report does not know. -/

namespace FindingsBrowser

attribute [ext] FileDetail FileEntry

namespace KindSource

/-- **SPELLINGS OF A PATH**, for every report and file tree: two paths with the same names
    that are both fetched deliver the same text.  They deliver the same findings and
    tolerance as well exactly if the report holds the same on both of them as they are
    written. -/
theorem spellings_share_text (source : KindSource) {p q : String}
    (hnames : Path.names p.toList = Path.names q.toList) {d e : FileDetail}
    (hp : source.fetchFile p = .ok d) (hq : source.fetchFile q = .ok e) :
    d.content = e.content ∧ (d = e ↔ source.report.entry p = source.report.entry q) := by
  obtain ⟨-, -, hfindings, htolerance⟩ := fetchFile_eq_ok_iff.mp hp
  obtain ⟨-, -, hfindings', htolerance'⟩ := fetchFile_eq_ok_iff.mp hq
  have hcontent : d.content = e.content := by
    obtain ⟨here, bytes, hdir, hbelow, hdecode⟩ := below?_of_fetchFile hp
    obtain ⟨here', bytes', hdir', hbelow', hdecode'⟩ := below?_of_fetchFile hq
    -- the names lead from one directory to one file
    obtain rfl := Except.ok.inj (hdir.symm.trans hdir')
    rw [← hnames] at hbelow'
    obtain rfl := FileTree.file.inj (Option.some.inj (hbelow.symm.trans hbelow'))
    exact String.toList_injective (Option.some.inj (hdecode.symm.trans hdecode'))
  refine ⟨hcontent, ?_⟩
  rw [FileDetail.ext_iff, FileEntry.ext_iff, hfindings, hfindings', htolerance, htolerance']
  exact and_iff_right hcontent

/-- A report that holds the same on two spellings of a file: the dotted one delivers what
    the plain one does. -/
theorem spellings_share_text_listed :
    let below : FileTree := .directory [("src", .directory [("f.c", .file [0x61])])]
    let entry : FileEntry := ⟨[.complexity ⟨1, 1, 12, none⟩], some 7⟩
    let report : Report := ⟨[], [("src/f.c", entry), ("./src//f.c", entry)]⟩
    let source : KindSource := ⟨.complexity, report, .directory [("p", below)], "/p"⟩
    let detail : FileDetail := ⟨"a", entry.findings, entry.tolerance⟩
    source.fetchFile "src/f.c" = .ok detail ∧ source.fetchFile "./src//f.c" = .ok detail := by
  intro below entry report source detail
  have hplain : source.fetchFile "src/f.c" = .ok detail := by
    refine fetchFile_eq_ok_iff.mpr ⟨by decide, ?_, by rfl, by rfl⟩
    rw [show Config.resolveDir source.sourceDir "src/f.c" = "/p/src/f.c" by decide]
    exact FileTree.readText_of_resolve (by rfl) (by rfl)
  obtain ⟨e, hdotted⟩ : ∃ e, source.fetchFile "./src//f.c" = .ok e := by
    refine ⟨detail, fetchFile_eq_ok_iff.mpr ⟨by decide, ?_, by rfl, by rfl⟩⟩
    rw [show Config.resolveDir source.sourceDir "./src//f.c" = "/p/./src//f.c" by decide]
    exact FileTree.readText_of_resolve (by rfl) (by rfl)
  have hsame : source.report.entry "src/f.c" = source.report.entry "./src//f.c" := by rfl
  have heq := (spellings_share_text source (by decide) hplain hdotted).2.mpr hsame
  exact ⟨hplain, hdotted.trans (congrArg Except.ok heq.symm)⟩

/-- A report that lists a file under its plain spelling only: fetched by the dotted one, the
    file comes with its text and without the findings. -/
theorem dotted_spelling_without_findings :
    let below : FileTree := .directory [("src", .directory [("main.c", .file [0x78, 0x0A])])]
    let entry : FileEntry := ⟨[.complexity ⟨1, 1, 12, none⟩], some 7⟩
    let report : Report := ⟨[], [("src/main.c", entry)]⟩
    let source : KindSource := ⟨.complexity, report, .directory [("p", below)], "/p"⟩
    Path.names "./src/main.c".toList = Path.names "src/main.c".toList
      ∧ source.fetchFile "src/main.c" = .ok ⟨"x\n", entry.findings, entry.tolerance⟩
      ∧ source.fetchFile "./src/main.c" = .ok ⟨"x\n", [], none⟩ := by
  intro below entry report source
  refine ⟨by decide, ?_, ?_⟩
  · refine fetchFile_eq_ok_iff.mpr ⟨by decide, ?_, by rfl, by rfl⟩
    rw [show Config.resolveDir source.sourceDir "src/main.c" = "/p/src/main.c" by decide]
    exact FileTree.readText_of_resolve (by rfl) (by rfl)
  · refine fetchFile_eq_ok_iff.mpr ⟨by decide, ?_, by rfl, by rfl⟩
    rw [show Config.resolveDir source.sourceDir "./src/main.c" = "/p/./src/main.c" by decide]
    exact FileTree.readText_of_resolve (by rfl) (by rfl)

end KindSource

end FindingsBrowser
