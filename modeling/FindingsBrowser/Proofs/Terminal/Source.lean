import FindingsBrowser.Proofs.Document
import FindingsBrowser.Proofs.Overlay.Rules
import FindingsBrowser.Proofs.Terminal.Style
import FindingsBrowser.Proofs.Viewer.Coherence
import FindingsBrowser.Terminal.Source

/-! # Sources on the terminal — where the text of a line starts

    A row is a gutter and a line of the document.  The gutter holds the line's number, filled
    up to the width of the highest one, and a marker.  Every marker is one character wide,
    but for the level of a duplicate, which is a number.

    * `renderSource_eq`: what is shown is a header and one row for each line of the viewport.
    * `length_gutterText`: the text of a row starts behind the digits, the marker and two
      blanks; `length_markerPiece_iff` tells the markers of one character.
    * `source_text_column` is what that comes to, for every viewer. -/

namespace FindingsBrowser.Terminal

/-! ## Rows -/

/-- The marker of a decoration. -/
def markerPiece : Option Decoration → Piece
  | none => ⟨" ", []⟩
  | some .covered => ⟨"+", [.green]⟩
  | some .killed => ⟨"+", [.green]⟩
  | some .notComplex => ⟨"+", [.green]⟩
  | some .uncovered => ⟨"-", [.red]⟩
  | some .survived => ⟨"-", [.red]⟩
  | some .complex => ⟨"-", [.red]⟩
  | some .skipped => ⟨"~", [.dimmed]⟩
  | some .mixedWithSurvived => ⟨"!", [.magenta, .bold]⟩
  | some .mixedWithoutSurvived => ⟨"*", [.yellow]⟩
  | some (.duplicated level) => ⟨toString level, [if 3 ≤ level then .red else .yellow]⟩

/-- What stands before the text of a line: its number and its marker. -/
def gutterPieces (width : Nat) (selected : Bool) (line : Nat)
    (decoration : Option Decoration) : List Piece :=
  [⟨padLeft width (toString line), if selected then [.cyan, .bold] else [.dimmed]⟩,
    ⟨" ", []⟩, markerPiece decoration, ⟨" ", []⟩]

/-- One line of the source. -/
def linePieces (width : Nat) (selected : Bool) (line : Nat)
    (decoration : Option Decoration) (text : String) : List Piece :=
  gutterPieces width selected line decoration
    ++ [⟨text, if selected then [.bold] else []⟩, ⟨"\n", []⟩]

/-- What the line above a source says of the viewport. -/
def rangeText (document : Document) (viewport : LineSpan) : String :=
  "(" ++ document.language ++ ", lines " ++ toString viewport.first ++ "-" ++
    toString viewport.last ++ " of " ++ toString document.lineCount ++ ")"

/-- The line above a source. -/
def headerPieces (document : Document) (viewport : LineSpan) : List Piece :=
  [⟨"##", [.bold]⟩, ⟨" ", []⟩, ⟨document.path, [.cyan, .bold]⟩, ⟨" ", []⟩,
    ⟨rangeText document viewport, [.dimmed]⟩, ⟨"\n", []⟩]

theorem shown_markerPiece (decoration : Option Decoration) :
    (markerPiece decoration).shown = marker decoration := by
  cases decoration with
  | none => rfl
  | some decoration => cases decoration <;> rfl

theorem shown_linePieces (width : Nat) (selected : Bool) (line : Nat)
    (decoration : Option Decoration) (text : String) :
    shown (linePieces width selected line decoration text)
      = renderLine width selected line decoration text := by
  have hmarker := shown_markerPiece decoration
  rw [Piece.shown] at hmarker
  cases selected <;>
    simp [linePieces, gutterPieces, renderLine, hmarker, Piece.shown, String.append_assoc]

theorem shown_headerPieces (document : Document) (viewport : LineSpan) :
    shown (headerPieces document viewport) = renderHeader document viewport := by
  simp [headerPieces, renderHeader, rangeText, Piece.shown, String.append_assoc]

/-! ## What is read of them -/

/-- The gutter of a line, as it is read. -/
def gutterText (width : Nat) (line : Nat) (decoration : Option Decoration) : String :=
  padLeft width (toString line) ++ " " ++ (markerPiece decoration).text ++ " "

/-- The line above a source, as it is read. -/
def headingText (document : Document) (viewport : LineSpan) : String :=
  "## " ++ document.path ++ " " ++ rangeText document viewport

theorem plain_linePieces (width : Nat) (selected : Bool) (line : Nat)
    (decoration : Option Decoration) (text : String) :
    plain (linePieces width selected line decoration text)
      = gutterText width line decoration ++ text ++ "\n" := by
  simp [linePieces, gutterPieces, gutterText, String.append_assoc]

theorem plain_headerPieces (document : Document) (viewport : LineSpan) :
    plain (headerPieces document viewport) = headingText document viewport ++ "\n" := by
  have hmark : "##" ++ " " = "## " := by decide
  rw [headingText, ← hmark]
  simp only [headerPieces, plain_cons, plain_nil, String.append_empty, String.append_assoc]

theorem length_toString_eq_one_iff (n : Nat) : (toString n).length = 1 ↔ n < 10 := by
  have hle := Nat.length_repr_le_iff (n := n) (k := 1) (by decide)
  have hpos : 0 < n.repr.length := Nat.length_repr_pos
  rw [Nat.toString_eq_repr]
  omega

theorem length_toString_mono {m n : Nat} (h : m ≤ n) :
    (toString m).length ≤ (toString n).length := by
  have hpos : 0 < n.repr.length := Nat.length_repr_pos
  have hbound : n < 10 ^ n.repr.length := (Nat.length_repr_le_iff hpos).mp (Nat.le_refl _)
  exact (Nat.length_repr_le_iff hpos).mpr (Nat.lt_of_le_of_lt h hbound)

/-- A marker is one character wide, unless it is a level of two digits or more. -/
theorem length_markerPiece_iff (decoration : Option Decoration) :
    (markerPiece decoration).text.length = 1
      ↔ ¬∃ level, decoration = some (.duplicated level) ∧ 10 ≤ level := by
  rcases decoration with _ | decoration
  · exact ⟨fun _ => by simp, fun _ => by decide⟩
  · cases decoration with
    | duplicated level =>
        rw [markerPiece, length_toString_eq_one_iff]
        simp
    | _ => exact ⟨fun _ => by simp, fun _ => by decide⟩

theorem printable_markerPiece (decoration : Option Decoration) :
    Printable (markerPiece decoration).text := by
  rcases decoration with _ | decoration
  · decide
  · cases decoration with
    | duplicated level => exact printable_toString level
    | _ => decide

/-- **THE GUTTER** is as wide as the highest number, the marker and two blanks. -/
theorem length_gutterText {line count : Nat} (h : line ≤ count) (decoration : Option Decoration) :
    (gutterText (toString count).length line decoration).length
      = (toString count).length + (markerPiece decoration).text.length + 2 := by
  have hdigits := length_toString_mono h
  have hblank : " ".length = 1 := by decide
  rw [gutterText, String.length_append, String.length_append, String.length_append,
    length_padLeft, hblank]
  omega

theorem printable_gutterText (width line : Nat) (decoration : Option Decoration) :
    Printable (gutterText width line decoration) :=
  ((((printable_toString line).padLeft width).append (by decide)).append
    (printable_markerPiece decoration)).append (by decide)

theorem printable_language (document : Document) : Printable document.language := by
  have htable : ∀ entry ∈ Document.languages, Printable entry.2 := by decide
  rw [Document.language]
  split
  · decide
  · split
    · case _ hfind => exact htable _ (List.mem_of_find?_eq_some hfind)
    · decide

theorem printable_rangeText (document : Document) (viewport : LineSpan) :
    Printable (rangeText document viewport) := by
  have hopen : Printable "(" := by decide
  have hlines : Printable ", lines " := by decide
  have hdash : Printable "-" := by decide
  have hof : Printable " of " := by decide
  have hclose : Printable ")" := by decide
  exact (((((((hopen.append (printable_language document)).append hlines).append
    (printable_toString _)).append hdash).append (printable_toString _)).append hof).append
    (printable_toString _)).append hclose

/-! ## The whole -/

/-- A line of a file on display, decorated by the plain rule. -/
def rowPieces (file : LoadedFile) (line : Nat) : List Piece :=
  linePieces (toString file.document.lineCount).length (file.selection == some line) line
    (file.policy.plainRule file.index.findings.toList line)
    ((file.document.line? line).getD "")

theorem plain_rowPieces (file : LoadedFile) (line : Nat) :
    plain (rowPieces file line)
      = gutterText (toString file.document.lineCount).length line
          (file.policy.plainRule file.index.findings.toList line)
        ++ (file.document.line? line).getD "" ++ "\n" :=
  plain_linePieces ..

/-- The texts from the first visible line on, each with its number. -/
theorem zip_lines {document : Document} {span : LineSpan} (hfirst : 1 ≤ span.first)
    (hlast : span.last ≤ document.lineCount) :
    (document.lines.drop (span.first - 1)).zip span.lines
      = span.lines.map fun line => ((document.line? line).getD "", line) := by
  have hlines : document.lines.length = document.lineCount := by
    rw [Document.lines_eq, List.length_map, Document.lineCount_eq]
  refine List.ext_getElem ?_ fun i hi hi' => ?_
  · rw [List.length_zip, List.length_drop, List.length_map, hlines, LineSpan.lines,
      List.length_range']
    omega
  · have hplace : span.first - 1 + i < document.lines.length := by
      rw [List.length_map, LineSpan.lines, List.length_range'] at hi'
      omega
    have htext := document.getElem?_lines (span.first - 1 + i)
    rw [List.getElem?_eq_getElem hplace] at htext
    have hvisible : i < span.lines.length := by rwa [List.length_map] at hi'
    have hnumber : span.lines[i] = span.first - 1 + i + 1 := by
      simp only [LineSpan.lines, List.getElem_range']
      omega
    rw [List.getElem_zip, List.getElem_map, List.getElem_drop, hnumber, ← htext]
    rfl

/-- **WHAT IS SHOWN** of a file on display: a header, and a row for each visible line. -/
theorem renderSource_eq {v : Viewer} (h : v.Coherent) {file : LoadedFile}
    (hfile : v.loaded = some file) {span : LineSpan} (hview : v.viewport = some span)
    (hfirst : 1 ≤ span.first) (hlast : span.last ≤ file.document.lineCount) :
    renderSource v
      = shown (headerPieces file.document span ++ span.lines.flatMap (rowPieces file)) := by
  have hdocument : v.document? = some file.document := by rw [Viewer.document?, hfile]; rfl
  have hselection : v.selection = file.selection := by rw [Viewer.selection, hfile]; rfl
  rw [renderSource, hdocument, hview]
  dsimp only
  rw [zip_lines hfirst hlast, List.map_map, shown_append, shown_headerPieces, shown_flatMap]
  congr 2
  refine List.map_congr_left fun line hline => ?_
  have hcontains : span.contains line = true := by
    rw [LineSpan.lines, List.mem_range'_1] at hline
    rw [LineSpan.contains, Bool.and_eq_true, decide_eq_true_eq, decide_eq_true_eq]
    omega
  have hdecoration := h.find?_decorations hfile hview hcontains
  rw [Function.comp_apply, rowPieces, shown_linePieces, hselection, ← hdecoration]

/-- Without escape characters in the document and its path, there are none in the texts that
    are shown. -/
theorem escape_not_mem_pieces {file : LoadedFile} (hpath : '\x1b' ∉ file.document.path.toList)
    (htext : '\x1b' ∉ file.document.text.toList) (span : LineSpan)
    (hfirst : 1 ≤ span.first) (hlast : span.last ≤ file.document.lineCount) :
    ∀ piece ∈ headerPieces file.document span ++ span.lines.flatMap (rowPieces file),
      '\x1b' ∉ piece.text.toList := by
  intro piece hpiece
  rcases List.mem_append.mp hpiece with hheader | hrow
  · have hrange := (printable_rangeText file.document span).not_mem (c := '\x1b') (by decide)
    simp only [headerPieces, List.mem_cons, List.not_mem_nil, or_false] at hheader
    rcases hheader with rfl | rfl | rfl | rfl | rfl | rfl
    · decide
    · decide
    · exact hpath
    · decide
    · exact hrange
    · decide
  · obtain ⟨line, hline, hpiece⟩ := List.mem_flatMap.mp hrow
    rw [LineSpan.lines, List.mem_range'_1] at hline
    have hexists : 1 ≤ line ∧ line ≤ file.document.lineCount := by omega
    obtain ⟨text, hshown, -, hchars⟩ := file.document.exists_line? hexists
    have hnumber := ((printable_toString line).padLeft
      (toString file.document.lineCount).length).not_mem (c := '\x1b') (by decide)
    have hmarker := (printable_markerPiece
      (file.policy.plainRule file.index.findings.toList line)).not_mem (c := '\x1b') (by decide)
    rw [rowPieces, hshown] at hpiece
    simp only [linePieces, gutterPieces, List.cons_append, List.nil_append, List.mem_cons,
      List.not_mem_nil, or_false] at hpiece
    rcases hpiece with rfl | rfl | rfl | rfl | rfl | rfl
    · exact hnumber
    · decide
    · exact hmarker
    · decide
    · exact fun hmem => htext (hchars hmem)
    · decide

/-- **THE COLUMN OF THE TEXT**, for every viewer with a document on display.  Without its
    styles, what is shown is a header and one row for each line of the viewport, in order;
    the header breaks no line but by the path, and a row breaks none.  The text of a row
    stands behind the digits of the highest number, the marker and two blanks.  The marker is
    one character, unless the palette of duplication has more than ten levels and more than
    ten duplicates lie on the line. -/
theorem source_text_column (kind : AnalysisKind) {policy : OverlayPolicy} (h : policy.FitsByte)
    (history : List ViewerEvent) :
    let v := (ViewerSession.run kind policy history).viewer
    ∀ file, v.loaded = some file →
      let document := file.document
      let findings := file.index.findings.toList
      let digits := (toString document.lineCount).length
      let gutter := fun line => gutterText digits line (file.policy.plainRule findings line)
      ∃ span, v.viewport = some span ∧ 1 ≤ span.first ∧ span.last ≤ document.lineCount
        ∧ (∃ pieces, renderSource v = shown pieces
          ∧ plain pieces = headingText document span ++ "\n"
              ++ String.join (span.lines.map fun line =>
                  gutter line ++ (document.line? line).getD "" ++ "\n")
          ∧ ('\x1b' ∉ document.path.toList → '\x1b' ∉ document.text.toList →
              unescaped false (renderSource v).toList = (plain pieces).toList))
        ∧ ('\n' ∉ document.path.toList → '\n' ∉ (headingText document span).toList)
        ∧ ∀ line ∈ span.lines,
          (∃ text, document.line? line = some text ∧ '\n' ∉ (gutter line ++ text).toList)
            ∧ (gutter line).length
                = digits + (markerPiece (file.policy.plainRule findings line)).text.length + 2
            ∧ ((gutter line).length = digits + 3
                ↔ ¬∃ levels, policy = .duplication levels ∧ 10 < levels
                    ∧ 10 < (findings.filter (·.touches line)).countP Finding.isDuplicate) := by
  intro v file hfile document findings digits gutter
  have hcoherent : v.Coherent := coherent_run kind policy history
  obtain ⟨span, hview, hfirst, hlast, -⟩ := hcoherent.window file hfile
  obtain ⟨tolerance, hpolicy⟩ := policy_run hfile
  have hrender := renderSource_eq hcoherent hfile hview hfirst hlast
  refine ⟨span, hview, hfirst, hlast, ⟨_, hrender, ?_, ?_⟩, ?_, ?_⟩
  · rw [plain_append, plain_headerPieces, plain_flatMap]
    simp only [plain_rowPieces]
    rfl
  · intro hpath htext
    rw [hrender]
    exact unescaped_shown (escape_not_mem_pieces hpath htext span hfirst hlast)
  · intro hpath
    have hrange := (printable_rangeText document span).not_mem (c := '\n') (by decide)
    rw [headingText, String.toList_append, String.toList_append, String.toList_append]
    simp only [List.mem_append, not_or]
    exact ⟨⟨⟨by decide, hpath⟩, by decide⟩, hrange⟩
  · intro line hline
    rw [LineSpan.lines, List.mem_range'_1] at hline
    have hline_le : line ≤ span.last := by omega
    have hexists : 1 ≤ line ∧ line ≤ document.lineCount :=
      ⟨Nat.le_trans hfirst hline.1, Nat.le_trans hline_le hlast⟩
    have hlength : (gutter line).length
        = digits + (markerPiece (file.policy.plainRule findings line)).text.length + 2 :=
      length_gutterText hexists.2 _
    refine ⟨?_, hlength, ?_⟩
    · obtain ⟨text, hshown, hfeed, -⟩ := document.exists_line? hexists
      have hgutter := (printable_gutterText digits line
        (file.policy.plainRule findings line)).not_mem (c := '\n') (by decide)
      refine ⟨text, hshown, fun hmem => ?_⟩
      rw [String.toList_append, List.mem_append] at hmem
      exact hmem.elim hgutter hfeed
    · have hmarker := length_markerPiece_iff (file.policy.plainRule findings line)
      have hfits : file.policy.FitsByte := hpolicy ▸ h.withTolerance tolerance
      have hwide := OverlayPolicy.wide_decoration_iff hfits (findings.filter (·.touches line))
      rw [hpolicy] at hwide
      simp only [OverlayPolicy.withTolerance_eq_duplication_iff] at hwide
      rw [← hwide, ← hpolicy, hlength]
      exact Iff.trans (by omega) hmarker

/-- Twelve duplicates on a line, and a palette of ten: the highest level is nine. -/
theorem source_text_column_nine :
    let policy : OverlayPolicy := .duplication 10
    let findings := List.replicate 12 (Finding.duplicate ⟨1, 1, []⟩)
    let document : Document := ⟨"a.c", "x\ny\n"⟩
    let file : LoadedFile := ⟨document, .buildWithin findings document.lineCount, policy, none⟩
    let v := (ViewerSession.run .duplication policy
      [.begin "a.c", .finish 0 (.ok { content := "x\ny\n", findings := findings })]).viewer
    policy.FitsByte ∧ v.loaded = some file
      ∧ ∃ span, v.viewport = some span
        ∧ ∀ line ∈ span.lines,
          (gutterText 1 line (file.policy.plainRule file.index.findings.toList line)).length = 4 := by
  intro policy findings document file v
  have hfits : policy.FitsByte := by
    show 10 < UInt8.size
    decide
  have hloaded : v.loaded = some file := by rfl
  have hdigits : (toString document.lineCount).length = 1 := by decide
  obtain ⟨span, hview, -, -, -, -, hrows⟩ :=
    source_text_column .duplication hfits _ file hloaded
  refine ⟨hfits, hloaded, span, hview, fun line hline => ?_⟩
  obtain ⟨-, -, hcolumn⟩ := hrows line hline
  rw [hdigits] at hcolumn
  refine hcolumn.mpr ?_
  rintro ⟨levels, hpolicy, hlevels, -⟩
  obtain rfl := OverlayPolicy.duplication.inj hpolicy
  exact absurd hlevels (by decide)

/-- Twelve duplicates on a line, and a palette of twenty: the text of that line is shifted. -/
theorem wide_marker_shifts_text :
    let policy : OverlayPolicy := .duplication 20
    let findings := List.replicate 12 (Finding.duplicate ⟨1, 1, []⟩)
    let document : Document := ⟨"a.c", "x\ny\n"⟩
    let file : LoadedFile := ⟨document, .buildWithin findings document.lineCount, policy, none⟩
    let v := (ViewerSession.run .duplication policy
      [.begin "a.c", .finish 0 (.ok { content := "x\ny\n", findings := findings })]).viewer
    renderSource v = shown (headerPieces document ⟨1, 2⟩ ++ [1, 2].flatMap (rowPieces file))
      ∧ plain (rowPieces file 1) = "1 11 x\n" ∧ plain (rowPieces file 2) = "2   y\n" := by
  intro policy findings document file v
  have hloaded : v.loaded = some file := by rfl
  have hcount : document.lineCount = 2 := by decide
  have hview : v.viewport = some ⟨1, 2⟩ := by
    show some (LineSpan.clampTo ⟨1, initialViewportLines⟩ document.lineCount) = _
    rw [hcount]
    rfl
  refine ⟨?_, ?_, ?_⟩
  · exact renderSource_eq (coherent_run ..) hloaded hview (by decide) (Nat.le_of_eq hcount.symm)
  · rw [plain_rowPieces]
    decide
  · rw [plain_rowPieces]
    decide

end FindingsBrowser.Terminal
