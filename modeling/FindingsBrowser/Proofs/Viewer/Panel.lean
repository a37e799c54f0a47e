import FindingsBrowser.Proofs.Detail
import FindingsBrowser.Proofs.Viewer.Coherence

/-! # The panel of a viewer — the findings of the selected line, and all of them

    The panel and the decorations are two readings of one index.

    * `ofSelection_buildWithin` reads the panel of a line off the index of a document:
      it groups the findings that touch the line.
    * `Coherent.detail_activate` says what the panel shows once a line is selected.
    * A decorated line has findings, since no policy decorates a line without any; so
      its panel is not empty. -/

namespace FindingsBrowser

theorem LineIndex.isEmpty_iff (ix : LineIndex) :
    ix.isEmpty = true ↔ ix.findings.toList = [] := by
  rw [LineIndex.isEmpty, Array.isEmpty_iff, Array.toList_eq_nil_iff]

namespace DetailView

/-- The panel is not available exactly for a document without findings. -/
theorem ofSelection_eq_notAvailable_iff (selection : Option Nat) (ix : LineIndex)
    (context : AnalysisKind) :
    ofSelection selection ix context = .notAvailable ↔ ix.findings.toList = [] := by
  rw [← ix.isEmpty_iff]
  by_cases h : ix.isEmpty = true
  · simp [ofSelection, h]
  · cases selection <;> simp [ofSelection, h]

/-- The panel of a line groups the findings that touch it. -/
theorem ofSelection_buildWithin {findings : List Finding} (hne : findings ≠ [])
    {lineCount line : Nat} (hline : 1 ≤ line ∧ line ≤ lineCount) (context : AnalysisKind) :
    ofSelection (some line) (.buildWithin findings lineCount) context
      = .line line (groupByKind context (findings.filter (·.touches line))) := by
  have hfull : (LineIndex.buildWithin findings lineCount).isEmpty ≠ true :=
    fun h => hne ((LineIndex.isEmpty_iff _).mp h)
  rw [← LineIndex.query_buildWithin_of_mem findings hline]
  exact if_neg hfull

/-- What the panel of a line shows are the findings that touch it. -/
theorem findings_ofSelection {findings : List Finding} (hne : findings ≠ [])
    {lineCount line : Nat} (hline : 1 ≤ line ∧ line ≤ lineCount) (context : AnalysisKind) :
    (ofSelection (some line) (.buildWithin findings lineCount) context).findings.Perm
      (findings.filter (·.touches line)) := by
  rw [ofSelection_buildWithin hne hline]
  exact flatMap_groupByKind_perm

end DetailView

namespace Viewer

variable {v : Viewer} {file : LoadedFile}

/-- The panel of a viewer reads the index of the file on display. -/
theorem detail_of_loaded (hfile : v.loaded = some file) :
    v.detail = .ofSelection file.selection file.index v.kind := by
  rw [detail, hfile]

/-- Selecting a line of the document leads to its panel, selected before or not. -/
theorem detail_activate (hfile : v.loaded = some file) {line : Nat}
    (hline : 1 ≤ line ∧ line ≤ file.document.lineCount) :
    (v.activate line).1.detail = .ofSelection (some line) file.index v.kind := by
  have hcontains : file.document.containsLine line = true := by
    rw [Document.containsLine, Bool.and_eq_true, decide_eq_true_eq, decide_eq_true_eq]
    exact hline
  rw [activate, hfile]
  dsimp only
  by_cases hsel : file.selection = some line
  · rw [if_neg (by simp [hsel]), ← hsel]
    exact detail_of_loaded hfile
  · rw [if_pos (by simp [hcontains, hsel])]
    have hselected : (v.withSelection (some line)).loaded
        = some { file with selection := some line } := by
      rw [withSelection, hfile]
      rfl
    exact detail_of_loaded hselected

/-- A decorated line has findings. -/
theorem Coherent.touched_of_decorated (h : v.Coherent) (hfile : v.loaded = some file)
    {line : Nat} (hdec : v.decorationAt line ≠ none) :
    (1 ≤ line ∧ line ≤ file.document.lineCount)
      ∧ file.index.findings.toList.filter (·.touches line) ≠ [] := by
  rw [h.decorationAt hfile] at hdec
  by_cases hline : 1 ≤ line ∧ line ≤ file.document.lineCount
  · refine ⟨hline, ?_⟩
    intro hnone
    rw [if_pos hline, OverlayPolicy.plainRule, hnone, OverlayPolicy.decorate_nil] at hdec
    exact hdec rfl
  · exact absurd (if_neg hline) hdec

/-- The panel of a decorated line is not empty. -/
theorem Coherent.findings_detail_activate (h : v.Coherent) {line : Nat}
    (hdec : v.decorationAt line ≠ none) : (v.activate line).1.detail.findings ≠ [] := by
  cases hfile : v.loaded with
  | none =>
      rw [Viewer.decorationAt, hfile] at hdec
      exact absurd rfl hdec
  | some file =>
      obtain ⟨hline, htouched⟩ := h.touched_of_decorated hfile hdec
      have hne : file.index.findings.toList ≠ [] := by
        intro hnone
        rw [hnone] at htouched
        exact htouched rfl
      rw [detail_activate hfile hline, (h.sound file hfile).index]
      intro hempty
      have hperm := DetailView.findings_ofSelection hne hline v.kind
      rw [hempty] at hperm
      exact htouched hperm.nil_eq.symm

end Viewer

/-- **THE PANEL SHOWS EXACTLY THE FINDINGS OF THE SELECTED LINE.** In a document with
    findings the panel of a line has groups that are not empty, come in dashboard
    order with one group a kind, and hold the findings of their kind that touch the
    line, in supply order; one after the other they are the findings touching the line
    kind by kind, each as often as it was supplied. The panel is not available exactly
    for a document without findings, and in every viewer that can be reached a
    decorated line, visible or not, shows a finding once it is selected. -/
theorem panel_shows_line :
    (∀ (findings : List Finding) (lineCount : Nat) (context : AnalysisKind) (line : Nat),
        findings ≠ [] → 1 ≤ line ∧ line ≤ lineCount →
        let shown := findings.filter (·.touches line)
        let ofKind := fun kind => shown.filter fun f => f.kindUnder context = kind
        ∃ groups, DetailView.ofSelection (some line) (.buildWithin findings lineCount) context
            = .line line groups
          ∧ (∀ g ∈ groups, g.findings ≠ [] ∧ g.findings = ofKind g.kind)
          ∧ (groups.Pairwise fun g h => g.kind.position < h.kind.position)
          ∧ groups.flatMap DetailGroup.findings = AnalysisKind.all.flatMap ofKind
          ∧ (groups.flatMap DetailGroup.findings).Perm shown)
      ∧ (∀ (findings : List Finding) (lineCount : Nat) (context : AnalysisKind)
            (selection : Option Nat),
          DetailView.ofSelection selection (.buildWithin findings lineCount) context
              = .notAvailable
            ↔ findings = [])
      ∧ ∀ (kind : AnalysisKind) (policy : OverlayPolicy) (history : List ViewerEvent),
          let v := (ViewerSession.run kind policy history).viewer
          (∀ file, v.loaded = some file →
              (v.detail = .notAvailable ↔ file.index.findings.toList = []))
            ∧ ∀ line, v.decorationAt line ≠ none →
                (v.activate line).1.detail.findings ≠ [] := by
  refine ⟨?_, ?_, ?_⟩
  · intro findings lineCount context line hne hline shown ofKind
    refine ⟨_, DetailView.ofSelection_buildWithin hne hline context, ?_,
      DetailView.pairwise_groupByKind, DetailView.flatMap_groupByKind,
      DetailView.flatMap_groupByKind_perm⟩
    intro g hg
    exact (DetailView.mem_groupByKind.mp hg).symm
  · intro findings lineCount context selection
    exact DetailView.ofSelection_eq_notAvailable_iff ..
  · intro kind policy history v
    have h : v.Coherent := coherent_run kind policy history
    refine ⟨?_, fun line hdec => h.findings_detail_activate hdec⟩
    intro file hfile
    rw [Viewer.detail_of_loaded hfile]
    exact DetailView.ofSelection_eq_notAvailable_iff ..

/-- A line inside two functions and a block has groups out of all of them, in dashboard
    order; a viewer that decorates a line shows a finding there. -/
theorem panel_shows_line_mixed :
    let violation : Finding := .violation ⟨10, .major, "var", "unquoted variable", none, none, none⟩
    let outer : Finding := .complexity ⟨1, 20, 4, some "outer"⟩
    let block : Finding := .duplicate ⟨8, 12, []⟩
    let inner : Finding := .complexity ⟨10, 10, 1, none⟩
    let findings := [violation, outer, block, inner]
    let file : FileDetail := { content := "a\nb\n", findings := [.coverage ⟨2, false, none⟩] }
    let v := (ViewerSession.run .statementCoverage .coverage
      [.begin "a.c", .finish 0 (.ok file)]).viewer
    (findings ≠ [] ∧ 1 ≤ 10 ∧ 10 ≤ 30)
      ∧ (DetailView.ofSelection (some 10) (.buildWithin findings 30) .recipeViolation).findings
        = [outer, inner, block, violation]
      ∧ v.decorationAt 2 = some .uncovered
      ∧ (v.activate 2).1.detail.findings ≠ [] := by
  intro violation outer block inner findings file v
  have hline : 1 ≤ 10 ∧ 10 ≤ 30 := by decide
  obtain ⟨hpanel, -, hviewer⟩ := panel_shows_line
  obtain ⟨groups, hgroups, -, -, hflat, -⟩ :=
    hpanel findings 30 .recipeViolation 10 (List.cons_ne_nil _ _) hline
  have hcoherent : v.Coherent := coherent_run .statementCoverage .coverage _
  have hdec : v.decorationAt 2 = some .uncovered :=
    (hcoherent.decorationAt rfl 2).trans (if_pos (by decide))
  refine ⟨⟨List.cons_ne_nil _ _, hline⟩, ?_, hdec, ?_⟩
  · rw [hgroups]
    exact hflat.trans (by rfl)
  · exact (hviewer .statementCoverage .coverage _).2 2 (by rw [hdec]; exact Option.some_ne_none _)

end FindingsBrowser
