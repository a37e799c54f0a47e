import FindingsBrowser.Proofs.Overlay
import FindingsBrowser.Proofs.Viewer.Session

/-! # Viewer coherence — what is cached is what the plain rule says

    A viewer keeps a bounded index, a clamped viewport and the decorations of
    the visible lines.  The plain rule filters all findings for each line anew.

    * `Coherent` is the invariant: the index is that of the document on display,
      and the decorations are those of the present viewport under the present
      policy.
    * `coherent_showLines` restores it from the index alone, so a load needs
      nothing of what was on display before; `coherent_run` has it everywhere.
    * The last section compares every reachable viewer with the plain rule. -/

namespace FindingsBrowser

/-- The plain rule for a line: the policy's decoration of all findings that
    touch it. -/
def OverlayPolicy.plainRule (policy : OverlayPolicy) (findings : List Finding)
    (line : Nat) : Option Decoration :=
  policy.decorate (findings.filter (·.touches line))

/-- A file whose index is that of its own document, with no line selected
    outside. -/
structure LoadedFile.Sound (file : LoadedFile) : Prop where
  index : file.index
    = .buildWithin file.index.findings.toList file.document.lineCount
  selection : ∀ line, file.selection = some line →
    1 ≤ line ∧ line ≤ file.document.lineCount

/-- The bounded index answers for the plain rule: on the document's lines the
    rule itself, and nothing elsewhere. -/
theorem LoadedFile.Sound.decorate_query {file : LoadedFile} (h : file.Sound)
    (line : Nat) :
    file.policy.decorate (file.index.query line)
      = if 1 ≤ line ∧ line ≤ file.document.lineCount then
          file.policy.plainRule file.index.findings.toList line
        else none := by
  rw [h.index]
  by_cases hline : 1 ≤ line ∧ line ≤ file.document.lineCount
  · rw [if_pos hline, LineIndex.query_buildWithin_of_mem _ hline]
    rfl
  · rw [if_neg hline, LineIndex.query_buildWithin_of_not_mem _ hline,
      OverlayPolicy.decorate_nil]

namespace Viewer

/-- The visible part of a file: a span of its lines, with their decorations. -/
def Window (v : Viewer) (file : LoadedFile) : Prop :=
  ∃ span : LineSpan, v.viewport = some span
    ∧ 1 ≤ span.first ∧ span.last ≤ file.document.lineCount
    ∧ v.decorations = file.policy.decorateSpan file.index span

/-- Index, viewport and decorations belong to what is on display. -/
structure Coherent (v : Viewer) : Prop where
  blank : v.loaded = none → v.viewport = none ∧ v.decorations = []
  sound : ∀ file, v.loaded = some file → file.Sound
  window : ∀ file, v.loaded = some file → v.Window file

/-! ## What each operation keeps -/

/-- Showing lines of a sound file is coherent, whatever was visible before. -/
theorem coherent_showLines {v : Viewer} {file : LoadedFile}
    (hfile : v.loaded = some file) (h : file.Sound) (visible : LineSpan) :
    (v.showLines visible).Coherent := by
  have heq : v.showLines visible
      = { v with
          viewport := some (visible.clampTo file.document.lineCount)
          decorations := file.policy.decorateSpan file.index
            (visible.clampTo file.document.lineCount) } := by
    rw [showLines, hfile]
  rw [heq]
  refine ⟨fun hnone => ?_, fun f hf => ?_, fun f hf => ?_⟩
  · exact absurd (hfile.symm.trans hnone) (Option.some_ne_none file)
  · obtain rfl := Option.some.inj (hfile.symm.trans hf)
    exact h
  · obtain rfl := Option.some.inj (hfile.symm.trans hf)
    exact ⟨_, rfl, Nat.le_max_right .., Nat.min_le_right .., rfl⟩

/-- A file just fetched is sound. -/
theorem sound_ofDetail (document : Document) (findings : List Finding)
    (policy : OverlayPolicy) :
    LoadedFile.Sound
      ⟨document, .buildWithin findings document.lineCount, policy, none⟩ :=
  ⟨rfl, fun _ h => nomatch h⟩

/-- Putting a file on display is coherent, whatever was there before. -/
theorem coherent_install (v : Viewer) (path : String) (detail : FileDetail) :
    (v.install path detail).Coherent := by
  rw [install]
  exact coherent_showLines rfl (sound_ofDetail ..) _

/-- Selecting a line of the document, or none, is coherent. -/
theorem Coherent.withSelection {v : Viewer} (h : v.Coherent)
    (selection : Option Nat)
    (hsel : ∀ file, v.loaded = some file → ∀ line, selection = some line →
      1 ≤ line ∧ line ≤ file.document.lineCount) :
    (v.withSelection selection).Coherent := by
  refine ⟨fun hnone => h.blank (Option.map_eq_none_iff.mp hnone), ?_, ?_⟩
  · intro file hf
    obtain ⟨f, hv, rfl⟩ := Option.map_eq_some_iff.mp hf
    exact ⟨(h.sound f hv).index, hsel f hv⟩
  · intro file hf
    obtain ⟨f, hv, rfl⟩ := Option.map_eq_some_iff.mp hf
    exact h.window f hv

theorem Coherent.showLines {v : Viewer} (h : v.Coherent) (visible : LineSpan) :
    (v.showLines visible).Coherent := by
  cases hfile : v.loaded with
  | none =>
      rw [Viewer.showLines, hfile]
      exact h
  | some file => exact coherent_showLines hfile (h.sound file hfile) visible

theorem Coherent.begin {v : Viewer} (h : v.Coherent) (path : String) :
    (v.begin path).1.Coherent :=
  ⟨h.blank, h.sound, h.window⟩

theorem Coherent.finish {v : Viewer} (h : v.Coherent) (ticket : LoadTicket)
    (result : Except FetchError FileDetail) :
    (v.finish ticket result).1.Coherent := by
  by_cases hcur : ticket.generation = v.generation
  · cases result with
    | error e =>
        rw [finish_error hcur]
        exact h
    | ok detail =>
        rw [finish_ok hcur]
        exact coherent_install ..
  · rw [finish_stale hcur]
    exact h

theorem Coherent.activate {v : Viewer} (h : v.Coherent) (line : Nat) :
    (v.activate line).1.Coherent := by
  rw [Viewer.activate]
  cases hfile : v.loaded with
  | none => exact h
  | some file =>
      dsimp only
      split
      · next hcond =>
          refine h.withSelection (some line) fun f hf l hl => ?_
          obtain rfl := Option.some.inj (hfile.symm.trans hf)
          obtain rfl := Option.some.inj hl
          -- only lines that the document contains get selected
          have hline := (Bool.and_eq_true_iff.mp hcond).1
          rw [Document.containsLine, Bool.and_eq_true_iff, decide_eq_true_iff,
            decide_eq_true_iff] at hline
          exact hline
      · exact h

theorem Coherent.clearSelection {v : Viewer} (h : v.Coherent) :
    v.clearSelection.1.Coherent := by
  rcases v.clearSelection_fst with heq | heq
  · rw [heq]
    exact h
  · rw [heq]
    exact h.withSelection none fun _ _ _ hl => nomatch hl

end Viewer

/-- **One event keeps a viewer coherent.** -/
theorem coherent_step {s : ViewerSession} (h : s.viewer.Coherent)
    (e : ViewerEvent) : (s.step e).viewer.Coherent := by
  cases e with
  | begin path => exact h.begin path
  | showLines visible => exact h.showLines visible
  | activate line => exact h.activate line
  | clear => exact h.clearSelection
  | finish k result =>
      rw [ViewerSession.step]
      cases s.issued[k]? with
      | none => exact h
      | some ticket => exact h.finish ticket result

/-- Every run leads to a coherent viewer. -/
theorem coherent_run (kind : AnalysisKind) (policy : OverlayPolicy)
    (history : List ViewerEvent) :
    (ViewerSession.run kind policy history).viewer.Coherent := by
  induction history using List.reverseRecOn with
  | nil =>
      exact ⟨fun _ => ⟨rfl, rfl⟩, fun _ hf => (nomatch hf), fun _ hf => (nomatch hf)⟩
  | append_singleton history e ih =>
      rw [ViewerSession.run_concat]
      exact coherent_step ih e

/-! ## The plain rule -/

namespace Viewer

variable {v : Viewer} {file : LoadedFile}

/-- The decorations on display are those of the plain rule. -/
theorem Coherent.mem_decorations (h : v.Coherent) (hfile : v.loaded = some file)
    {span : LineSpan} (hfirst : 1 ≤ span.first)
    (hlast : span.last ≤ file.document.lineCount)
    (hdec : v.decorations = file.policy.decorateSpan file.index span)
    (line : Nat) (d : Decoration) :
    (line, d) ∈ v.decorations
      ↔ span.contains line = true
        ∧ file.policy.plainRule file.index.findings.toList line = some d := by
  have hsound := h.sound file hfile
  have hquery := hsound.decorate_query line
  rw [hsound.index] at hquery hdec
  rw [hdec, LineIndex.buildWithin, OverlayPolicy.mem_decorateSpan,
    ← LineIndex.buildWithin, hquery]
  refine and_congr_right fun hline => ?_
  have hmem : 1 ≤ line ∧ line ≤ file.document.lineCount := by
    rw [LineSpan.contains, Bool.and_eq_true, decide_eq_true_eq,
      decide_eq_true_eq] at hline
    omega
  rw [if_pos hmem]
  rfl

/-- A single line is decorated by the plain rule, visible or not. -/
theorem Coherent.decorationAt (h : v.Coherent) (hfile : v.loaded = some file)
    (line : Nat) :
    v.decorationAt line
      = if 1 ≤ line ∧ line ≤ file.document.lineCount then
          file.policy.plainRule file.index.findings.toList line
        else none := by
  obtain ⟨span, -, hfirst, hlast, hdec⟩ := h.window file hfile
  rw [Viewer.decorationAt, hfile]
  dsimp only
  split
  · case _ key d hfind =>
      have hbeq := List.find?_some hfind
      obtain rfl : key = line := beq_iff_eq.mp hbeq
      obtain ⟨hline, hrule⟩ := (h.mem_decorations hfile hfirst hlast hdec key d).mp
        (List.mem_of_find?_eq_some hfind)
      have hmem : 1 ≤ key ∧ key ≤ file.document.lineCount := by
        rw [LineSpan.contains, Bool.and_eq_true, decide_eq_true_eq,
          decide_eq_true_eq] at hline
        omega
      rw [if_pos hmem, hrule]
  · exact (h.sound file hfile).decorate_query line

/-- The decoration of a visible line is that of the plain rule. -/
theorem Coherent.find?_decorations (h : v.Coherent) (hfile : v.loaded = some file)
    {span : LineSpan} (hview : v.viewport = some span) {line : Nat}
    (hline : span.contains line = true) :
    (v.decorations.find? fun (n, _) => n == line).map Prod.snd
      = file.policy.plainRule file.index.findings.toList line := by
  obtain ⟨span', hview', hfirst, hlast, hdec⟩ := h.window file hfile
  obtain rfl := Option.some.inj (hview.symm.trans hview')
  have hmem := h.mem_decorations hfile hfirst hlast hdec line
  cases hfind : v.decorations.find? fun (n, _) => n == line with
  | some found =>
      obtain ⟨n, decoration⟩ := found
      have hn : (n == line) = true :=
        List.find?_some (p := fun x : Nat × Decoration => x.1 == line) hfind
      rw [beq_iff_eq] at hn
      subst hn
      exact ((hmem decoration).mp (List.mem_of_find?_eq_some hfind)).2.symm
  | none =>
      cases hrule : file.policy.plainRule file.index.findings.toList line with
      | none => rfl
      | some decoration =>
          have hdecorated := (hmem decoration).mpr ⟨hline, hrule⟩
          exact absurd (List.find?_eq_none.mp hfind _ hdecorated) (by simp)

end Viewer

/-- **VIEWER COHERENCE.** An empty viewer has no selection, no viewport and no
    decorations. A viewer with a document on display has its selection and its
    viewport inside the document, decorates exactly the visible lines that the
    plain rule decorates, and answers the plain rule for every line of the
    document and nothing for any other. -/
theorem viewer_coherent (kind : AnalysisKind) (policy : OverlayPolicy)
    (history : List ViewerEvent) :
    let v := (ViewerSession.run kind policy history).viewer
    (v.loaded = none →
        v.selection = none ∧ v.viewport = none ∧ v.decorations = [])
      ∧ ∀ file, v.loaded = some file →
          let rule := v.policy.plainRule file.index.findings.toList
          (∀ line, v.selection = some line →
              1 ≤ line ∧ line ≤ file.document.lineCount)
            ∧ (∃ span, v.viewport = some span
                ∧ 1 ≤ span.first ∧ span.last ≤ file.document.lineCount
                ∧ (v.decorations.Pairwise fun a b => a.1 < b.1)
                ∧ ∀ line d, (line, d) ∈ v.decorations
                    ↔ span.contains line = true ∧ rule line = some d)
            ∧ ∀ line, v.decorationAt line
                = if 1 ≤ line ∧ line ≤ file.document.lineCount then rule line
                  else none := by
  intro v
  have h : v.Coherent := coherent_run kind policy history
  refine ⟨fun hnone => ?_, fun file hfile => ?_⟩
  · obtain ⟨hview, hdec⟩ := h.blank hnone
    refine ⟨?_, hview, hdec⟩
    rw [Viewer.selection, hnone]
    rfl
  · have hpolicy : v.policy = file.policy := by rw [Viewer.policy, hfile]
    obtain ⟨span, hview, hfirst, hlast, hdec⟩ := h.window file hfile
    dsimp only
    rw [hpolicy]
    refine ⟨?_, ⟨span, hview, hfirst, hlast, ?_, ?_⟩, ?_⟩
    · intro line hsel
      rw [Viewer.selection, hfile] at hsel
      exact (h.sound file hfile).selection line hsel
    · rw [hdec, (h.sound file hfile).index]
      exact OverlayPolicy.pairwise_decorateSpan ..
    · exact h.mem_decorations hfile hfirst hlast hdec
    · exact h.decorationAt hfile

/-- Lines scrolled into view after a selection: of two lines with findings the visible one is
    decorated, and the plain rule is answered for both. -/
theorem viewer_coherent_scrolled :
    let detail : FileDetail :=
      { content := "a\nb\nc\n"
        findings := [.coverage ⟨1, true, none⟩, .coverage ⟨3, false, none⟩] }
    let history : List ViewerEvent :=
      [.begin "a.c", .finish 0 (.ok detail), .activate 1, .showLines ⟨2, 9⟩]
    let v := (ViewerSession.run .statementCoverage .coverage history).viewer
    (v.selection = some 1 ∧ v.viewport = some ⟨2, 3⟩)
      ∧ ((3, .uncovered) ∈ v.decorations ∧ (1, .covered) ∉ v.decorations)
      ∧ v.decorationAt 1 = some .covered ∧ v.decorationAt 3 = some .uncovered
      ∧ v.decorationAt 4 = none := by
  intro detail history v
  have hselection : v.selection = some 1 := by decide
  have hviewport : v.viewport = some ⟨2, 3⟩ := by decide
  have hpolicy : v.policy = .coverage := by decide
  obtain ⟨file, hfile⟩ : ∃ file, v.loaded = some file :=
    Option.isSome_iff_exists.mp (by decide)
  have hcount : file.document.lineCount = 3 := by
    have hmap : v.loaded.map (fun file => file.document.lineCount) = some 3 := by decide
    rw [hfile] at hmap
    exact Option.some.inj hmap
  have hfindings : file.index.findings.toList = detail.findings := by
    have hmap : v.loaded.map (fun file => file.index.findings.toList) = some detail.findings := by
      decide
    rw [hfile] at hmap
    exact Option.some.inj hmap
  obtain ⟨-, ⟨span, hspan, -, -, -, hmem⟩, hat⟩ :=
    (viewer_coherent .statementCoverage .coverage history).2 file hfile
  obtain rfl := Option.some.inj (hviewport.symm.trans hspan)
  rw [hpolicy, hfindings] at hmem hat
  rw [hcount] at hat
  refine ⟨⟨hselection, hviewport⟩, ⟨(hmem 3 .uncovered).mpr ⟨by decide, rfl⟩, ?_⟩, hat 1, hat 3,
    hat 4⟩
  exact fun hfirst => absurd ((hmem 1 .covered).mp hfirst).1 (by decide)

end FindingsBrowser
