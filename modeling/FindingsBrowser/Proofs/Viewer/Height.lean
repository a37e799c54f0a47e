import FindingsBrowser.Proofs.Document
import FindingsBrowser.Proofs.Viewer.Coherence

/-! # Visible lines after a load — the height of one file is left to the next

    As long as nobody tells a viewer which lines are visible, it decides by itself: a load
    shows the first lines of a file, and as many of them as were visible before.  What was
    visible before is a part of the file before, so a short file leaves its height to all
    that follow; only a file without lines makes the viewer forget it.

    * `leftHeight` replays the heights of files that are opened one after another, and
      `le_leftHeight_iff` says how far such a replay goes.
    * `leaves_run` is the invariant of all runs in which no lines are reported.
    * `visible_after_loads`: what is visible and decorated there, and when it is what a
      viewer shows that has opened nothing before. -/

namespace FindingsBrowser

/-! ## Heights -/

/-- The number of lines of a file. -/
def FileDetail.lineCount (d : FileDetail) : Nat :=
  (Document.rawLines d.content.toList).length

/-- The height that a file of `count` lines leaves to the next one, if it is shown at a
    height itself. -/
def leaveHeight (height count : Nat) : Nat :=
  if count = 0 then initialViewportLines else min height count

/-- The height that files of so many lines, opened one after another, leave. -/
def leftHeight (counts : List Nat) : Nat :=
  counts.foldl leaveHeight initialViewportLines

theorem leftHeight_concat (counts : List Nat) (count : Nat) :
    leftHeight (counts ++ [count]) = leaveHeight (leftHeight counts) count := by
  rw [leftHeight, List.foldl_append]
  rfl

/-- The line counts behind the last one that is 0, backwards. -/
def sinceEmpty (counts : List Nat) : List Nat :=
  counts.reverse.takeWhile (· ≠ 0)

theorem sinceEmpty_concat (counts : List Nat) (count : Nat) :
    sinceEmpty (counts ++ [count]) = if count = 0 then [] else count :: sinceEmpty counts := by
  rw [sinceEmpty, List.reverse_concat, List.takeWhile_cons]
  by_cases hcount : count = 0 <;> simp [hcount, sinceEmpty]

/-- **HOW MUCH IS LEFT**: as much as a fresh viewer has and as every file has since the
    last one without lines. -/
theorem le_leftHeight_iff (counts : List Nat) (k : Nat) :
    k ≤ leftHeight counts
      ↔ k ≤ initialViewportLines ∧ ∀ count ∈ sinceEmpty counts, k ≤ count := by
  induction counts using List.reverseRecOn with
  | nil => simp [leftHeight, sinceEmpty]
  | append_singleton counts count ih =>
      rw [leftHeight_concat, leaveHeight, sinceEmpty_concat]
      by_cases hcount : count = 0
      · simp [hcount]
      · rw [if_neg hcount, if_neg hcount, Nat.le_min, ih, List.forall_mem_cons]
        tauto

theorem leftHeight_le (counts : List Nat) : leftHeight counts ≤ initialViewportLines :=
  ((le_leftHeight_iff counts _).mp (Nat.le_refl _)).1

/-- A file of `count` lines is shown as in a fresh viewer exactly if every file since the
    last one without lines has as many lines as are shown there. -/
theorem min_leftHeight_eq_iff (counts : List Nat) (count : Nat) :
    min (leftHeight counts) count = min initialViewportLines count
      ↔ ∀ earlier ∈ sinceEmpty counts, min initialViewportLines count ≤ earlier := by
  have hle := leftHeight_le counts
  have hiff := le_leftHeight_iff counts (min initialViewportLines count)
  rw [and_iff_right (Nat.min_le_left ..)] at hiff
  rw [← hiff]
  omega

/-! ## What a load makes of the height -/

namespace Viewer

theorem height_congr {v w : Viewer} (h : v.viewport = w.viewport) : v.height = w.height := by
  rw [height, height, h]

/-- Some lines always count as visible, and no more than can be counted. -/
theorem height_bounds (v : Viewer) : 0 < v.height ∧ v.height < Text.wordLimit := by
  have hinitial : 0 < initialViewportLines ∧ initialViewportLines < Text.wordLimit := by decide
  rw [height]
  cases v.viewport with
  | none => exact hinitial
  | some span =>
      dsimp only
      cases hempty : span.isEmpty with
      | true => exact hinitial
      | false =>
          rw [if_neg Bool.false_ne_true, LineSpan.size, hempty, if_neg Bool.false_ne_true]
          omega

/-- A load shows the first lines of a file, as many as were visible before. -/
theorem viewport_install (v : Viewer) (path : String) (detail : FileDetail) :
    (v.install path detail).viewport = some ⟨1, min v.height detail.lineCount⟩ := by
  rw [FileDetail.lineCount, ← Document.lineCount_eq_length_rawLines ⟨path, detail.content⟩]
  rfl

/-- **WHAT A LOAD LEAVES** depends on the height that it found and on the lines of its
    file. -/
theorem height_install (v : Viewer) (path : String) (detail : FileDetail) :
    (v.install path detail).height = leaveHeight v.height detail.lineCount := by
  obtain ⟨hpositive, hlimit⟩ := v.height_bounds
  rw [height, viewport_install, leaveHeight]
  dsimp only
  by_cases hcount : detail.lineCount = 0
  · have hempty : (⟨1, min v.height detail.lineCount⟩ : LineSpan).isEmpty = true :=
      decide_eq_true (by dsimp only; omega)
    rw [if_pos hempty, if_pos hcount]
  · have hempty : (⟨1, min v.height detail.lineCount⟩ : LineSpan).isEmpty = false :=
      decide_eq_false (by dsimp only; omega)
    rw [LineSpan.size, hempty, if_neg Bool.false_ne_true, if_neg Bool.false_ne_true,
      if_neg hcount]
    dsimp only
    omega

end Viewer

/-! ## Landings -/

/-- The file that an event puts on display after `past`. -/
def landing? (past : List ViewerEvent) : ViewerEvent → Option FileDetail
  | .finish k (.ok detail) => if (requests past).length = k + 1 then some detail else none
  | _ => none

theorem landing?_eq_some_iff {past : List ViewerEvent} {e : ViewerEvent} {d : FileDetail} :
    landing? past e = some d ↔ ∃ path, Lands past e path d := by
  constructor
  · intro h
    cases e with
    | finish k result =>
        cases result with
        | error err => exact nomatch h
        | ok detail =>
            rw [landing?, Option.ite_none_right_eq_some] at h
            obtain ⟨hlen, hd⟩ := h
            obtain rfl := Option.some.inj hd
            have hk : k < (requests past).length := by omega
            exact ⟨(requests past)[k], k, rfl, hlen, List.getElem?_eq_getElem hk⟩
    | begin path => exact nomatch h
    | showLines visible => exact nomatch h
    | activate line => exact nomatch h
    | clear => exact nomatch h
  · rintro ⟨path, k, rfl, hlen, -⟩
    exact if_pos hlen

/-- The files that the events after `past` put on display, in order. -/
def landingsAfter (past : List ViewerEvent) : List ViewerEvent → List FileDetail
  | [] => []
  | e :: rest => (landing? past e).toList ++ landingsAfter (past ++ [e]) rest

/-- The files that a history puts on display, in order. -/
def landings (history : List ViewerEvent) : List FileDetail :=
  landingsAfter [] history

theorem landingsAfter_concat (past history : List ViewerEvent) (e : ViewerEvent) :
    landingsAfter past (history ++ [e])
      = landingsAfter past history ++ (landing? (past ++ history) e).toList := by
  induction history generalizing past with
  | nil => simp [landingsAfter]
  | cons first rest ih =>
      rw [List.cons_append, landingsAfter, landingsAfter, ih, List.append_assoc, List.append_assoc]
      rfl

theorem landings_concat (history : List ViewerEvent) (e : ViewerEvent) :
    landings (history ++ [e]) = landings history ++ (landing? history e).toList :=
  landingsAfter_concat [] history e

/-! ## Runs in which no lines are reported -/

/-- Nobody tells the viewer which lines are visible. -/
def Quiet (history : List ViewerEvent) : Prop :=
  ∀ visible, ViewerEvent.showLines visible ∉ history

/-- What the files of a run leave behind: the height for the next one, and the latest of
    them on display, at the height that the earlier ones have left. -/
structure Leaves (policy : OverlayPolicy) (files : List FileDetail) (v : Viewer) : Prop where
  height : v.height = leftHeight (files.map FileDetail.lineCount)
  shown : ∀ earlier d, files = earlier ++ [d] →
    v.viewport = some ⟨1, min (leftHeight (earlier.map FileDetail.lineCount)) d.lineCount⟩
      ∧ ∃ path, v.content = some (Viewer.display policy path d)

/-- A load leaves its file behind. -/
theorem Leaves.install {policy : OverlayPolicy} {files : List FileDetail} {v : Viewer}
    (h : Leaves policy files v) (hbase : v.basePolicy = policy) (path : String)
    (detail : FileDetail) : Leaves policy (files ++ [detail]) (v.install path detail) := by
  refine ⟨?_, ?_⟩
  · rw [Viewer.height_install, List.map_append, List.map_singleton, leftHeight_concat, h.height]
  · intro earlier d heq
    obtain ⟨rfl, hd⟩ := List.append_inj' heq rfl
    obtain rfl := (List.cons.inj hd).1
    rw [Viewer.viewport_install, h.height, Viewer.content_install, hbase]
    exact ⟨rfl, path, rfl⟩

/-- What is left behind can be told from the viewport and from what is on display. -/
theorem Leaves.congr {policy : OverlayPolicy} {files : List FileDetail} {v w : Viewer}
    (h : Leaves policy files v) (hviewport : w.viewport = v.viewport)
    (hcontent : w.content = v.content) : Leaves policy files w := by
  refine ⟨?_, ?_⟩
  · rw [Viewer.height_congr hviewport, h.height]
  · rw [hviewport, hcontent]
    exact h.shown

/-- **One event** that reports no lines keeps the invariant. -/
theorem Leaves.step {policy : OverlayPolicy} {history : List ViewerEvent} {s : ViewerSession}
    (h : Leaves policy (landings history) s.viewer) (htracks : Tracks policy history s)
    {e : ViewerEvent} (hquiet : ∀ visible, e ≠ .showLines visible) :
    Leaves policy (landings (history ++ [e])) (s.step e).viewer := by
  rw [landings_concat]
  cases hlanding : landing? history e with
  | some d =>
      obtain ⟨path, hl⟩ := landing?_eq_some_iff.mp hlanding
      rw [htracks.step_of_lands hl]
      exact h.install htracks.basePolicy path d
  | none =>
      rw [Option.toList_none, List.append_nil]
      have hno : ∀ p d, ¬Lands history e p d := by
        intro p d hl
        exact nomatch hlanding.symm.trans (landing?_eq_some_iff.mpr ⟨p, hl⟩)
      refine h.congr ?_ (htracks.content_step_of_not_lands hno)
      rcases htracks.step_of_not_lands hno with
        heq | ⟨path, heq⟩ | ⟨visible, he, -⟩ | ⟨selection, heq⟩
      · rw [heq]
      · rw [heq]
        rfl
      · exact absurd he (hquiet visible)
      · rw [heq]
        rfl

/-- **EVERY RUN** in which no lines are reported leaves behind what its files leave. -/
theorem leaves_run (kind : AnalysisKind) (policy : OverlayPolicy) {history : List ViewerEvent}
    (hquiet : Quiet history) :
    Leaves policy (landings history) (ViewerSession.run kind policy history).viewer := by
  induction history using List.reverseRecOn with
  | nil =>
      refine ⟨rfl, fun earlier d heq => ?_⟩
      exact absurd heq.symm (List.append_ne_nil_of_right_ne_nil _ (List.cons_ne_nil _ _))
  | append_singleton history e ih =>
      rw [ViewerSession.run_concat]
      have hpast : Quiet history := fun visible hmem => hquiet visible (List.mem_append_left _ hmem)
      refine (ih hpast).step (tracks_run kind policy history) fun visible he => ?_
      exact hquiet visible (List.mem_append_right _ (List.mem_singleton.mpr he.symm))

/-- The decorations on display are those that the plain rule has for the visible lines of
    the file. -/
theorem Viewer.Coherent.mem_decorations_of_content {policy : OverlayPolicy} {v : Viewer}
    (h : v.Coherent) {path : String} {d : FileDetail}
    (hcontent : v.content = some (display policy path d)) {last : Nat}
    (hviewport : v.viewport = some ⟨1, last⟩) (line : Nat) (decoration : Decoration) :
    (line, decoration) ∈ v.decorations
      ↔ (1 ≤ line ∧ line ≤ last)
        ∧ (policy.withTolerance d.tolerance).plainRule d.findings line = some decoration := by
  obtain ⟨file, hfile, hdisplay⟩ := Option.map_eq_some_iff.mp hcontent
  obtain ⟨-, hrest⟩ := Prod.mk.inj hdisplay
  obtain ⟨hindex, hpolicy⟩ := Prod.mk.inj hrest
  obtain ⟨span, hspan, hfirst, hlast, hdecorations⟩ := h.window file hfile
  obtain rfl := Option.some.inj (hviewport.symm.trans hspan)
  rw [h.mem_decorations hfile hfirst hlast hdecorations, hpolicy, hindex, LineSpan.contains,
    Bool.and_eq_true, decide_eq_true_iff, decide_eq_true_iff]
  exact Iff.rfl

/-- **WHAT IS VISIBLE AFTER A LOAD**, in every run in which no lines are reported: of the
    latest file its first lines, as many as the files before have left, and decorated
    are exactly those of them that the plain rule decorates.  The viewport is that of a
    viewer that has opened nothing before exactly if each file since the last one without
    lines has as many lines as are visible there. -/
theorem visible_after_loads (kind : AnalysisKind) (policy : OverlayPolicy)
    {history : List ViewerEvent} (hquiet : Quiet history) {earlier : List FileDetail}
    {d : FileDetail} (hlandings : landings history = earlier ++ [d]) :
    let v := (ViewerSession.run kind policy history).viewer
    let counts := earlier.map FileDetail.lineCount
    let last := min (leftHeight counts) d.lineCount
    let fresh := min initialViewportLines d.lineCount
    v.viewport = some ⟨1, last⟩
      ∧ (∀ line decoration, (line, decoration) ∈ v.decorations
          ↔ (1 ≤ line ∧ line ≤ last)
            ∧ (policy.withTolerance d.tolerance).plainRule d.findings line = some decoration)
      ∧ (v.viewport = some ⟨1, fresh⟩ ↔ ∀ count ∈ sinceEmpty counts, fresh ≤ count) := by
  intro v counts last fresh
  obtain ⟨hviewport, path, hcontent⟩ := (leaves_run kind policy hquiet).shown earlier d hlandings
  have hcoherent : v.Coherent := coherent_run kind policy history
  refine ⟨hviewport, hcoherent.mem_decorations_of_content hcontent hviewport, ?_⟩
  rw [hviewport, Option.some_inj, LineSpan.mk.injEq, and_iff_right rfl]
  exact min_leftHeight_eq_iff counts d.lineCount

/-- A file without lines makes the viewer forget the height of the short file before it. -/
theorem visible_after_loads_empty_between :
    let long : FileDetail := { content := "a\nb\n", findings := [.coverage ⟨2, false, none⟩] }
    let history : List ViewerEvent :=
      [.begin "a.c", .finish 0 (.ok { content := "a\n" }), .begin "empty.c",
        .finish 1 (.ok { content := "" }), .begin "b.c", .finish 2 (.ok long), .activate 2]
    let v := (ViewerSession.run .statementCoverage .coverage history).viewer
    v.viewport = some ⟨1, 2⟩ ∧ (2, .uncovered) ∈ v.decorations := by
  intro long history v
  have hquiet : Quiet history := by
    intro visible hmem
    simp [history] at hmem
  obtain ⟨hviewport, hdecorations, -⟩ := visible_after_loads .statementCoverage .coverage hquiet
    (by rfl : landings history = [{ content := "a\n" }, { content := "" }] ++ [long])
  exact ⟨hviewport.trans (by decide), (hdecorations 2 .uncovered).mpr ⟨by decide, by rfl⟩⟩

/-- A file of one line and then one of two: of the second only one line is visible, and its
    other line is not decorated. -/
theorem short_file_narrows_next_load :
    let long : FileDetail := { content := "a\nb\n", findings := [.coverage ⟨2, false, none⟩] }
    let history : List ViewerEvent :=
      [.begin "a.c", .finish 0 (.ok { content := "a\n" }), .begin "b.c", .finish 1 (.ok long)]
    let v := (ViewerSession.run .statementCoverage .coverage history).viewer
    Quiet history ∧ landings history = [{ content := "a\n" }, long]
      ∧ v.viewport = some ⟨1, 1⟩ ∧ v.decorations = []
      ∧ min initialViewportLines long.lineCount = 2
      ∧ OverlayPolicy.coverage.plainRule long.findings 2 = some .uncovered := by
  intro long history v
  have hquiet : Quiet history := by
    intro visible hmem
    simp [history] at hmem
  have hviewport : v.viewport = some ⟨1, 1⟩ := by decide
  refine ⟨hquiet, by rfl, hviewport, List.eq_nil_iff_forall_not_mem.mpr ?_, by decide, by rfl⟩
  rintro ⟨line, decoration⟩ hmem
  obtain ⟨-, path, hcontent⟩ := (leaves_run .statementCoverage .coverage hquiet).shown
    [{ content := "a\n" }] long (by rfl)
  have hcoherent : v.Coherent := coherent_run .statementCoverage .coverage history
  obtain ⟨hline, hrule⟩ :=
    (hcoherent.mem_decorations_of_content hcontent hviewport line decoration).mp hmem
  obtain rfl : line = 1 := Nat.le_antisymm hline.2 hline.1
  exact nomatch hrule

end FindingsBrowser
