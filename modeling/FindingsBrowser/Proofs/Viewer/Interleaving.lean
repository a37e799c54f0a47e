import FindingsBrowser.Proofs.Viewer.Selection

/-! # Scrolling and selecting — neither sees the other

    The viewport moves while lines are activated and the selection is cleared.  The
    viewport is worked out from the document alone, and the selection does not look at
    the viewport.

    * `select_showLines` and `showLines_showLines` are the two steps: a selection event
      and a viewport event change places, and of two viewport events the later counts.
    * `play_eq` is the induction over all events: whatever their order, they come down to
      the selection events followed by the last viewport event. -/

namespace FindingsBrowser

/-- Something that happens to what is on display. -/
inductive ScreenEvent where
  | scroll (visible : LineSpan)
  | select (e : SelectionEvent)

/-- The lines that an event makes visible. -/
def ScreenEvent.visible? : ScreenEvent → Option LineSpan
  | scroll visible => some visible
  | select _ => none

/-- What an event does to the selection. -/
def ScreenEvent.selection? : ScreenEvent → Option SelectionEvent
  | scroll _ => none
  | select e => some e

/-- The viewport events among some events, in their order. -/
def scrolls (events : List ScreenEvent) : List LineSpan :=
  events.filterMap ScreenEvent.visible?

/-- The selection events among some events, in their order. -/
def selections (events : List ScreenEvent) : List SelectionEvent :=
  events.filterMap ScreenEvent.selection?

namespace Viewer

/-- What events one after another make of a viewer, and what the selection events among
    them report, in order. -/
def play (v : Viewer) : List ScreenEvent → Viewer × List SelectionChange
  | [] => (v, [])
  | .scroll visible :: rest => (v.showLines visible).play rest
  | .select e :: rest =>
      let (next, change) := v.select e
      let (last, changes) := next.play rest
      (last, change :: changes)

/-- The viewer after the last of some viewport events; as it is if there is none. -/
def showLast (v : Viewer) (visible : List LineSpan) : Viewer :=
  match visible.getLast? with
  | none => v
  | some span => v.showLines span

/-! ## Two events -/

@[simp] theorem loaded_showLines (v : Viewer) (visible : LineSpan) :
    (v.showLines visible).loaded = v.loaded := by
  cases h : v.loaded <;> simp [showLines, h]

/-- A selection is written behind the viewport as before it. -/
theorem withSelection_showLines (v : Viewer) (visible : LineSpan) (selection : Option Nat) :
    (v.showLines visible).withSelection selection
      = (v.withSelection selection).showLines visible := by
  cases h : v.loaded <;> simp [showLines, withSelection, h]

/-- **OF TWO VIEWPORTS** the later one counts. -/
theorem showLines_showLines (v : Viewer) (visible later : LineSpan) :
    (v.showLines visible).showLines later = v.showLines later := by
  cases h : v.loaded <;> simp [showLines, h]

/-- **A SELECTION EVENT AND A VIEWPORT EVENT** change places, and the report is the same. -/
theorem select_showLines (v : Viewer) (visible : LineSpan) (e : SelectionEvent) :
    (v.showLines visible).select e = ((v.select e).1.showLines visible, (v.select e).2) := by
  cases e with
  | activate line =>
      rw [select, select, activate, activate, loaded_showLines]
      cases v.loaded with
      | none => rfl
      | some file =>
          dsimp only
          split
          · rw [withSelection_showLines]
          · rfl
  | clear =>
      have hselection : (v.showLines visible).selection = v.selection := by
        rw [selection, loaded_showLines, selection]
      rw [select, select, clearSelection, clearSelection, hselection]
      split
      · rw [withSelection_showLines]
      · rfl

/-! ## All events -/

/-- A viewport event changes places with any number of selection events. -/
theorem selectAll_showLines (v : Viewer) (visible : LineSpan) (events : List SelectionEvent) :
    (v.showLines visible).selectAll events
      = ((v.selectAll events).1.showLines visible, (v.selectAll events).2) := by
  induction events generalizing v with
  | nil => rfl
  | cons e rest ih =>
      rw [selectAll_cons, selectAll_cons, select_showLines, ih]

theorem showLast_showLines (v : Viewer) (visible : LineSpan) (later : List LineSpan) :
    (v.showLines visible).showLast later = v.showLast (visible :: later) := by
  cases later using List.reverseRecOn with
  | nil => rfl
  | append_singleton later last =>
      rw [showLast, showLast, ← List.cons_append, List.getLast?_concat, List.getLast?_concat]
      exact v.showLines_showLines visible last

/-- **WHATEVER THE ORDER**, events come down to the selection events among them, with their
    reports, and then the last viewport event. -/
theorem play_eq (v : Viewer) (events : List ScreenEvent) :
    v.play events
      = ((v.selectAll (selections events)).1.showLast (scrolls events),
        (v.selectAll (selections events)).2) := by
  induction events generalizing v with
  | nil => rfl
  | cons event rest ih =>
      cases event with
      | scroll visible =>
          show (v.showLines visible).play rest
            = ((v.selectAll (selections rest)).1.showLast (visible :: scrolls rest),
              (v.selectAll (selections rest)).2)
          rw [ih, selectAll_showLines, showLast_showLines]
      | select e =>
          show (((v.select e).1.play rest).1, (v.select e).2 :: ((v.select e).1.play rest).2)
            = ((v.selectAll (e :: selections rest)).1.showLast (scrolls rest),
              (v.selectAll (e :: selections rest)).2)
          rw [ih, selectAll_cons]

/-! ## What each half of the viewer sees -/

@[simp] theorem withSelection_selection (v : Viewer) : v.withSelection v.selection = v := by
  obtain ⟨kind, policy, loaded, generation, viewport, decorations⟩ := v
  cases loaded <;> rfl

theorem withSelection_withSelection (v : Viewer) (selection later : Option Nat) :
    (v.withSelection selection).withSelection later = v.withSelection later := by
  cases h : v.loaded <;> simp [withSelection, h]

/-- **SELECTION EVENTS** write the selection and nothing else. -/
theorem selectAll_fst (v : Viewer) (events : List SelectionEvent) :
    ∃ selection, (v.selectAll events).1 = v.withSelection selection := by
  induction events generalizing v with
  | nil => exact ⟨v.selection, v.withSelection_selection.symm⟩
  | cons e rest ih =>
      obtain ⟨last, hlast⟩ := ih (v.select e).1
      rw [selectAll_cons]
      dsimp only
      rw [hlast]
      refine ⟨last, ?_⟩
      rcases v.select_cases e with h | ⟨_, selection, -, -, h⟩
      · rw [h]
      · rw [h, withSelection_withSelection]

/-- Viewport and decorations are worked out from the document, whatever is selected. -/
theorem window_showLast_withSelection (v : Viewer) (selection : Option Nat)
    (visible : List LineSpan) :
    ((v.withSelection selection).showLast visible).viewport = (v.showLast visible).viewport
      ∧ ((v.withSelection selection).showLast visible).decorations
        = (v.showLast visible).decorations := by
  rw [showLast, showLast]
  cases visible.getLast? with
  | none => exact ⟨rfl, rfl⟩
  | some span => cases h : v.loaded <;> simp [showLines, withSelection, h]

/-- **VIEWPORT EVENTS** leave the selection and the panel. -/
theorem panel_showLast (v : Viewer) (visible : List LineSpan) :
    (v.showLast visible).selection = v.selection ∧ (v.showLast visible).detail = v.detail := by
  rw [showLast]
  cases visible.getLast? with
  | none => exact ⟨rfl, rfl⟩
  | some span => cases h : v.loaded <;> simp [showLines, selection, detail, h]

end Viewer

/-- **SCROLLING AND SELECTING ARE INDEPENDENT.**  Let viewport events and selection events
    happen to a viewer in any order.  Viewport and decorations are those that the last
    viewport event alone leads to, or are as before if there is none; selection and panel
    are those that the selection events alone lead to, each of which reports what it
    reports among them.  So any other events with the same selection events and the same
    last viewport event, such as another interleaving, lead to the same viewer with the
    same reports. -/
theorem scrolling_and_selecting_independent (v : Viewer) (events : List ScreenEvent) :
    let after := (v.play events).1
    let selected := v.selectAll (selections events)
    let scrolled := v.showLast (scrolls events)
    (after.viewport = scrolled.viewport ∧ after.decorations = scrolled.decorations)
      ∧ (after.selection = selected.1.selection ∧ after.detail = selected.1.detail)
      ∧ (v.play events).2 = selected.2
      ∧ ∀ others, (scrolls others).getLast? = (scrolls events).getLast? →
          selections others = selections events → v.play others = v.play events := by
  intro after selected scrolled
  have hafter : after = selected.1.showLast (scrolls events) := by
    show (v.play events).1 = _
    rw [v.play_eq]
  refine ⟨?_, ?_, ?_, ?_⟩
  · obtain ⟨selection, hselected⟩ := v.selectAll_fst (selections events)
    rw [hafter, hselected]
    exact v.window_showLast_withSelection selection (scrolls events)
  · rw [hafter]
    exact selected.1.panel_showLast (scrolls events)
  · rw [v.play_eq]
  · intro others hscrolls hselections
    rw [v.play_eq, v.play_eq, hselections, Viewer.showLast, Viewer.showLast, hscrolls]

/-- The first line is selected between two viewports, the later of which leaves it out. -/
theorem scrolling_and_selecting_independent_between :
    let first : Finding := .coverage ⟨1, true, none⟩
    let detail : FileDetail :=
      { content := "a\nb\nc\n", findings := [first, .coverage ⟨3, false, none⟩] }
    let v := (Viewer.withPolicy .statementCoverage .coverage).install "a.c" detail
    let events : List ScreenEvent := [.scroll ⟨1, 2⟩, .select (.activate 1), .scroll ⟨2, 9⟩]
    let after := (v.play events).1
    (after.viewport = some ⟨2, 3⟩
        ∧ (3, .uncovered) ∈ after.decorations ∧ (1, .covered) ∉ after.decorations)
      ∧ (after.selection = some 1 ∧ after.detail.findings = [first])
      ∧ (v.play events).2 = [.selected 1]
      ∧ v.play [.scroll ⟨2, 9⟩, .select (.activate 1)] = v.play events := by
  intro first detail v events after
  let document : Document := ⟨"a.c", detail.content⟩
  let index : LineIndex := .buildWithin detail.findings document.lineCount
  have hfile : v.loaded = some ⟨document, index, .coverage, none⟩ := rfl
  have hcount : document.lineCount = 3 := by decide
  have hline : ∀ line ∈ [1, 3], 1 ≤ line ∧ line ≤ document.lineCount := by
    rw [hcount]
    decide
  have hlast : v.showLast (scrolls events) = v.showLines ⟨2, 9⟩ := rfl
  have hselect : v.selectAll (selections events) = ((v.activate 1).1, [(v.activate 1).2]) :=
    v.selectAll_cons (.activate 1) []
  obtain ⟨⟨hviewport, hdecorations⟩, ⟨hselection, hdetail⟩, hreports, hothers⟩ :=
    scrolling_and_selecting_independent v events
  have hmem : ∀ line d, (line, d) ∈ after.decorations
      ↔ (LineSpan.clampTo ⟨2, 9⟩ 3).contains line = true
        ∧ OverlayPolicy.coverage.decorate (index.query line) = some d := by
    intro line d
    rw [hdecorations, hlast, Viewer.showLines, hfile]
    dsimp only
    rw [← hcount]
    exact OverlayPolicy.mem_decorateSpan ..
  have hquery : index.query 3 = [.coverage ⟨3, false, none⟩] :=
    LineIndex.query_buildWithin_of_mem detail.findings (hline 3 (by decide))
  have hpanel : after.detail.findings.Perm [first] := by
    rw [hdetail, hselect, Viewer.detail_activate hfile (hline 1 (by decide))]
    exact DetailView.findings_ofSelection (List.cons_ne_nil _ _) (hline 1 (by decide)) _
  refine ⟨⟨hviewport.trans (by decide), (hmem 3 .uncovered).mpr ⟨by decide, ?_⟩, fun h => ?_⟩,
    ⟨hselection.trans (by decide), List.perm_singleton.mp hpanel⟩, hreports.trans (by decide),
    hothers _ rfl rfl⟩
  · rw [hquery]
    rfl
  · exact absurd ((hmem 1 .covered).mp h).1 (by decide)

end FindingsBrowser
