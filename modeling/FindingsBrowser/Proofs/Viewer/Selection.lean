import FindingsBrowser.Proofs.Viewer.Panel

/-! # Selection events — what is reported is what has changed

    Lines are activated and the selection is cleared, any number of times and in any
    order, with a document on display or without one.  Each event reports what it did,
    so that the panel is drawn anew only when it has to be.

    * `select_cases` says once what an event can do: nothing, or make another selection in
      the document.
    * `Reports` is what a report says about the viewer before and after its event;
      `reports_select` has it of every event.
    * `foldl_follow` and `panelAfter_eq` are the runs: the reports lead to the selection,
      and a panel drawn on reported changes only shows what it should. -/

namespace FindingsBrowser

/-- An event about the selection. -/
inductive SelectionEvent where
  | activate (line : Nat)
  | clear

namespace SelectionChange

/-- The report of a change to a selection. -/
def toSelection : Option Nat → SelectionChange
  | none => cleared
  | some line => selected line

/-- The selection that a reported change leads to. -/
def follow (selection : Option Nat) : SelectionChange → Option Nat
  | unchanged => selection
  | selected line => some line
  | cleared => none

theorem follow_toSelection (before after : Option Nat) :
    (toSelection after).follow before = after := by
  cases after <;> rfl

end SelectionChange

/-- The panel of a document with findings tells its selections apart. -/
theorem DetailView.ofSelection_inj {ix : LineIndex} (hne : ix.findings.toList ≠ [])
    {context : AnalysisKind} {a b : Option Nat}
    (h : ofSelection a ix context = ofSelection b ix context) : a = b := by
  have hfull : ¬ ix.isEmpty = true := fun hempty => hne (ix.isEmpty_iff.mp hempty)
  rw [ofSelection.eq_def, ofSelection.eq_def, if_neg hfull, if_neg hfull] at h
  cases a with
  | none => cases b with
    | none => rfl
    | some n => exact nomatch h
  | some m => cases b with
    | none => exact nomatch h
    | some n => rw [(DetailView.line.inj h).1]

namespace Viewer

/-- What an event about the selection makes of a viewer, and what it reports. -/
def select (v : Viewer) : SelectionEvent → Viewer × SelectionChange
  | .activate line => v.activate line
  | .clear => v.clearSelection

/-- What events one after another make of a viewer, and their reports in order. -/
def selectAll (v : Viewer) : List SelectionEvent → Viewer × List SelectionChange
  | [] => (v, [])
  | e :: rest =>
      let (next, change) := v.select e
      let (last, changes) := next.selectAll rest
      (last, change :: changes)

theorem selectAll_cons (v : Viewer) (e : SelectionEvent) (rest : List SelectionEvent) :
    v.selectAll (e :: rest)
      = (((v.select e).1.selectAll rest).1, (v.select e).2 :: ((v.select e).1.selectAll rest).2) :=
  rfl

theorem selectAll_append (v : Viewer) (past future : List SelectionEvent) :
    v.selectAll (past ++ future)
      = (((v.selectAll past).1.selectAll future).1,
        (v.selectAll past).2 ++ ((v.selectAll past).1.selectAll future).2) := by
  induction past generalizing v with
  | nil => rfl
  | cons e rest ih =>
      rw [List.cons_append, selectAll_cons, selectAll_cons, ih]
      rfl

theorem length_selectAll (v : Viewer) (events : List SelectionEvent) :
    (v.selectAll events).2.length = events.length := by
  induction events generalizing v with
  | nil => rfl
  | cons e rest ih =>
      rw [selectAll_cons, List.length_cons, List.length_cons, ih]

/-! ## One event -/

theorem selection_of_loaded {v : Viewer} {file : LoadedFile} (hfile : v.loaded = some file) :
    v.selection = file.selection := by
  rw [selection, hfile]
  rfl

theorem loaded_withSelection {v : Viewer} {file : LoadedFile} (hfile : v.loaded = some file)
    (selection : Option Nat) :
    (v.withSelection selection).loaded = some { file with selection } := by
  rw [withSelection, hfile]
  rfl

/-- **ONE EVENT** leaves the viewer as it is and says so, or makes another selection in its
    document and reports that one. -/
theorem select_cases (v : Viewer) (e : SelectionEvent) :
    v.select e = (v, .unchanged)
      ∨ ∃ file selection, v.loaded = some file ∧ v.selection ≠ selection
          ∧ v.select e = (v.withSelection selection, .toSelection selection) := by
  cases e with
  | activate line =>
      rw [select, activate]
      cases hfile : v.loaded with
      | none => exact Or.inl rfl
      | some file =>
          dsimp only
          split
          · case _ h =>
              refine Or.inr ⟨file, some line, rfl, ?_, rfl⟩
              rw [selection_of_loaded hfile]
              exact bne_iff_ne.mp (Bool.and_eq_true_iff.mp h).2
          · exact Or.inl rfl
  | clear =>
      rw [select, clearSelection]
      split
      · case _ h =>
          have hne : v.selection ≠ none := Option.isSome_iff_ne_none.mp h
          obtain ⟨line, hline⟩ := Option.ne_none_iff_exists'.mp hne
          obtain ⟨file, hfile, -⟩ := Option.bind_eq_some_iff.mp hline
          exact Or.inr ⟨file, none, hfile, hne, rfl⟩
      · exact Or.inl rfl

/-- In a document with findings another selection has another panel. -/
theorem detail_withSelection_ne {v : Viewer} {file : LoadedFile} (hfile : v.loaded = some file)
    (hne : file.index.findings.toList ≠ []) {selection : Option Nat}
    (hsel : v.selection ≠ selection) : (v.withSelection selection).detail ≠ v.detail := by
  rw [detail_of_loaded hfile, detail_of_loaded (loaded_withSelection hfile selection)]
  intro hpanel
  rw [selection_of_loaded hfile] at hsel
  exact hsel (DetailView.ofSelection_inj hne hpanel).symm

/-- In a document without findings no selection has a panel. -/
theorem detail_of_no_findings {v : Viewer} {file : LoadedFile} (hfile : v.loaded = some file)
    (hempty : file.index.findings.toList = []) : v.detail = .notAvailable := by
  rw [detail_of_loaded hfile]
  exact (DetailView.ofSelection_eq_notAvailable_iff ..).mpr hempty

/-- What a report says about the viewer before and after its event. -/
structure Reports (before after : Viewer) (change : SelectionChange) : Prop where
  /-- A change is reported exactly if the selection is another one. -/
  isChanged : change.isChanged = true ↔ before.selection ≠ after.selection
  selected : ∀ line, change = .selected line
    ↔ after.selection = some line ∧ before.selection ≠ some line
  cleared : change = .cleared ↔ before.selection ≠ none ∧ after.selection = none
  unchanged : change = .unchanged → after.detail = before.detail
  /-- In a document with findings, exactly then is the panel another one. -/
  redrawn : ∀ file, before.loaded = some file → file.index.findings.toList ≠ [] →
    (change.isChanged = true ↔ after.detail ≠ before.detail)
  /-- In a document without findings the panel has nothing to show, whatever is reported. -/
  notAvailable : ∀ file, before.loaded = some file → file.index.findings.toList = [] →
    before.detail = .notAvailable ∧ after.detail = .notAvailable

/-- **EVERY EVENT** reports what it did. -/
theorem reports_select (v : Viewer) (e : SelectionEvent) :
    Reports v (v.select e).1 (v.select e).2 := by
  rcases v.select_cases e with h | ⟨file, selection, hfile, hsel, h⟩
  · rw [h]
    exact
      { isChanged := by simp [SelectionChange.isChanged]
        selected := by simp
        cleared := by simp
        unchanged := fun _ => rfl
        redrawn := by simp [SelectionChange.isChanged]
        notAvailable := fun _ hfile hempty =>
          ⟨detail_of_no_findings hfile hempty, detail_of_no_findings hfile hempty⟩ }
  · have hafter : (v.withSelection selection).selection = selection :=
      selection_of_loaded (loaded_withSelection hfile selection)
    have hchanged : (SelectionChange.toSelection selection).isChanged = true := by
      cases selection <;> rfl
    rw [h]
    refine
      { isChanged := ?_
        selected := ?_
        cleared := ?_
        unchanged := ?_
        redrawn := ?_
        notAvailable := ?_ }
    · rw [hafter]
      exact iff_of_true hchanged hsel
    · intro line
      rw [hafter]
      cases selection with
      | none => simp [SelectionChange.toSelection]
      | some other =>
          rw [SelectionChange.toSelection, SelectionChange.selected.injEq, Option.some.injEq]
          exact ⟨fun heq => ⟨heq, heq ▸ hsel⟩, fun hand => hand.1⟩
    · rw [hafter]
      cases selection with
      | none => exact iff_of_true rfl ⟨hsel, rfl⟩
      | some other => simp [SelectionChange.toSelection]
    · intro (hunchanged : SelectionChange.toSelection selection = .unchanged)
      rw [hunchanged] at hchanged
      exact nomatch hchanged
    · intro shown hshown hne
      exact iff_of_true hchanged (detail_withSelection_ne hshown hne hsel)
    · intro shown hshown hempty
      exact ⟨detail_of_no_findings hshown hempty,
        detail_of_no_findings (loaded_withSelection hshown selection) hempty⟩

/-- The reported change leads from the selection before to the one after. -/
theorem follow_select (v : Viewer) (e : SelectionEvent) :
    (v.select e).2.follow v.selection = (v.select e).1.selection := by
  rcases v.select_cases e with h | ⟨file, selection, hfile, -, h⟩
  · rw [h]
    rfl
  · rw [h, SelectionChange.follow_toSelection]
    exact (selection_of_loaded (loaded_withSelection hfile selection)).symm

/-! ## Runs of events -/

/-- **THE REPORTS OF A RUN** lead from its first selection to its last one. -/
theorem foldl_follow (v : Viewer) (events : List SelectionEvent) :
    (v.selectAll events).2.foldl SelectionChange.follow v.selection
      = (v.selectAll events).1.selection := by
  induction events generalizing v with
  | nil => rfl
  | cons e rest ih =>
      rw [selectAll_cons, List.foldl_cons, follow_select]
      exact ih (v.select e).1

/-- A panel after some events that is drawn anew only when a change is reported. -/
def panelAfter (v : Viewer) (panel : DetailView) : List SelectionEvent → DetailView
  | [] => panel
  | e :: rest =>
      let (next, change) := v.select e
      next.panelAfter (if change.isChanged then next.detail else panel) rest

/-- **A PANEL DRAWN ON CHANGES** shows what the viewer has to show. -/
theorem panelAfter_eq (v : Viewer) (events : List SelectionEvent) :
    v.panelAfter v.detail events = (v.selectAll events).1.detail := by
  induction events generalizing v with
  | nil => rfl
  | cons e rest ih =>
      have hpanel : (if (v.select e).2.isChanged = true then (v.select e).1.detail else v.detail)
          = (v.select e).1.detail := by
        cases hchange : (v.select e).2 with
        | unchanged => exact ((v.reports_select e).unchanged hchange).symm
        | selected line => rfl
        | cleared => rfl
      rw [panelAfter, selectAll_cons]
      dsimp only
      rw [hpanel]
      exact ih (v.select e).1

end Viewer

/-- **SELECTION EVENTS REPORT EXACTLY THE CHANGES.**  Whatever a viewer has on display, or
    if it is empty, each of any number of events reports, in its turn, what it did: a
    change exactly if the selection is another one afterwards, a line exactly if it is
    selected now and was not before, a clearing exactly if there was a selection and is
    none now, and otherwise the panel has stayed.  The reports lead from the selection
    before all of the events to the one behind them, and a panel that is drawn anew on
    reported changes only is never out of date; nor is it drawn without need, but for
    another selection each time, which in a document with findings has another panel.  In
    one without findings the panel has nothing to show before and after every event, so a
    reported change draws the same panel again. -/
theorem reports_are_changes (v : Viewer) (events : List SelectionEvent) :
    (v.selectAll events).2.length = events.length
      ∧ (∀ past e future, events = past ++ e :: future →
          let before := (v.selectAll past).1
          (v.selectAll events).2[past.length]? = some (before.select e).2
            ∧ Viewer.Reports before (before.select e).1 (before.select e).2)
      ∧ (v.selectAll events).2.foldl SelectionChange.follow v.selection
          = (v.selectAll events).1.selection
      ∧ v.panelAfter v.detail events = (v.selectAll events).1.detail := by
  refine ⟨v.length_selectAll events, ?_, v.foldl_follow events, v.panelAfter_eq events⟩
  intro past e future hevents before
  refine ⟨?_, before.reports_select e⟩
  rw [hevents, Viewer.selectAll_append]
  dsimp only
  rw [List.getElem?_append_right (v.length_selectAll past).le, v.length_selectAll, Nat.sub_self]
  rfl

-- a line activated twice, a line outside the document, and a second clearing
example :
    let file : FileDetail := { content := "a\nb\n" }
    let v := ((Viewer.withPolicy .statementCoverage .coverage).install "a.c" file)
    (v.selectAll [.activate 2, .activate 2, .activate 3, .activate 1, .clear, .clear]).2
      = [.selected 2, .unchanged, .unchanged, .selected 1, .cleared, .unchanged] := by
  decide

end FindingsBrowser
