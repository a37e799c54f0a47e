import FindingsBrowser.Viewer.Basic
import Mathlib.Data.List.Induction

/-! # Viewer sessions — every order of requests, answers and clicks

    A session is a viewer with the tickets it has issued; a history is any list
    of events, with answers handed in for any issued ticket, in any order and
    any number of times.

    * `Lands` says of one event that it is a file for the newest request of its
      moment; `Answers` finds such events in a history.
    * `Tracks` is the invariant that ties the generation counter and the tickets
      in flight to the requests of the history, and what is on display to its
      latest landing; `Tracks.step` keeps it, `tracks_run` has it everywhere.
    * The last section reads off which request a viewer shows. -/

namespace FindingsBrowser

/-! ## What is on display -/

namespace Viewer

/-- What a viewer has on display: the document, its index and the policy. -/
def content (v : Viewer) : Option (Document × LineIndex × OverlayPolicy) :=
  v.loaded.map fun file => (file.document, file.index, file.policy)

/-- The display of a file fetched from a path, under a base policy. -/
def display (policy : OverlayPolicy) (path : String) (detail : FileDetail) :
    Document × LineIndex × OverlayPolicy :=
  let document : Document := ⟨path, detail.content⟩
  (document, .buildWithin detail.findings document.lineCount,
    policy.withTolerance detail.tolerance)

@[simp] theorem content_showLines (v : Viewer) (visible : LineSpan) :
    (v.showLines visible).content = v.content := by
  cases h : v.loaded <;> simp [showLines, content, h]

@[simp] theorem basePolicy_showLines (v : Viewer) (visible : LineSpan) :
    (v.showLines visible).basePolicy = v.basePolicy := by
  cases h : v.loaded <;> simp [showLines, h]

@[simp] theorem generation_showLines (v : Viewer) (visible : LineSpan) :
    (v.showLines visible).generation = v.generation := by
  cases h : v.loaded <;> simp [showLines, h]

@[simp] theorem content_withSelection (v : Viewer) (selection : Option Nat) :
    (v.withSelection selection).content = v.content := by
  cases h : v.loaded <;> simp [withSelection, content, h]

/-- Selecting a line changes the selection or nothing. -/
theorem activate_fst (v : Viewer) (line : Nat) :
    (v.activate line).1 = v ∨ (v.activate line).1 = v.withSelection (some line) := by
  rw [activate]
  cases v.loaded with
  | none => exact Or.inl rfl
  | some file =>
      dsimp only
      split
      · exact Or.inr rfl
      · exact Or.inl rfl

/-- Clearing changes the selection or nothing. -/
theorem clearSelection_fst (v : Viewer) :
    v.clearSelection.1 = v ∨ v.clearSelection.1 = v.withSelection none := by
  rw [clearSelection]
  split
  · exact Or.inr rfl
  · exact Or.inl rfl

@[simp] theorem content_install (v : Viewer) (path : String) (detail : FileDetail) :
    (v.install path detail).content = some (display v.basePolicy path detail) := by
  rw [install, content_showLines]
  rfl

@[simp] theorem basePolicy_install (v : Viewer) (path : String)
    (detail : FileDetail) :
    (v.install path detail).basePolicy = v.basePolicy := by
  rw [install, basePolicy_showLines]

@[simp] theorem generation_install (v : Viewer) (path : String)
    (detail : FileDetail) :
    (v.install path detail).generation = v.generation := by
  rw [install, generation_showLines]

/-! ## Handing in a result -/

/-- A stale ticket is discarded, whatever its result. -/
theorem finish_stale {v : Viewer} {ticket : LoadTicket}
    (h : ticket.generation ≠ v.generation)
    (result : Except FetchError FileDetail) :
    v.finish ticket result = (v, .ok .discarded) :=
  if_pos h

/-- An error under the current ticket is handed back. -/
theorem finish_error {v : Viewer} {ticket : LoadTicket}
    (h : ticket.generation = v.generation) (e : FetchError) :
    v.finish ticket (.error e) = (v, .error e) :=
  if_neg fun hne => hne h

/-- A file under the current ticket is put on display. -/
theorem finish_ok {v : Viewer} {ticket : LoadTicket}
    (h : ticket.generation = v.generation) (detail : FileDetail) :
    v.finish ticket (.ok detail) = (v.install ticket.path detail, .ok .loaded) :=
  if_neg fun hne => hne h

end Viewer

/-! ## Sessions -/

/-- Something that happens to a viewer. Tickets are told apart by the order of
    their issue, from 0. -/
inductive ViewerEvent where
  | begin (path : String)
  | finish (ticket : Nat) (result : Except FetchError FileDetail)
  | showLines (visible : LineSpan)
  | activate (line : Nat)
  | clear

/-- A viewer and the tickets it has issued, in order of issue. -/
structure ViewerSession where
  viewer : Viewer
  issued : List LoadTicket

namespace ViewerSession

/-- What one event makes of a session. A result can be handed in only under a
    ticket that has been issued. -/
def step (s : ViewerSession) : ViewerEvent → ViewerSession
  | .begin path => ⟨(s.viewer.begin path).1, s.issued ++ [(s.viewer.begin path).2]⟩
  | .finish k result =>
      match s.issued[k]? with
      | none => s
      | some ticket => { s with viewer := (s.viewer.finish ticket result).1 }
  | .showLines visible => { s with viewer := s.viewer.showLines visible }
  | .activate line => { s with viewer := (s.viewer.activate line).1 }
  | .clear => { s with viewer := s.viewer.clearSelection.1 }

/-- A session before its first event. The policy may be that of the viewer's kind
    or any other. -/
def fresh (kind : AnalysisKind) (policy : OverlayPolicy) : ViewerSession :=
  ⟨.withPolicy kind policy, []⟩

/-- The session that a history leads to. -/
def run (kind : AnalysisKind) (policy : OverlayPolicy)
    (history : List ViewerEvent) : ViewerSession :=
  history.foldl step (fresh kind policy)

theorem run_concat (kind : AnalysisKind) (policy : OverlayPolicy)
    (history : List ViewerEvent) (e : ViewerEvent) :
    run kind policy (history ++ [e]) = (run kind policy history).step e := by
  rw [run, List.foldl_append]
  rfl

end ViewerSession

/-! ## Histories -/

/-- The path an event requests. -/
def ViewerEvent.request? : ViewerEvent → Option String
  | .begin path => some path
  | _ => none

/-- The paths requested in a history, in order. -/
def requests (history : List ViewerEvent) : List String :=
  history.filterMap ViewerEvent.request?

theorem requests_concat (history : List ViewerEvent) (e : ViewerEvent) :
    requests (history ++ [e]) = requests history ++ e.request?.toList := by
  rw [requests, requests, List.filterMap_append]
  cases h : e.request? <;> simp [h]

/-- After `past`, the event hands in a file for the newest request, which was
    for `path`. -/
def Lands (past : List ViewerEvent) (e : ViewerEvent) (path : String)
    (detail : FileDetail) : Prop :=
  ∃ k, e = .finish k (.ok detail) ∧ (requests past).length = k + 1
    ∧ (requests past)[k]? = some path

/-- Event `n` of a history hands in a file for the newest request of its
    moment. -/
def Answers (history : List ViewerEvent) (n : Nat) (path : String)
    (detail : FileDetail) : Prop :=
  ∃ e, history[n]? = some e ∧ Lands (history.take n) e path detail

theorem Lands.unique {past : List ViewerEvent} {e : ViewerEvent}
    {p p' : String} {d d' : FileDetail} (h : Lands past e p d)
    (h' : Lands past e p' d') : p = p' ∧ d = d' := by
  obtain ⟨k, rfl, hlen, hp⟩ := h
  obtain ⟨k', he, hlen', hp'⟩ := h'
  obtain ⟨rfl, hd⟩ := ViewerEvent.finish.inj he
  rw [hp] at hp'
  exact ⟨Option.some.inj hp', Except.ok.inj hd⟩

theorem Answers.lt_length {history : List ViewerEvent} {n : Nat} {p : String}
    {d : FileDetail} (h : Answers history n p d) : n < history.length := by
  obtain ⟨e, he, -⟩ := h
  exact (List.getElem?_eq_some_iff.mp he).1

/-- The answers of a longer history: the earlier ones, and the last event if it
    lands. -/
theorem answers_concat (history : List ViewerEvent) (e : ViewerEvent) (n : Nat)
    (p : String) (d : FileDetail) :
    Answers (history ++ [e]) n p d
      ↔ Answers history n p d ∨ (n = history.length ∧ Lands history e p d) := by
  rcases Nat.lt_trichotomy n history.length with hlt | heq | hgt
  · rw [Answers, List.getElem?_append_left hlt,
      List.take_append_of_le_length (Nat.le_of_lt hlt)]
    exact ⟨Or.inl, fun h => h.resolve_right fun hr => Nat.ne_of_lt hlt hr.1⟩
  · subst heq
    rw [Answers, List.getElem?_concat_length, List.take_left]
    constructor
    · rintro ⟨e', he, hl⟩
      obtain rfl := Option.some.inj he
      exact Or.inr ⟨rfl, hl⟩
    · rintro (h | ⟨-, hl⟩)
      · exact absurd h.lt_length (Nat.lt_irrefl _)
      · exact ⟨e, rfl, hl⟩
  · constructor
    · intro h
      have hlt := h.lt_length
      rw [List.length_append, List.length_singleton] at hlt
      omega
    · rintro (h | ⟨heq, -⟩)
      · exact absurd h.lt_length (by omega)
      · omega

/-! ## The invariant -/

/-- How a session stands to its history. -/
structure Tracks (policy : OverlayPolicy) (history : List ViewerEvent)
    (s : ViewerSession) : Prop where
  basePolicy : s.viewer.basePolicy = policy
  generation : s.viewer.generation = (requests history).length
  issued : s.issued = (requests history).mapIdx fun k path => ⟨k + 1, path⟩
  blank : (∀ n p d, ¬Answers history n p d) → s.viewer.content = none
  shown : ∀ n p d, Answers history n p d →
    (∀ m, n < m → ∀ p' d', ¬Answers history m p' d') →
    s.viewer.content = some (Viewer.display policy p d)

namespace Tracks

variable {policy : OverlayPolicy} {history : List ViewerEvent} {s : ViewerSession}

/-- Tickets carry the number of their request. -/
theorem getElem?_issued (h : Tracks policy history s) (k : Nat) :
    s.issued[k]? = (requests history)[k]?.map fun path => ⟨k + 1, path⟩ := by
  rw [h.issued, List.getElem?_mapIdx]

/-- An issued ticket is current exactly if it is the last one. -/
theorem current_iff (h : Tracks policy history s) {k : Nat} {ticket : LoadTicket}
    (hk : s.issued[k]? = some ticket) :
    ticket.generation = s.viewer.generation ↔ k + 1 = (requests history).length := by
  rw [h.getElem?_issued, Option.map_eq_some_iff] at hk
  obtain ⟨path, -, rfl⟩ := hk
  rw [h.generation]

/-- An event that lands puts its file on display. -/
theorem step_of_lands (h : Tracks policy history s) {e : ViewerEvent} {p : String}
    {d : FileDetail} (hl : Lands history e p d) :
    (s.step e).viewer = s.viewer.install p d := by
  obtain ⟨k, rfl, hlen, hp⟩ := hl
  have hk : s.issued[k]? = some ⟨k + 1, p⟩ := by
    rw [h.getElem?_issued, hp]
    rfl
  have hcur : (⟨k + 1, p⟩ : LoadTicket).generation = s.viewer.generation :=
    (h.current_iff hk).mpr hlen.symm
  rw [ViewerSession.step, hk]
  show (s.viewer.finish ⟨k + 1, p⟩ (.ok d)).1 = _
  rw [Viewer.finish_ok hcur]

/-- An event that does not land may change the counter, the visible lines or the
    selection, and nothing else. -/
theorem step_of_not_lands (h : Tracks policy history s) {e : ViewerEvent}
    (hno : ∀ p d, ¬Lands history e p d) :
    (s.step e).viewer = s.viewer
      ∨ (∃ path, (s.step e).viewer = (s.viewer.begin path).1)
      ∨ (∃ visible, e = .showLines visible ∧ (s.step e).viewer = s.viewer.showLines visible)
      ∨ ∃ selection, (s.step e).viewer = s.viewer.withSelection selection := by
  cases e with
  | begin path => exact Or.inr (Or.inl ⟨path, rfl⟩)
  | showLines visible => exact Or.inr (Or.inr (Or.inl ⟨visible, rfl, rfl⟩))
  | activate line =>
      rcases s.viewer.activate_fst line with heq | heq
      · exact Or.inl heq
      · exact Or.inr (Or.inr (Or.inr ⟨some line, heq⟩))
  | clear =>
      rcases s.viewer.clearSelection_fst with heq | heq
      · exact Or.inl heq
      · exact Or.inr (Or.inr (Or.inr ⟨none, heq⟩))
  | finish k result =>
      refine Or.inl ?_
      rw [ViewerSession.step]
      cases hk : s.issued[k]? with
      | none => rfl
      | some ticket =>
          show (s.viewer.finish ticket result).1 = s.viewer
          by_cases hcur : ticket.generation = s.viewer.generation
          · cases result with
            | error err => rw [Viewer.finish_error hcur]
            | ok detail =>
                -- a file under the current ticket would land
                have hk' := hk
                rw [h.getElem?_issued, Option.map_eq_some_iff] at hk'
                obtain ⟨path, hpath, -⟩ := hk'
                exact absurd ⟨k, rfl, ((h.current_iff hk).mp hcur).symm, hpath⟩
                  (hno path detail)
          · rw [Viewer.finish_stale hcur]

theorem content_step_of_lands (h : Tracks policy history s) {e : ViewerEvent}
    {p : String} {d : FileDetail} (hl : Lands history e p d) :
    (s.step e).viewer.content = some (Viewer.display policy p d) := by
  rw [h.step_of_lands hl, Viewer.content_install, h.basePolicy]

/-- An event that does not land keeps what is on display. -/
theorem content_step_of_not_lands (h : Tracks policy history s) {e : ViewerEvent}
    (hno : ∀ p d, ¬Lands history e p d) :
    (s.step e).viewer.content = s.viewer.content := by
  rcases h.step_of_not_lands hno with heq | ⟨path, heq⟩ | ⟨visible, -, heq⟩ | ⟨selection, heq⟩
  · rw [heq]
  · rw [heq]
    rfl
  · rw [heq, Viewer.content_showLines]
  · rw [heq, Viewer.content_withSelection]

/-- Requests aside, an event keeps base policy, counter and tickets. -/
theorem counters_step (s : ViewerSession) (e : ViewerEvent)
    (hno : e.request? = none) :
    (s.step e).viewer.basePolicy = s.viewer.basePolicy
      ∧ (s.step e).viewer.generation = s.viewer.generation
      ∧ (s.step e).issued = s.issued := by
  cases e with
  | begin path => exact nomatch hno
  | showLines visible =>
      exact ⟨Viewer.basePolicy_showLines .., Viewer.generation_showLines .., rfl⟩
  | activate line =>
      show (s.viewer.activate line).1.basePolicy = s.viewer.basePolicy
        ∧ (s.viewer.activate line).1.generation = s.viewer.generation ∧ _
      rcases s.viewer.activate_fst line with heq | heq <;> rw [heq] <;>
        exact ⟨rfl, rfl, rfl⟩
  | clear =>
      show s.viewer.clearSelection.1.basePolicy = s.viewer.basePolicy
        ∧ s.viewer.clearSelection.1.generation = s.viewer.generation ∧ _
      rcases s.viewer.clearSelection_fst with heq | heq <;> rw [heq] <;>
        exact ⟨rfl, rfl, rfl⟩
  | finish k result =>
      rw [ViewerSession.step]
      cases hk : s.issued[k]? with
      | none => exact ⟨rfl, rfl, rfl⟩
      | some ticket =>
          show (s.viewer.finish ticket result).1.basePolicy = s.viewer.basePolicy
            ∧ (s.viewer.finish ticket result).1.generation = s.viewer.generation
            ∧ s.issued = s.issued
          by_cases hcur : ticket.generation = s.viewer.generation
          · cases result with
            | error err =>
                rw [Viewer.finish_error hcur]
                exact ⟨rfl, rfl, rfl⟩
            | ok detail =>
                rw [Viewer.finish_ok hcur]
                exact ⟨Viewer.basePolicy_install .., Viewer.generation_install ..,
                  rfl⟩
          · rw [Viewer.finish_stale hcur]
            exact ⟨rfl, rfl, rfl⟩

/-- A request adds one to the counter and to the tickets, and no other event
    does. -/
theorem counters (h : Tracks policy history s) (e : ViewerEvent) :
    (s.step e).viewer.basePolicy = policy
      ∧ (s.step e).viewer.generation = (requests (history ++ [e])).length
      ∧ (s.step e).issued
        = (requests (history ++ [e])).mapIdx fun k path => ⟨k + 1, path⟩ := by
  rw [requests_concat]
  cases hr : e.request? with
  | none =>
      obtain ⟨hb, hg, hi⟩ := counters_step s e hr
      rw [Option.toList_none, List.append_nil, hb, hg, hi]
      exact ⟨h.basePolicy, h.generation, h.issued⟩
  | some path =>
      cases e with
      | begin path' =>
          obtain rfl := Option.some.inj hr
          rw [Option.toList_some, List.length_append, List.mapIdx_append]
          refine ⟨h.basePolicy, congrArg (· + 1) h.generation, ?_⟩
          show s.issued ++ [⟨s.viewer.generation + 1, path'⟩] = _
          rw [h.issued, h.generation]
          simp
      | finish k result => exact nomatch hr
      | showLines visible => exact nomatch hr
      | activate line => exact nomatch hr
      | clear => exact nomatch hr

/-- **One event keeps the invariant.** -/
theorem step (h : Tracks policy history s) (e : ViewerEvent) :
    Tracks policy (history ++ [e]) (s.step e) := by
  obtain ⟨hb, hg, hi⟩ := h.counters e
  by_cases hlands : ∃ p d, Lands history e p d
  · obtain ⟨p, d, hl⟩ := hlands
    have hlast : Answers (history ++ [e]) history.length p d :=
      (answers_concat ..).mpr (Or.inr ⟨rfl, hl⟩)
    refine ⟨hb, hg, hi, fun hnone => absurd hlast (hnone _ p d), ?_⟩
    intro n p' d' hans hlatest
    -- an earlier answer is not the latest one, so this is the last event
    rcases (answers_concat ..).mp hans with hearlier | ⟨-, hl'⟩
    · exact absurd hlast (hlatest _ hearlier.lt_length _ _)
    · obtain ⟨rfl, rfl⟩ := hl.unique hl'
      exact h.content_step_of_lands hl
  · have hno : ∀ p d, ¬Lands history e p d := fun p d hl => hlands ⟨p, d, hl⟩
    have hsame : ∀ n p d,
        Answers (history ++ [e]) n p d ↔ Answers history n p d := by
      intro n p d
      rw [answers_concat]
      exact ⟨fun hor => hor.resolve_right fun hr => hno p d hr.2, Or.inl⟩
    refine ⟨hb, hg, hi, ?_, ?_⟩
    · intro hnone
      rw [h.content_step_of_not_lands hno]
      exact h.blank fun n p d hans => hnone n p d ((hsame n p d).mpr hans)
    · intro n p d hans hlatest
      rw [h.content_step_of_not_lands hno]
      exact h.shown n p d ((hsame n p d).mp hans) fun m hm p' d' hans' =>
        hlatest m hm p' d' ((hsame m p' d').mpr hans')

end Tracks

/-- Every run keeps track of its history. -/
theorem tracks_run (kind : AnalysisKind) (policy : OverlayPolicy)
    (history : List ViewerEvent) :
    Tracks policy history (.run kind policy history) := by
  induction history using List.reverseRecOn with
  | nil =>
      refine ⟨rfl, rfl, rfl, fun _ => rfl, ?_⟩
      intro n p d hans
      exact absurd hans.lt_length (Nat.not_lt_zero n)
  | append_singleton history e ih =>
      rw [ViewerSession.run_concat]
      exact ih.step e

/-- What a run has on display is a file that was put there under the base policy. -/
theorem content_run (kind : AnalysisKind) (policy : OverlayPolicy) (history : List ViewerEvent) :
    ∀ content, (ViewerSession.run kind policy history).viewer.content = some content →
      ∃ path detail, content = Viewer.display policy path detail := by
  induction history using List.reverseRecOn with
  | nil => exact fun _ h => nomatch h
  | append_singleton history e ih =>
      have htracks := tracks_run kind policy history
      intro content hcontent
      rw [ViewerSession.run_concat] at hcontent
      by_cases hlands : ∃ path detail, Lands history e path detail
      · obtain ⟨path, detail, hl⟩ := hlands
        rw [htracks.content_step_of_lands hl] at hcontent
        exact ⟨path, detail, (Option.some.inj hcontent).symm⟩
      · have hno : ∀ path detail, ¬Lands history e path detail :=
          fun path detail hl => hlands ⟨path, detail, hl⟩
        rw [htracks.content_step_of_not_lands hno] at hcontent
        exact ih content hcontent

/-- The policy on display is the base policy, under some tolerance. -/
theorem policy_run {kind : AnalysisKind} {policy : OverlayPolicy} {history : List ViewerEvent}
    {file : LoadedFile} (h : (ViewerSession.run kind policy history).viewer.loaded = some file) :
    ∃ tolerance, file.policy = policy.withTolerance tolerance := by
  have hcontent : (ViewerSession.run kind policy history).viewer.content
      = some (file.document, file.index, file.policy) := by
    rw [Viewer.content, h]
    rfl
  obtain ⟨path, detail, heq⟩ := content_run kind policy history _ hcontent
  exact ⟨detail.tolerance, (Prod.mk.inj (Prod.mk.inj heq).2).2⟩

/-! ## The newest request wins -/

/-- A viewer shows a file: its path and text, its findings, and the base policy
    under the file's own tolerance. -/
structure Shows (policy : OverlayPolicy) (v : Viewer) (path : String)
    (detail : FileDetail) : Prop where
  document : v.document? = some ⟨path, detail.content⟩
  findings : v.index?.map (·.findings) = some detail.findings.toArray
  policy : v.policy = policy.withTolerance detail.tolerance

theorem shows_of_content {policy : OverlayPolicy} {v : Viewer} {path : String}
    {detail : FileDetail}
    (h : v.content = some (Viewer.display policy path detail)) :
    Shows policy v path detail := by
  obtain ⟨file, hfile, heq⟩ := Option.map_eq_some_iff.mp h
  obtain ⟨hdoc, hrest⟩ := Prod.mk.inj heq
  obtain ⟨hix, hpol⟩ := Prod.mk.inj hrest
  refine ⟨?_, ?_, ?_⟩
  · rw [Viewer.document?, hfile, Option.map_some, hdoc]
  · rw [Viewer.index?, hfile, Option.map_some, Option.map_some, hix]
    rfl
  · rw [Viewer.policy, hfile]
    exact hpol

/-- **THE NEWEST REQUEST WINS** every race. At every point of every run, a
    viewer that no file has reached under the newest request of its moment is
    empty, and otherwise it shows the latest such file, under the base policy
    with that file's tolerance. A superseded ticket is discarded whatever its
    result, an error under the newest one is handed back, and neither changes
    the viewer. -/
theorem newest_request_wins (kind : AnalysisKind) (policy : OverlayPolicy)
    (history : List ViewerEvent) :
    let s := ViewerSession.run kind policy history
    ((∀ n path detail, ¬Answers history n path detail) → s.viewer.loaded = none)
      ∧ (∀ n path detail, Answers history n path detail →
          (∀ m, n < m → ∀ path' detail', ¬Answers history m path' detail') →
          Shows policy s.viewer path detail)
      ∧ s.issued.map LoadTicket.path = requests history
      ∧ ∀ k ticket, s.issued[k]? = some ticket →
          (k + 1 < (requests history).length → ∀ result,
            s.viewer.finish ticket result = (s.viewer, .ok .discarded))
          ∧ (k + 1 = (requests history).length →
              (∀ e, s.viewer.finish ticket (.error e) = (s.viewer, .error e))
              ∧ ∀ detail,
                  (s.viewer.finish ticket (.ok detail)).2 = .ok .loaded) := by
  intro s
  have h : Tracks policy history s := tracks_run kind policy history
  refine ⟨?_, ?_, ?_, ?_⟩
  · intro hnone
    exact Option.map_eq_none_iff.mp (h.blank hnone)
  · intro n path detail hans hlatest
    exact shows_of_content (h.shown n path detail hans hlatest)
  · refine List.ext_getElem? fun k => ?_
    rw [List.getElem?_map, h.getElem?_issued]
    cases (requests history)[k]? <;> rfl
  · intro k ticket hk
    have hcur := h.current_iff hk
    refine ⟨?_, ?_⟩
    · intro hold result
      exact Viewer.finish_stale (fun heq => absurd (hcur.mp heq) (by omega)) result
    · intro hnew
      refine ⟨fun e => Viewer.finish_error (hcur.mpr hnew) e, fun detail => ?_⟩
      rw [Viewer.finish_ok (hcur.mpr hnew)]

end FindingsBrowser
