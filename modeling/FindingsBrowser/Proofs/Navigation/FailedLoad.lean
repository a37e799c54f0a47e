import FindingsBrowser.Proofs.Navigation.Return

/-! # Failed loads — what a list shows, what it asks for, and where its URLs lead

    Another page is asked for before it is loaded.  A load that fails leaves the rows
    on display, which an earlier request was answered with, and the request of the
    page that never came; and it is the request that a URL carries.

    * `Unanswered.shown`: the rows stay.
    * `url_leads_to_shown_page`: a URL leads back to them as long as nothing has been
      asked for since they came, whatever has failed before and after.
    * `url_after_failed_load`: after a failed change of page it leads elsewhere. -/

namespace FindingsBrowser.ListView

open Text

variable {ρ : Type} [TableRow ρ]

/-- Whether no load of a history succeeds. -/
def Unanswered (start : ListView ρ) (history : List (ListEvent ρ)) : Prop :=
  ∀ past fetch future, history = past ++ .load fetch :: future →
    ∃ e, fetch (start.run past).request = .error e

/-- **FAILED LOADS** leave the page on display, whatever is asked for between them. -/
theorem Unanswered.shown {start : ListView ρ} {history : List (ListEvent ρ)}
    (h : Unanswered start history) : (start.run history).shown = start.shown := by
  induction history generalizing start with
  | nil => rfl
  | cons e rest ih =>
      have hrest : Unanswered (start.step e) rest := by
        intro past fetch future hsplit
        exact h (e :: past) fetch future (by rw [hsplit, List.cons_append])
      rw [run_cons, ih hrest]
      rcases step_cases start e with ⟨fetch, page, rfl, hfetch, -⟩ | ⟨hshown, -⟩
      · obtain ⟨error, herror⟩ := h [] fetch rest rfl
        rw [run_nil, hfetch] at herror
        exact nomatch herror
      · exact hshown

/-- Whatever fails, a list that describes a table does so until it asks anew. -/
theorem describes_until_asked {rows : List ρ} {list : ListView ρ} (h : Describes rows list)
    {history : List (ListEvent ρ)} (hover : ∀ e ∈ history, e.Over rows)
    (hkeep : ∀ e ∈ history, e.asks = false) : Describes rows (list.run history) :=
  run_keeps (Describes rows) (fun _ _ he h => describes_step h he.1 he.2) h
    fun e he => And.intro (hover e he) (hkeep e he)

/-- **URLS OF A DESCRIBED TABLE** carry a page and an order that fetch the page on
    display, and a list restored from one shows that page with the row selected. -/
theorem url_of_describes {default : Sorter} {size : Nat} {rows : List ρ}
    (hrows : rows.length < wordLimit) {list : ListView ρ}
    (hregular : Regular default size list) (hdescribes : Describes rows list)
    (hsorters : ∀ sorter ∈ list.state.sorters, sorter.column ≠ "")
    {id : String} {host there : BrowserHost} {left : ListView ρ} {url : String}
    (hleave : list.activate id host = (left, there, some url)) :
    ∃ state, ListState.read? url.toList = some state
      ∧ queryRows rows ⟨state.page, list.pageSize, state.sorters⟩ = list.shown
      ∧ ∀ back ∈ [ofHost default size there, ((fresh default size).restore url.toList).1],
          ∃ again : ListView ρ, back.load (fetchTable rows) = (again, .ok list.shown)
            ∧ holds again.shown id = true ∧ again.state.selected = some id := by
  obtain ⟨hholds, -, rfl, rfl⟩ := activate_eq_some hleave
  have hquery := read?_carried hrows hdescribes hsorters hholds host
  have hurl := (NavigationLink.read?_write ⟨id, list.leaving id host⟩).trans hquery
  have hstate : (list.carried id host).sorters ≠ [] := hregular.sorters_ne_nil
  have hrequest : (arriving default size (list.carried id host) : ListView ρ).request
      = list.request := by
    rw [request, request, hregular.pageSize]
    rfl
  refine ⟨list.carried id host, by rw [String.toList_ofList, hurl], hdescribes.1, ?_⟩
  intro back hback
  have harrive : back = arriving default size (list.carried id host) := by
    rcases List.mem_cons.mp hback with hback | hback
    · rw [hback, ofHost_eq, BrowserHost.query_navigate,
        restore_fresh default size hquery hstate]
    · rw [List.mem_singleton.mp hback, String.toList_ofList,
        restore_fresh default size hurl hstate]
  rw [harrive]
  exact ⟨_, load_of_describes hdescribes hholds hrequest rfl, hholds, rfl⟩

/-- **URLS LEAD TO THE ROWS ON DISPLAY AS LONG AS NOTHING ELSE HAS BEEN ASKED FOR.**
    After any history over some rows, with failed loads anywhere in it, take a load
    that succeeded.  (Rows are counted in 64 bits.)  While no other load has, its page
    stays on display.  While nothing has been asked for anew (so if every change was
    followed by a load: if the one after the last change succeeded, or a later one),
    a list that is left for a row gives a URL whose page and order fetch the rows on
    display, and a list restored from it shows them with the row selected. -/
theorem url_leads_to_shown_page (default : Sorter) (size : Nat) (rows : List ρ)
    (hrows : rows.length < wordLimit) (past since : List (ListEvent ρ))
    (fetch : PageRequest → Except FetchError (Page ρ)) (page : Page ρ)
    (hover : ∀ e ∈ past ++ .load fetch :: since, e.Over rows)
    (asked : PageRequest) (hasked : asked = ((fresh default size).run past).request)
    (hfetch : fetch asked = .ok page)
    (list : ListView ρ) (hlist : list = (fresh default size).run (past ++ .load fetch :: since)) :
    (Unanswered ((fresh default size).run (past ++ [.load fetch])) since →
        list.shown = queryRows rows asked)
      ∧ ((∀ e ∈ since, e.asks = false) →
          (∀ sorter ∈ list.state.sorters, sorter.column ≠ "") →
          ∀ id host left there url, list.activate id host = (left, there, some url) →
            ∃ state, ListState.read? url.toList = some state
              ∧ queryRows rows ⟨state.page, list.pageSize, state.sorters⟩ = list.shown
              ∧ ∀ back ∈ [ofHost default size there, ((fresh default size).restore url.toList).1],
                  ∃ again : ListView ρ, back.load (fetchTable rows) = (again, .ok list.shown)
                    ∧ holds again.shown id = true ∧ again.state.selected = some id) := by
  have hmem : ∀ e ∈ since, e ∈ past ++ .load fetch :: since := fun e he =>
    List.mem_append_right past (List.mem_cons_of_mem _ he)
  have hload : AnswersFrom rows fetch :=
    hover (.load fetch) (List.mem_append_right past List.mem_cons_self)
  have hpage : page = queryRows rows asked := hload asked page hfetch
  rw [hasked] at hfetch hpage
  have hshow : list = (((fresh default size).run past).display page).run since := by
    rw [hlist, List.append_cons, run_append, run_load hfetch]
  constructor
  · intro hfail
    rw [run_load hfetch] at hfail
    rw [hshow, hfail.shown, hasked, ← hpage]
    rfl
  · intro hkeep hsorters id host left there url hleave
    have hregular : Regular default size list := by
      rw [hlist]
      exact regular_run (regular_fresh default size) _
    have hdescribes : Describes rows list := by
      rw [hshow]
      exact describes_until_asked (describes_display hpage) (fun e he => hover e (hmem e he)) hkeep
    exact url_of_describes hrows hregular hdescribes hsorters hleave

/-- Three rows, two to a page: the second page is asked for, fails and comes at the
    second try; a further load fails, and then the third row is left for. -/
theorem url_leads_to_shown_page_retried :
    let rows : List Row := [⟨"a/b", .empty⟩, ⟨"b", .empty⟩, ⟨"c?1", .empty⟩]
    let down : ListEvent Row := .load fun _ => .error (.transport "rows" "down")
    let list := (fresh (.ascending "name") 2).run
      ([.load (fetchTable rows), .setPage 2, down] ++ .load (fetchTable rows)
        :: [.restore "utm=1".toList, down])
    let host : BrowserHost := { location := "list", scrollX := .infinity }
    ∃ url state, (list.activate "c?1" host).2.2 = some url
      ∧ ListState.read? url.toList = some state
      ∧ queryRows rows ⟨state.page, list.pageSize, state.sorters⟩ = list.shown
      ∧ list.shown.rows = [⟨"c?1", .empty⟩] := by
  intro rows down list host
  have hsorted : sortRows [.ascending "name"] rows = rows :=
    List.mergeSort_of_pairwise (by decide)
  have hshown : list.shown = pageOf rows 2 2 := by
    rw [← hsorted]
    rfl
  have hholds : holds list.shown "c?1" = true := by
    rw [hshown]
    decide
  have hover : ∀ e ∈ [ListEvent.load (fetchTable rows), .setPage 2, down] ++ .load (fetchTable rows)
      :: [.restore "utm=1".toList, down], e.Over rows := by
    have htable : AnswersFrom rows (fetchTable rows) := answersFrom_fetchTable rows
    have hdown : AnswersFrom rows fun _ => .error (.transport "rows" "down") := nofun
    simp only [List.cons_append, List.nil_append, List.forall_mem_cons]
    exact ⟨htable, trivial, hdown, htable, trivial, hdown, List.forall_mem_nil _⟩
  have hleave := activate_of_holds hholds host
  obtain ⟨-, hurl⟩ := url_leads_to_shown_page (.ascending "name") 2 rows (by decide) _ _
    (fetchTable rows) _ hover _ rfl rfl list rfl
  obtain ⟨state, hread, hfetch, -⟩ := hurl (by decide) (by decide) "c?1" host _ _ _ hleave
  refine ⟨_, state, congrArg (·.2.2) hleave, hread, hfetch, ?_⟩
  rw [hshown]
  decide

/-- Three rows, two to a page: the second page is asked for and fails, and a row of the
    first one, which is still on display, is left for.  The URL fetches the second
    page, and a list restored from it has no row selected. -/
theorem url_after_failed_load :
    let rows : List Row := [⟨"a", .empty⟩, ⟨"b", .empty⟩, ⟨"c", .empty⟩]
    let list := (fresh (.ascending "name") 2).run
      [.load (fetchTable rows), .setPage 2, .load fun _ => .error (.transport "rows" "down")]
    let host : BrowserHost := { location := "list" }
    ∃ url state again page, (list.activate "a" host).2.2 = some url
      ∧ ListState.read? url.toList = some state
      ∧ queryRows rows ⟨state.page, list.pageSize, state.sorters⟩ ≠ list.shown
      ∧ ((fresh (.ascending "name") 2).restore url.toList).1.load (fetchTable rows)
          = (again, .ok page)
      ∧ holds again.shown "a" = false ∧ again.state.selected = none := by
  intro rows list host
  have hsorted : sortRows [.ascending "name"] rows = rows :=
    List.mergeSort_of_pairwise (by decide)
  have hshown : list.shown = pageOf rows 1 2 := by
    rw [← hsorted]
    rfl
  have hholds : holds list.shown "a" = true := by
    rw [hshown]
    decide
  have hsecond : queryRows rows ⟨2, 2, [.ascending "name"]⟩ = pageOf rows 2 2 := by
    rw [queryRows, hsorted]
  have hread : ListState.read? (list.leaving "a" host).write = some (list.leaving "a" host) :=
    ListState.read?_write_of_regular (by decide) (by decide) (by decide) (by decide) (by decide)
  have hurl := (NavigationLink.read?_write ⟨"a", list.leaving "a" host⟩).trans hread
  refine ⟨_, list.leaving "a" host,
    (arriving (.ascending "name") 2 (list.leaving "a" host)).display (pageOf rows 2 2),
    pageOf rows 2 2, congrArg (·.2.2) (activate_of_holds hholds host), ?_, ?_, ?_, ?_, ?_⟩
  · rw [String.toList_ofList]
    exact hurl
  · rw [hshown]
    show queryRows rows ⟨2, 2, [.ascending "name"]⟩ ≠ _
    rw [hsecond]
    decide
  · rw [String.toList_ofList, restore_fresh _ _ hurl (List.cons_ne_nil _ _)]
    refine load_of_ok ?_
    show Except.ok (queryRows rows ⟨2, 2, [.ascending "name"]⟩) = _
    rw [hsecond]
  · decide
  · decide

end FindingsBrowser.ListView
