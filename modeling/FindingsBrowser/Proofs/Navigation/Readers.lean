import FindingsBrowser.Proofs.Navigation.ListRun

/-! # Readers of a URL — the whole URL, a link, and a window that went there

    A state is read from a whole URL, from a link, or from the query of a window.  A
    link and a window cut the query out first; reading it cuts at a `?` once more,
    since the text might have been a whole URL.

    * `window_eq_link`: a window and a link read the same state from every URL.
    * `url_readers_agree`: the whole URL is read as they read it, unless its query
      holds a `?`; then they read only what stands behind that `?`.
    * `url_readers_differ`: such a URL. -/

namespace FindingsBrowser

open Text

namespace ListState

/-- The state that pairs carry, with `default` for a missing sort order. -/
def ofPairs (default : Sorter) (pairs : List (List Char)) : ListState :=
  ((readPairs none pairs).getD {}).withDefault default

/-- **A WHOLE URL** is read by the pairs behind its first `?`. -/
theorem read_of_cut {default : Sorter} {url path query : List Char}
    (h : cutFirst '?' (before '#' url) = some (path, query)) :
    read default url = ofPairs default (splitPairs query) := by
  rw [read, read?, queryPairs, h]
  rfl

/-- A text with neither `#` nor `?` is read by all its pairs. -/
theorem read_of_not_mem {default : Sorter} {query : List Char} (hhash : '#' ∉ query)
    (hquestion : '?' ∉ query) : read default query = ofPairs default (splitPairs query) := by
  rw [read, read?, queryPairs_of_not_mem hhash hquestion]
  rfl

end ListState

/-- What a URL has behind its first `?` holds no `#`. -/
theorem hash_not_mem_query {url path query : List Char}
    (h : cutFirst '?' (before '#' url) = some (path, query)) : '#' ∉ query := by
  intro hmem
  refine not_mem_before '#' url ?_
  rw [(cutFirst_eq_some h).2]
  exact List.mem_append_right path (List.mem_cons_of_mem '?' hmem)

/-- **A LINK** reads the query that it cuts out. -/
theorem NavigationLink.state_read {default : Sorter} {url path query : List Char}
    (h : cutFirst '?' (before '#' url) = some (path, query)) :
    (NavigationLink.read default url).state = ListState.read default query := by
  rw [NavigationLink.read, h]
  rfl

namespace ListView

variable {ρ : Type}

/-- A fresh list that restores a text is in the state that the text is read as. -/
theorem state_restore_fresh (default : Sorter) (size : Nat) (query : List Char) :
    ((fresh default size : ListView ρ).restore query).1.state = ListState.read default query := by
  rw [ListState.read]
  cases hread : ListState.read? query with
  | none => rw [restore_of_none hread]; rfl
  | some state => rw [restore_of_some hread]; rfl

/-- **A WINDOW AND A LINK** read the same state from every URL. -/
theorem window_eq_link (default : Sorter) (size : Nat) (host : BrowserHost) :
    (ofHost default size host : ListView ρ).state
      = (NavigationLink.read default host.location.toList).state := by
  rw [ofHost, state_restore_fresh, BrowserHost.query, NavigationLink.read]
  cases cutFirst '?' (before '#' host.location.toList) with
  | none => rfl
  | some parts => rfl

/-- **THE READERS OF A URL AGREE UNLESS ITS QUERY HOLDS A `?`.**  Take a URL with a `?`
    in front of any `#`.  A list made for a window at the URL is in the state that the
    link reads.  The URL as a whole is read by all pairs of its query, and so are link
    and window if no further `?` stands in it.  If one does, link and window read the
    pairs behind it only. -/
theorem url_readers_agree (default : Sorter) (size : Nat) (host : BrowserHost)
    (path query : List Char)
    (hurl : cutFirst '?' (before '#' host.location.toList) = some (path, query))
    (whole link window : ListState)
    (hwhole : whole = ListState.read default host.location.toList)
    (hlink : link = (NavigationLink.read default host.location.toList).state)
    (hwindow : window = (ofHost default size host : ListView ρ).state) :
    window = link
      ∧ whole = ListState.ofPairs default (ListState.splitPairs query)
      ∧ ('?' ∉ query → whole = link)
      ∧ ∀ front behind, cutFirst '?' query = some (front, behind) →
          link = ListState.ofPairs default (ListState.splitPairs behind) := by
  have hhash : '#' ∉ query := hash_not_mem_query hurl
  have hread : link = ListState.read default query :=
    hlink.trans (NavigationLink.state_read hurl)
  have hpairs : whole = ListState.ofPairs default (ListState.splitPairs query) :=
    hwhole.trans (ListState.read_of_cut hurl)
  refine ⟨?_, hpairs, ?_, ?_⟩
  · rw [hwindow, hlink, window_eq_link]
  · intro hquestion
    rw [hpairs, hread, ListState.read_of_not_mem hhash hquestion]
  · intro front behind hcut
    have hbehind : cutFirst '?' (before '#' query) = some (front, behind) := by
      rw [before_eq_self hhash]
      exact hcut
    rw [hread]
    exact ListState.read_of_cut hbehind

/-- A `?` in the fragment is no further one. -/
theorem url_readers_agree_fragment :
    let host : BrowserHost :=
      { location := "list/a%3F?note=x&page=2&sort=a%2C:desc&selected=b#top?page=9" }
    ListState.read (.ascending "name") host.location.toList
        = (NavigationLink.read (.ascending "name") host.location.toList).state
      ∧ (ofHost (.ascending "name") 3 host : ListView Unit).state
        = ⟨2, [⟨"a,", .desc⟩], some "b", .zero, .zero⟩ := by
  intro host
  obtain ⟨hwindow, hpairs, hagree, -⟩ := url_readers_agree (.ascending "name") 3 host
    "list/a%3F".toList "note=x&page=2&sort=a%2C:desc&selected=b".toList (by decide) _ _ _ rfl rfl
    (Eq.refl (ofHost (.ascending "name") 3 host : ListView Unit).state)
  have hlink := hagree (by decide)
  refine ⟨hlink, ?_⟩
  rw [hwindow, ← hlink, hpairs]
  decide

/-- With a `?` in an unknown value, the whole URL has its page number, and a link and a
    window do not see it. -/
theorem url_readers_differ :
    let host : BrowserHost := { location := "list?page=2&note=why?" }
    (ListState.read (.ascending "name") host.location.toList).page = 2
      ∧ (NavigationLink.read (.ascending "name") host.location.toList).state.page = 1
      ∧ (ofHost (.ascending "name") 3 host : ListView Unit).state.page = 1 := by
  decide

end ListView

end FindingsBrowser
