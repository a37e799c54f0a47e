import FindingsBrowser.Navigation.Link
import FindingsBrowser.Proofs.Navigation.State

/-! # Links — a URL carries its state past any target

    Target and state are separated by the first `?`: the target's parts are
    percent-encoded, and between them stand slashes only.  So the state read from
    a URL, and from a window that went there, is the state that was written. -/

namespace FindingsBrowser

open Text

namespace NavigationLink

/-- A target is written without the delimiters around it. -/
theorem not_mem_writeTarget {c : Char} (hc : c ∈ ListState.queryDelimiters)
    (target : List Char) : c ∉ writeTarget target := by
  intro h
  rcases mem_intercalate h with rfl | ⟨part, hpart, hmem⟩
  · exact absurd hc (by decide)
  · obtain ⟨plain, -, rfl⟩ := List.mem_map.mp hpart
    exact Percent.not_mem_encode (ListState.queryDelimiters_subset c hc) plain hmem

/-- A URL has no fragment. -/
theorem before_hash_write (link : NavigationLink) : before '#' link.write = link.write := by
  refine before_eq_self ?_
  rw [write, List.mem_append, List.mem_cons]
  rintro (h | h | h)
  · exact not_mem_writeTarget (by decide) _ h
  · exact absurd h (by decide)
  · exact ListState.not_mem_write _ (by decide) (by decide) h

/-- The query of a URL is the text of its state. -/
theorem cutFirst_question_write (link : NavigationLink) :
    cutFirst '?' link.write = some (writeTarget link.target.toList, link.state.write) :=
  cutFirst_append (not_mem_writeTarget (by decide) _) _

/-- **URLS CARRY STATES**: the whole URL reads back as its query text does. -/
theorem read?_write (link : NavigationLink) :
    ListState.read? link.write = ListState.read? link.state.write := by
  have hpairs : ListState.queryPairs link.write = ListState.queryPairs link.state.write := by
    have hhash : before '#' link.state.write = link.state.write :=
      before_eq_self (ListState.not_mem_write _ (by decide) (by decide))
    have hquestion : cutFirst '?' link.state.write = none :=
      cutFirst_eq_none (ListState.not_mem_write _ (by decide) (by decide))
    rw [ListState.queryPairs, before_hash_write, cutFirst_question_write,
      ListState.queryPairs, hhash, hquestion]
  rw [ListState.read?, hpairs, ListState.read?]

end NavigationLink

/-- **WINDOWS CARRY STATES**: the query of a window that went to a URL is the text
    of the URL's state. -/
theorem BrowserHost.query_navigate (host : BrowserHost) (link : NavigationLink) :
    (host.navigate (String.ofList link.write)).query = link.state.write := by
  rw [query, navigate]
  dsimp only
  rw [String.toList_ofList, NavigationLink.before_hash_write,
    NavigationLink.cutFirst_question_write]

end FindingsBrowser
