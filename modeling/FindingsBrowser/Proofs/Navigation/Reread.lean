import FindingsBrowser.Proofs.Navigation.Link

/-! # Reading again — a link comes back from its URL

    A target is written in encoded parts, so the cuts at `#`, `?` and `/` find the parts
    that were written, and each part is decoded to what it was, without recourse to the
    text as it stands.

    Reading loses only what writing does not put back: a state that has been read is
    regular up to the default order it has taken on, and such a state is read from its
    own text as it is.  So a URL, however malformed, is changed once at most by reading
    and writing it. -/

namespace FindingsBrowser

open Text

namespace ListState

/-- A state without an order takes on the default one. -/
theorem withDefault_of_nil {s : ListState} (h : s.sorters = []) (default : Sorter) :
    s.withDefault default = { s with sorters := [default] } := by
  rw [withDefault, h]
  rfl

/-- A state with an order keeps it. -/
theorem withDefault_of_ne_nil {s : ListState} (h : s.sorters ≠ []) (default : Sorter) :
    s.withDefault default = s := by
  rw [withDefault, List.isEmpty_eq_false_iff.mpr h]
  rfl

/-- **A REGULAR STATE** under the default order is read from its text as it is, even if the
    default sorter names no column: dropped on reading, it is taken on again. -/
theorem Regular.read_write_withDefault {s : ListState} (h : s.Regular) (default : Sorter) :
    read default (s.withDefault default).write = s.withDefault default := by
  by_cases hsorters : s.sorters = []
  · rw [withDefault_of_nil hsorters, read,
      read?_write_of_finite (s := { s with sorters := [default] }) h.page_lt h.page_pos h.finiteX
        h.finiteY, Option.getD_some, withDefault, namedSorters]
    by_cases hcolumn : default.column = ""
    · rw [List.filter_cons_of_neg (by simp [hcolumn])]
      rfl
    · rw [List.filter_cons_of_pos (by simp [hcolumn])]
      rfl
  · have hdefault := withDefault_of_ne_nil hsorters default
    rw [hdefault, read, read?_write_of_regular h.page_lt h.page_pos h.named h.finiteX h.finiteY,
      Option.getD_some, hdefault]

/-- **A STATE THAT HAS BEEN READ** is read from its text as it is. -/
theorem read_write_read (default : Sorter) (query : List Char) :
    read default (read default query).write = read default query :=
  (regular_getD_read? query).read_write_withDefault default

/-- A state as reading makes it under a default order: regular, but that its order may be the
    default one, whatever that is. -/
structure Settled (default : Sorter) (s : ListState) : Prop where
  page_pos : 1 ≤ s.page
  page_lt : s.page < wordLimit
  finiteX : s.scrollX.isFinite = true
  finiteY : s.scrollY.isFinite = true
  ordered : s.sorters ≠ []
  sorters : s.sorters = [default] ∨ ∀ sorter ∈ s.sorters, sorter.column ≠ ""

/-- A regular state is settled by the default order. -/
theorem Regular.settled_withDefault {s : ListState} (h : s.Regular) (default : Sorter) :
    Settled default (s.withDefault default) := by
  by_cases hsorters : s.sorters = []
  · rw [withDefault_of_nil hsorters]
    exact
      { page_pos := h.page_pos
        page_lt := h.page_lt
        finiteX := h.finiteX
        finiteY := h.finiteY
        ordered := List.cons_ne_nil _ _
        sorters := Or.inl rfl }
  · rw [withDefault_of_ne_nil hsorters]
    exact
      { page_pos := h.page_pos
        page_lt := h.page_lt
        finiteX := h.finiteX
        finiteY := h.finiteY
        ordered := hsorters
        sorters := Or.inr h.named }

/-- **ANY TEXT SETTLES**: whatever a text holds and whatever the default sorter is, the state
    read from it has a page number from 1 that fits 64 bits, finite offsets and an order,
    which is the default one or names all of its columns; and that state is read from its
    own text as it is. -/
theorem any_text_settles (default : Sorter) (query : List Char) :
    let s := read default query
    Settled default s ∧ read default s.write = s := by
  intro s
  refine ⟨?_, read_write_read default query⟩
  exact (regular_getD_read? query).settled_withDefault default

/-- A text behind a target that carries a sort order with an empty piece, a selected row and
    two page numbers. -/
theorem any_text_settles_parameters :
    let default : Sorter := ⟨"size", .asc⟩
    let query := "list?page=3&sort=cost%3Anet:desc,,name&selected=b%2Fc&page=7&scrollY=12".toList
    let s : ListState := ⟨7, [⟨"cost:net", .desc⟩, ⟨"name", .asc⟩], some "b/c", .zero, .ofNat 12⟩
    read default query = s ∧ Settled default s ∧ read default s.write = s := by
  intro default query s
  have hread : read default query = s := by decide
  obtain ⟨hsettled, hagain⟩ := any_text_settles default query
  rw [hread] at hsettled hagain
  exact ⟨hread, hsettled, hagain⟩

-- malformed values, bytes that are no text, a repeated key, and a default without a column
example : read ⟨"", .asc⟩
    "list?page=9&page=-1&sort=a:up,%FF,:desc&&selected=%C3&scrollX=inf&scrollY=#x".toList
      = ⟨1, [⟨"", .asc⟩], none, .zero, .zero⟩ := by
  decide

end ListState

namespace NavigationLink

/-- **TARGETS** are read back part by part. -/
theorem readTarget_writeTarget (target : List Char) : readTarget (writeTarget target) = target := by
  have hsplit : (writeTarget target).splitOn '/' = (target.splitOn '/').map Percent.encode := by
    refine List.splitOn_intercalate '/' ?_ ?_
    · intro part hpart
      obtain ⟨plain, -, rfl⟩ := List.mem_map.mp hpart
      exact Percent.not_mem_encode (by decide) plain
    · rw [ne_eq, List.map_eq_nil_iff]
      exact List.splitOnP_ne_nil _ _
  have hpart : readPart ∘ Percent.encode = id := by
    funext part
    rw [Function.comp_apply, readPart, ListState.decodeValue?_encode, Option.getD_some, id]
  rw [readTarget, hsplit, List.map_map, hpart, List.map_id]
  exact List.intercalate_splitOn '/'

/-- **URLS CARRY LINKS**: the target as it was, and the state as its query text has it. -/
theorem read_write (default : Sorter) (link : NavigationLink) :
    read default link.write = ⟨link.target, ListState.read default link.state.write⟩ := by
  rw [read, before_hash_write, cutFirst_question_write]
  dsimp only
  rw [Option.getD_some, readTarget_writeTarget, String.ofList_toList]

/-- **LINKS AND URLS**: every link is read from its URL with exactly its target, and with
    the state that its query text is read as.  So whatever a URL is, the link that it is
    read as comes back from the URL of that link. -/
theorem url_round_trip (default : Sorter) :
    (∀ target state,
        (read default (write ⟨target, state⟩)).target = target
          ∧ (read default (write ⟨target, state⟩)).state = ListState.read default state.write)
      ∧ ∀ url, read default (read default url).write = read default url := by
  constructor
  · intro target state
    rw [read_write]
    exact ⟨rfl, rfl⟩
  · intro url
    rw [read_write]
    obtain ⟨query, hquery⟩ : ∃ query, (read default url).state = ListState.read default query :=
      ⟨_, rfl⟩
    rw [hquery, ListState.read_write_read, ← hquery]

end NavigationLink

end FindingsBrowser
