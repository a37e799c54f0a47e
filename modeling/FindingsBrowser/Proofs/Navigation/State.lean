import FindingsBrowser.Navigation.State
import FindingsBrowser.Proofs.Binary64.Notation
import FindingsBrowser.Proofs.Table.Sorter
import FindingsBrowser.Proofs.Text.Natural

/-! # Navigation state — what the query text of a state reads back as

    A query text is cut five times: at `#` and `?`, at `&`, at the first `=` of
    a pair, at `,` and at the last `:` of a sort order.  No value is written with
    a delimiter of the cuts it goes through, so every cut finds exactly the
    joints that were written.

    * `queryPairs_write`: the pairs cut out are the pairs written;
    * `readSorters_writeSorters`: sorters come back, those without a column
      dropped;
    * `read?_write`: the state that any state reads back as. -/

namespace FindingsBrowser

open Text

/-- A digit is no delimiter. -/
theorem not_isDigit_of_mem_delimiters :
    ∀ c ∈ Percent.delimiters, c.isDigit = false ∧ c ≠ '.' ∧ c ≠ '-' :=
  Percent.forall_mem_of_all (by decide)

namespace ListState

/-! ## Values -/

/-- An encoded text is decoded again, since no `+` is written. -/
theorem decodeValue?_encode (s : List Char) : decodeValue? (Percent.encode s) = some s := by
  rw [decodeValue?, Percent.plusToSpace_of_not_mem (Percent.not_mem_encode (by decide) s),
    Percent.decode?_encode]

/-- A page number is read back. -/
theorem readPage_writeNatural {n : Nat} (hpos : 1 ≤ n) (h : n < wordLimit) :
    readPage (writeNatural n) = n := by
  rw [readPage, readNatural_writeNatural h, Option.getD_some, Nat.max_eq_left hpos]

theorem isFinite_finiteOrZero (x : Binary64) : x.finiteOrZero.isFinite = true := by
  rw [Binary64.finiteOrZero]
  split
  · case _ h => exact h
  · rfl

/-- What is true of digits, the point and the minus sign is true of the characters of
    a finite offset. -/
theorem all_plain {p : Char → Bool} (hdigit : ∀ c, c.isDigit = true → p c = true)
    (hpoint : p '.' = true) (hminus : p '-' = true) (x : Binary64) :
    x.finiteOrZero.plain.all p = true := by
  refine List.all_eq_true.mpr fun c hc => ?_
  rcases Binary64.mem_plain (isFinite_finiteOrZero x) hc with h | rfl | rfl
  · exact hdigit c h
  · exact hpoint
  · exact hminus

/-- A finite offset is read back. -/
theorem readOffset_plain (x : Binary64) : readOffset x.finiteOrZero.plain = x.finiteOrZero := by
  have hfin := isFinite_finiteOrZero x
  rw [readOffset, Binary64.read_plain hfin, Option.getD_some, Binary64.finiteOrZero, if_pos hfin]

/-! ## Sort orders -/

/-- One entry is read back, unless its column is empty. -/
theorem readSorter?_writeSorter (s : Sorter) :
    readSorter? (writeSorter s) = if s.column = "" then none else some s := by
  have hcolon : ':' ∉ s.direction.name.toList :=
    SortDirection.not_mem_name s.direction ':' (by decide)
  have hcolumn : String.ofList s.column.toList = s.column := String.ofList_toList
  rw [readSorter?, writeSorter, cutLast_append _ hcolon]
  simp only [SortDirection.read_name, Option.bind_eq_bind, Option.bind_some,
    decodeValue?_encode, hcolumn]
  by_cases hempty : s.column = ""
  · rw [if_pos hempty, hempty]
    rfl
  · have hne : s.column.toList.isEmpty = false := by
      rw [List.isEmpty_eq_false_iff]
      exact fun h => hempty (String.toList_eq_nil_iff.mp h)
    rw [if_neg hempty, hne]
    rfl

/-- No entry is written with a delimiter other than its colon. -/
theorem not_mem_writeSorter {c : Char} (hc : c ∈ Percent.delimiters) (hcolon : c ≠ ':')
    (s : Sorter) : c ∉ writeSorter s := by
  rw [writeSorter, List.mem_append, List.mem_cons]
  rintro (h | h | h)
  · exact Percent.not_mem_encode hc _ h
  · exact hcolon h
  · exact SortDirection.not_mem_name s.direction c hc h

/-- **SORT ORDERS** are read back without the entries that name no column. -/
theorem readSorters_writeSorters {sorters : List Sorter} (hne : sorters ≠ []) :
    readSorters (List.intercalate [','] (sorters.map writeSorter))
      = sorters.filter (fun s => s.column ≠ "") := by
  have hsplit : (List.intercalate [','] (sorters.map writeSorter)).splitOn ','
      = sorters.map writeSorter := by
    refine List.splitOn_intercalate ',' ?_ (fun h => hne (List.map_eq_nil_iff.mp h))
    intro piece hpiece
    obtain ⟨s, -, rfl⟩ := List.mem_map.mp hpiece
    exact not_mem_writeSorter (by decide) (by decide) s
  have hpiece : ∀ s : Sorter, (writeSorter s).isEmpty = false := by
    intro s
    rw [List.isEmpty_eq_false_iff, writeSorter]
    exact List.append_ne_nil_of_right_ne_nil _ (List.cons_ne_nil _ _)
  rw [readSorters, hsplit, List.filterMap_map]
  -- entry by entry, where an empty order is no exception
  clear hne hsplit
  induction sorters with
  | nil => rfl
  | cons s rest ih =>
      have hread : ((fun piece => if piece.isEmpty = true then none else readSorter? piece)
          ∘ writeSorter) s = if s.column = "" then none else some s := by
        show (if (writeSorter s).isEmpty = true then none else _) = _
        rw [hpiece s, readSorter?_writeSorter]
        rfl
      rw [List.filterMap_cons, hread, ih, List.filter_cons]
      by_cases hempty : s.column = ""
      · simp [hempty]
      · simp [hempty]

/-! ## Pairs -/

/-- The delimiters of a query text: around it and between its pairs. -/
def queryDelimiters : List Char := ['&', '?', '#']

theorem queryDelimiters_subset : ∀ c ∈ queryDelimiters, c ∈ Percent.delimiters :=
  Percent.forall_mem_of_all (by decide)

/-- The keys of a state. -/
def keys : List String := ["page", "sort", "selected", "scrollX", "scrollY"]

/-- No key is written with a delimiter. -/
theorem not_mem_key : ∀ key ∈ keys, ∀ c ∈ Percent.delimiters, c ∉ key.toList := by
  have hall : ∀ key ∈ keys,
      (Percent.delimiters.all fun c => decide (c ∉ key.toList)) = true := by
    decide
  intro key hkey
  exact Percent.forall_mem_of_all (hall key hkey)

/-- A pair of a known key holds no delimiter of the query if its value holds
    none. -/
theorem not_mem_writePair {key : String} (hkey : key ∈ keys) {c : Char}
    (hc : c ∈ queryDelimiters) {value : List Char} (hvalue : c ∉ value) :
    c ∉ writePair key value := by
  have heq : c ≠ '=' := by
    rintro rfl
    exact absurd hc (by decide)
  rw [writePair, List.mem_append, List.mem_cons]
  rintro (h | h | h)
  · exact not_mem_key key hkey c (queryDelimiters_subset c hc) h
  · exact heq h
  · exact hvalue h

/-- A number in digits holds no delimiter. -/
theorem not_mem_writeNatural {c : Char} (hc : c ∈ Percent.delimiters) (n : Nat) :
    c ∉ writeNatural n := by
  intro h
  have hdigit := isDigit_of_mem_writeNatural h
  rw [(not_isDigit_of_mem_delimiters c hc).1] at hdigit
  exact nomatch hdigit

/-- A finite offset holds no delimiter. -/
theorem not_mem_plain {c : Char} (hc : c ∈ Percent.delimiters) (x : Binary64) :
    c ∉ x.finiteOrZero.plain := by
  intro h
  obtain ⟨hdigit, hpoint, hminus⟩ := not_isDigit_of_mem_delimiters c hc
  rcases Binary64.mem_plain (isFinite_finiteOrZero x) h with h | h | h
  · rw [hdigit] at h
    exact nomatch h
  · exact hpoint h
  · exact hminus h

/-- A sort order holds no delimiter of the query. -/
theorem not_mem_writeSorters {c : Char} (hc : c ∈ queryDelimiters) (sorters : List Sorter) :
    c ∉ List.intercalate [','] (sorters.map writeSorter) := by
  intro h
  have hcomma : c ≠ ',' ∧ c ≠ ':' := by
    constructor <;> (rintro rfl; exact absurd hc (by decide))
  rcases mem_intercalate h with heq | ⟨piece, hpiece, hmem⟩
  · exact hcomma.1 heq
  · obtain ⟨s, -, rfl⟩ := List.mem_map.mp hpiece
    exact not_mem_writeSorter (queryDelimiters_subset c hc) hcomma.2 s hmem

/-- The pair of the sort order, if there is one. -/
def sortPairs (s : ListState) : List (List Char) :=
  if s.sorters.isEmpty then []
  else [writePair "sort" (List.intercalate [','] (s.sorters.map writeSorter))]

/-- The pair of the selected row, if there is one. -/
def selectedPairs (s : ListState) : List (List Char) :=
  match s.selected with
  | none => []
  | some row => [writePair "selected" (Percent.encode row.toList)]

theorem pairs_eq (s : ListState) :
    s.pairs = writePair "page" (writeNatural (max s.page 1)) ::
      (s.sortPairs ++ (s.selectedPairs
        ++ [writePair "scrollX" s.scrollX.finiteOrZero.plain,
          writePair "scrollY" s.scrollY.finiteOrZero.plain])) := by
  rw [pairs, List.append_assoc, List.append_assoc]
  rfl

/-- **PAIRS**: each is a known key with a value that the cuts of the query leave
    whole. -/
theorem exists_of_mem_pairs (s : ListState) : ∀ pair ∈ s.pairs, ∃ key ∈ keys, ∃ value,
    pair = writePair key value ∧ ∀ c ∈ queryDelimiters, c ∉ value := by
  intro pair hpair
  rw [pairs_eq] at hpair
  simp only [List.mem_cons, List.mem_append, List.not_mem_nil, or_false] at hpair
  rcases hpair with rfl | hsort | hselected | rfl | rfl
  · exact ⟨"page", by decide, _, rfl, fun c hc =>
      not_mem_writeNatural (queryDelimiters_subset c hc) _⟩
  · rw [sortPairs] at hsort
    split at hsort
    · exact absurd hsort List.not_mem_nil
    · exact ⟨"sort", by decide, _, List.mem_singleton.mp hsort, fun c hc =>
        not_mem_writeSorters hc _⟩
  · rw [selectedPairs] at hselected
    split at hselected
    · exact absurd hselected List.not_mem_nil
    · exact ⟨"selected", by decide, _, List.mem_singleton.mp hselected, fun c hc =>
        Percent.not_mem_encode (queryDelimiters_subset c hc) _⟩
  · exact ⟨"scrollX", by decide, _, rfl, fun c hc =>
      not_mem_plain (queryDelimiters_subset c hc) _⟩
  · exact ⟨"scrollY", by decide, _, rfl, fun c hc =>
      not_mem_plain (queryDelimiters_subset c hc) _⟩

/-- No pair holds a delimiter of the query. -/
theorem not_mem_pairs (s : ListState) {c : Char} (hc : c ∈ queryDelimiters) :
    ∀ pair ∈ s.pairs, c ∉ pair := by
  intro pair hpair
  obtain ⟨key, hkey, value, rfl, hvalue⟩ := exists_of_mem_pairs s pair hpair
  exact not_mem_writePair hkey hc (hvalue c hc)

/-- Pairs are not empty, since each has its `=`. -/
theorem isEmpty_of_mem_pairs (s : ListState) : ∀ pair ∈ s.pairs, pair.isEmpty = false := by
  intro pair hpair
  obtain ⟨key, -, value, rfl, -⟩ := exists_of_mem_pairs s pair hpair
  rw [List.isEmpty_eq_false_iff, writePair]
  exact List.append_ne_nil_of_right_ne_nil _ (List.cons_ne_nil _ _)

/-- The query text of a state holds neither `#` nor `?`. -/
theorem not_mem_write (s : ListState) {c : Char} (hc : c ∈ queryDelimiters) (hamp : c ≠ '&') :
    c ∉ s.write := by
  intro h
  rcases mem_intercalate h with heq | ⟨pair, hpair, hmem⟩
  · exact hamp heq
  · exact not_mem_pairs s hc pair hpair hmem

/-- The pairs of a query that has been cut out of its URL. -/
def splitPairs (query : List Char) : List (List Char) :=
  (query.splitOn '&').filter fun pair => !pair.isEmpty

/-- **CUTTING INVERTS JOINING**: the pairs of a query text are those written. -/
theorem splitPairs_write (s : ListState) : splitPairs s.write = s.pairs := by
  have hne : s.pairs ≠ [] := by
    rw [pairs_eq]
    exact List.cons_ne_nil _ _
  have hsplit : s.write.splitOn '&' = s.pairs :=
    List.splitOn_intercalate '&' (not_mem_pairs s (by decide)) hne
  rw [splitPairs, hsplit, List.filter_eq_self]
  intro pair hpair
  rw [isEmpty_of_mem_pairs s pair hpair]
  rfl

/-- A text with neither `#` nor `?` is cut into its pairs. -/
theorem queryPairs_of_not_mem {query : List Char} (hhash : '#' ∉ query)
    (hquestion : '?' ∉ query) : queryPairs query = splitPairs query := by
  rw [queryPairs, before_eq_self hhash, cutFirst_eq_none hquestion]
  rfl

theorem queryPairs_write (s : ListState) : queryPairs s.write = s.pairs := by
  have hhash : '#' ∉ s.write := not_mem_write s (by decide) (by decide)
  have hquestion : '?' ∉ s.write := not_mem_write s (by decide) (by decide)
  rw [queryPairs_of_not_mem hhash hquestion, splitPairs_write]

/-! ## Reading a state -/

/-- Pairs are taken in one after another. -/
theorem readPairs_append (a b : List (List Char)) :
    ∀ s, readPairs s (a ++ b) = readPairs (readPairs s a) b := by
  induction a with
  | nil => intro s; rfl
  | cons pair rest ih =>
      intro s
      rw [List.cons_append, readPairs, readPairs]
      dsimp only
      split
      · exact ih _
      · exact ih _

/-- **ONE PAIR** of a known key is taken in by its key. -/
theorem readPairs_writePair {key : String} (hkey : key ∈ keys) (s : Option ListState)
    (value : List Char) {next : ListState}
    (hset : (s.getD {}).setPair? key value = some next) (rest : List (List Char)) :
    readPairs s (writePair key value :: rest) = readPairs (some next) rest := by
  have hcut : cutPair (writePair key value) = (key.toList, value) := by
    rw [cutPair, writePair, cutFirst_append (not_mem_key key hkey '=' (by decide))]
    rfl
  rw [readPairs, hcut]
  dsimp only
  rw [String.ofList_toList, hset]

/-- **INVARIANTS**: what every pair that is taken in keeps holds of whatever is read from
    pairs. -/
theorem readPairs_keeps (P : ListState → Prop)
    (hset : ∀ s key value next, setPair? s key value = some next → P s → P next)
    (pairs : List (List Char)) :
    ∀ start : Option ListState, P (start.getD {}) → P ((readPairs start pairs).getD {}) := by
  induction pairs with
  | nil => intro start h; exact h
  | cons pair rest ih =>
      intro start h
      rw [readPairs]
      dsimp only
      split
      · case _ next hnext => exact ih (some next) (hset _ _ _ next hnext h)
      · exact ih start h

/-- A state as reading makes it: the page number is a positive word, the sorters name
    their columns and the offsets are finite. -/
structure Regular (s : ListState) : Prop where
  page_pos : 1 ≤ s.page
  page_lt : s.page < wordLimit
  named : ∀ sorter ∈ s.sorters, sorter.column ≠ ""
  finiteX : s.scrollX.isFinite = true
  finiteY : s.scrollY.isFinite = true

/-- Whatever is written, the page number read from it is a positive word. -/
theorem readPage_bounds (value : List Char) : 1 ≤ readPage value ∧ readPage value < wordLimit := by
  have hone : 1 < wordLimit := by decide
  refine ⟨Nat.le_max_right _ _, max_lt ?_ hone⟩
  cases h : readNatural wordLimit value with
  | none => exact hone
  | some n => exact lt_of_readNatural h

/-- No sorter is read without a column. -/
theorem column_ne_of_readSorter? {piece : List Char} {s : Sorter} (h : readSorter? piece = some s) :
    s.column ≠ "" := by
  -- the column is decoded alike with and without a direction behind it
  have hdecoded : ∀ (column : List Char) (direction : SortDirection),
      ((decodeValue? column).bind fun column =>
        if column.isEmpty = true then none else some ⟨String.ofList column, direction⟩) = some s →
      s.column ≠ "" := by
    intro column direction hread
    obtain ⟨decoded, -, hread⟩ := Option.bind_eq_some_iff.mp hread
    split at hread
    · exact nomatch hread
    · case _ hne =>
        obtain rfl := Option.some.inj hread
        exact ofList_ne_empty fun hnil => hne (List.isEmpty_iff.mpr hnil)
  rw [readSorter?] at h
  split at h
  · exact hdecoded _ _ h
  · split at h
    · exact hdecoded _ _ h
    · exact nomatch h

theorem named_readSorters (value : List Char) :
    ∀ sorter ∈ readSorters value, sorter.column ≠ "" := by
  intro sorter hmem
  obtain ⟨piece, -, hpiece⟩ := List.mem_filterMap.mp hmem
  split at hpiece
  · exact nomatch hpiece
  · exact column_ne_of_readSorter? hpiece

/-- **ONE PAIR** leaves a state regular, whatever its value. -/
theorem Regular.setPair? {s next : ListState} {key : String} {value : List Char}
    (hs : s.Regular) (h : s.setPair? key value = some next) : next.Regular := by
  rw [setPair?.eq_def] at h
  split at h
  · cases h
    exact { hs with page_pos := (readPage_bounds value).1, page_lt := (readPage_bounds value).2 }
  · cases h
    exact { hs with named := named_readSorters value }
  · cases h
    exact { hs with }
  · cases h
    exact { hs with finiteX := isFinite_finiteOrZero _ }
  · cases h
    exact { hs with finiteY := isFinite_finiteOrZero _ }
  · exact nomatch h

/-- **WHATEVER A TEXT HOLDS**, the state read from it is regular; so is the fresh state that
    stands in for a text without a key. -/
theorem regular_getD_read? (query : List Char) : ((read? query).getD {}).Regular := by
  refine readPairs_keeps Regular (fun _ _ _ _ h hs => hs.setPair? h) (queryPairs query) none ?_
  exact ⟨Nat.le_refl 1, by decide, fun _ hmem => absurd hmem List.not_mem_nil, rfl, rfl⟩

theorem regular_of_read? {query : List Char} {s : ListState} (h : read? query = some s) :
    s.Regular := by
  have hregular := regular_getD_read? query
  rwa [h] at hregular

/-- The entries of a sort order that name a column. -/
def namedSorters (s : ListState) : List Sorter :=
  s.sorters.filter (fun sorter => sorter.column ≠ "")

/-- The pair of a sort order, if there is one, is taken in by a state without
    one. -/
theorem readPairs_sortPairs (s t : ListState) (ht : t.sorters = []) :
    readPairs (some t) s.sortPairs = some { t with sorters := s.namedSorters } := by
  rw [sortPairs, namedSorters]
  cases hsorters : s.sorters with
  | nil =>
      show some t = some { t with sorters := [] }
      rw [← ht]
  | cons first rest =>
      have hne : first :: rest ≠ [] := List.cons_ne_nil _ _
      refine (readPairs_writePair (by decide) _ _ rfl []).trans ?_
      rw [readSorters_writeSorters hne]
      rfl

/-- The pair of a selected row, if there is one, is taken in by a state without
    one. -/
theorem readPairs_selectedPairs (s t : ListState) (ht : t.selected = none) :
    readPairs (some t) s.selectedPairs = some { t with selected := s.selected } := by
  rw [selectedPairs]
  cases hselected : s.selected with
  | none =>
      show some t = some { t with selected := none }
      rw [← ht]
  | some row =>
      refine (readPairs_writePair (by decide) _ _ rfl []).trans ?_
      rw [decodeValue?_encode, Option.map_some, String.ofList_toList]
      rfl

/-- **THE STATE THAT COMES BACK**, before a missing sort order is replaced. -/
theorem read?_write (s : ListState) (hpage : s.page < wordLimit) :
    read? s.write = some
      { page := max s.page 1
        sorters := s.namedSorters
        selected := s.selected
        scrollX := s.scrollX.finiteOrZero
        scrollY := s.scrollY.finiteOrZero } := by
  -- a page number of 0 is written as 1, which is below the limit too
  have hone : 1 < wordLimit := by decide
  have hmax : max s.page 1 < wordLimit := max_lt hpage hone
  rw [read?, queryPairs_write, pairs_eq, readPairs_writePair (by decide) _ _ rfl,
    readPairs_append, readPairs_sortPairs s _ rfl, readPairs_append,
    readPairs_selectedPairs s _ rfl, readPairs_writePair (by decide) _ _ rfl,
    readPairs_writePair (by decide) _ _ rfl, readPairs]
  simp only [Option.getD_some, readOffset_plain,
    readPage_writeNatural (le_max_right _ _) hmax]

/-- A state with a page number and finite offsets comes back with its sorters that name a
    column. -/
theorem read?_write_of_finite {s : ListState} (hpage : s.page < wordLimit) (hpos : 1 ≤ s.page)
    (hx : s.scrollX.isFinite = true) (hy : s.scrollY.isFinite = true) :
    read? s.write = some { s with sorters := s.namedSorters } := by
  rw [read?_write s hpage, max_eq_left hpos, Binary64.finiteOrZero, if_pos hx,
    Binary64.finiteOrZero, if_pos hy]

/-- A state with named columns, a page number and finite offsets comes back as it
    is. -/
theorem read?_write_of_regular {s : ListState} (hpage : s.page < wordLimit)
    (hpos : 1 ≤ s.page) (hsorters : ∀ sorter ∈ s.sorters, sorter.column ≠ "")
    (hx : s.scrollX.isFinite = true) (hy : s.scrollY.isFinite = true) :
    read? s.write = some s := by
  have hnamed : s.namedSorters = s.sorters :=
    List.filter_eq_self.mpr fun sorter h => decide_eq_true (hsorters sorter h)
  rw [read?_write_of_finite hpage hpos hx hy, hnamed]

/-- **QUERY TEXTS, TOTAL FORM**: whatever the columns, the selected row and the
    offsets are, a state with a page number of 64 bits reads back with that number
    or 1 for 0, without the sorters that name no column, under the default order if
    none remains, and with 0 for an offset that is not finite.  So a state that
    needs none of this only takes on the default order. -/
theorem query_text_round_trip (default : Sorter) (s : ListState) (hpage : s.page < wordLimit) :
    read default s.write
        = { page := max s.page 1
            sorters := if s.namedSorters.isEmpty then [default] else s.namedSorters
            selected := s.selected
            scrollX := s.scrollX.finiteOrZero
            scrollY := s.scrollY.finiteOrZero }
      ∧ (1 ≤ s.page → (∀ sorter ∈ s.sorters, sorter.column ≠ "") →
          s.scrollX.isFinite = true → s.scrollY.isFinite = true →
          read default s.write = s.withDefault default) := by
  constructor
  · rw [read, read?_write s hpage, Option.getD_some, withDefault]
    split
    · rfl
    · rfl
  · intro hpos hsorters hx hy
    rw [read, read?_write_of_regular hpage hpos hsorters hx hy, Option.getD_some]

/-- Delimiters in a column, an empty column, an empty row name, a page number 0 and
    an infinite offset; and `-0` with the smallest positive number, which stay. -/
theorem query_text_round_trip_delimiters :
    read ⟨"ratio", .asc⟩
        (write ⟨0, [⟨"a:b,c&d=e?f#g+h%2B/é", .desc⟩, ⟨"", .asc⟩], some "", .infinity, .zero⟩)
      = ⟨1, [⟨"a:b,c&d=e?f#g+h%2B/é", .desc⟩], some "", .zero, .zero⟩
    ∧ read ⟨"ratio", .asc⟩ (write ⟨7, [], some "recipe 日本+1", ⟨true, 0⟩, ⟨false, 1⟩⟩)
      = ⟨7, [⟨"ratio", .asc⟩], some "recipe 日本+1", ⟨true, 0⟩, ⟨false, 1⟩⟩ :=
  ⟨(query_text_round_trip _ _ (by decide)).1,
    (query_text_round_trip _ _ (by decide)).2 (by decide) (by decide) (by decide) (by decide)⟩

end ListState

end FindingsBrowser
