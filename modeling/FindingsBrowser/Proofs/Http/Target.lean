import FindingsBrowser.Http.Target
import FindingsBrowser.Proofs.Navigation.State

/-! # Request targets — a list state behind a path

    The query text of a list state is written with characters of a query only.  So a
    path, a `?` and such a text make a URI, and the server takes it apart where it was
    put together. -/

namespace FindingsBrowser.Http.Target

open Text

/-! ## Characters -/

theorem isQueryChar_of_isDigit (c : Char) (h : c.isDigit = true) : isQueryChar c = true := by
  obtain ⟨hlow, hhigh⟩ := toNat_of_isDigit h
  simp only [isQueryChar, Bool.or_eq_true, Bool.and_eq_true, decide_eq_true_eq]
  exact Or.inl (Or.inl (Or.inr ⟨by omega, by omega⟩))

theorem isQueryChar_encode (s : List Char) : (Percent.encode s).all isQueryChar = true :=
  Percent.all_encode (by decide +kernel) s

theorem isQueryChar_writeSorter (s : Sorter) :
    (ListState.writeSorter s).all isQueryChar = true := by
  have hdirection : (':' :: s.direction.name.toList).all isQueryChar = true := by
    cases s.direction with
    | asc => decide
    | desc => decide
  rw [ListState.writeSorter, List.all_append, isQueryChar_encode, hdirection]
  rfl

/-- A pair of a known key holds what its value holds. -/
theorem isQueryChar_writePair {key : String} (hkey : key ∈ ListState.keys) {value : List Char}
    (h : value.all isQueryChar = true) :
    (ListState.writePair key value).all isQueryChar = true := by
  have hkeys : ∀ key ∈ ListState.keys, (key.toList ++ ['=']).all isQueryChar = true := by decide
  rw [ListState.writePair, List.append_cons, List.all_append, hkeys key hkey, h]
  rfl

/-- **QUERY TEXTS** of states hold characters of a query only. -/
theorem isQueryChar_write (s : ListState) : s.write.all isQueryChar = true := by
  refine all_intercalate rfl fun pair hpair => ?_
  rw [ListState.pairs_eq] at hpair
  simp only [List.mem_cons, List.mem_append, List.not_mem_nil, or_false] at hpair
  rcases hpair with rfl | hsort | hselected | rfl | rfl
  · exact isQueryChar_writePair (by decide) (all_writeNatural isQueryChar_of_isDigit _)
  · rw [ListState.sortPairs] at hsort
    split at hsort
    · exact absurd hsort List.not_mem_nil
    · rw [List.mem_singleton.mp hsort]
      refine isQueryChar_writePair (by decide) (all_intercalate rfl fun piece hpiece => ?_)
      obtain ⟨sorter, -, rfl⟩ := List.mem_map.mp hpiece
      exact isQueryChar_writeSorter sorter
  · rw [ListState.selectedPairs] at hselected
    split at hselected
    · exact absurd hselected List.not_mem_nil
    · rw [List.mem_singleton.mp hselected]
      exact isQueryChar_writePair (by decide) (isQueryChar_encode _)
  · exact isQueryChar_writePair (by decide) (ListState.all_plain isQueryChar_of_isDigit rfl rfl _)
  · exact isQueryChar_writePair (by decide) (ListState.all_plain isQueryChar_of_isDigit rfl rfl _)

/-! ## Targets -/

/-- A path and a query are found again in their URI. -/
theorem ofPath?_append {path query : List Char} (hne : path ≠ [])
    (hpath : path.all isPathChar = true) (hquery : query.all isQueryChar = true) :
    ofPath? (path ++ '?' :: query) = some ⟨path, some query⟩ := by
  have hquestion : '?' ∉ path := fun hmem =>
    absurd (List.all_eq_true.mp hpath '?' hmem) (by decide)
  have hhash : '#' ∉ path ++ '?' :: query := by
    rw [List.mem_append, List.mem_cons]
    rintro (hmem | heq | hmem)
    · exact absurd (List.all_eq_true.mp hpath '#' hmem) (by decide)
    · exact absurd heq (by decide)
    · exact absurd (List.all_eq_true.mp hquery '#' hmem) (by decide)
  have hempty : path.isEmpty = false := List.isEmpty_eq_false_iff.mpr hne
  rw [ofPath?, before_eq_self hhash, cutFirst_append hquestion]
  dsimp only
  rw [Option.getD_some, hpath, hquery, hempty]
  rfl

/-- **A URI** of a path with a query that is not too long names both. -/
theorem read?_append {path query : List Char} (hpath : ('/' :: path).all isPathChar = true)
    (hquery : query.all isQueryChar = true)
    (hlength : (Utf8.encode ('/' :: path ++ '?' :: query)).length ≤ maxLength) :
    read? ('/' :: path ++ '?' :: query) = some ⟨'/' :: path, some query⟩ := by
  rw [read?.eq_def, if_neg (Nat.not_lt.mpr hlength)]
  exact ofPath?_append (List.cons_ne_nil _ _) hpath hquery

end FindingsBrowser.Http.Target
