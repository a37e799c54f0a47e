import FindingsBrowser.Proofs.Navigation.State
import Mathlib.Data.List.Induction
import Mathlib.Data.List.TakeWhile

/-! # Parameters — each field of a state is read from its own key

    A query text is a list of pairs.  Reading takes them in one after another and
    carries a whole state along, but each field depends on the pairs with its own key
    only.

    * `lastValue?` is what the last pair with a key holds, and `ofLastValues` the state
      whose fields are read from the last values of their keys, or are as in a fresh
      state.
    * `readPairs_eq` is the induction over the pairs: reading leads to that state, and
      to none exactly if no pair has a key of a state.
    * `readPairs_congr`: so only the pairs with a key of a state count, and of their
      order only that within each key. -/

namespace FindingsBrowser.ListState

open Text

/-! ## Keys and values -/

/-- The key of a pair: what stands before its first `=`, or all of it. -/
def keyOf (pair : List Char) : String :=
  String.ofList (pair.takeWhile (· ≠ '='))

/-- The value of a pair: what stands behind its first `=`, if there is one. -/
def valueOf (pair : List Char) : List Char :=
  (pair.dropWhile (· ≠ '=')).tail

/-- A pair is cut into its key and its value. -/
theorem cutPair_eq (pair : List Char) : cutPair pair = ((keyOf pair).toList, valueOf pair) := by
  rw [cutPair, keyOf, valueOf, String.toList_ofList]
  by_cases h : '=' ∈ pair
  · obtain ⟨key, value, rfl, hkey⟩ := List.eq_append_cons_of_mem h
    have hall : ∀ c ∈ key, decide (c ≠ '=') = true := by
      intro c hc
      exact decide_eq_true fun heq => hkey (heq ▸ hc)
    rw [cutFirst_append hkey, List.takeWhile_append_of_pos hall, List.dropWhile_append_of_pos hall]
    simp
  · have hall : ∀ c ∈ pair, decide (c ≠ '=') = true := by
      intro c hc
      exact decide_eq_true fun heq => h (heq ▸ hc)
    rw [cutFirst_eq_none h, List.takeWhile_eq_self_iff.mpr hall,
      List.dropWhile_eq_nil_iff.mpr hall]
    rfl

/-- The pairs with a key, in their order. -/
def withKey (key : String) (pairs : List (List Char)) : List (List Char) :=
  pairs.filter fun pair => keyOf pair = key

theorem mem_withKey {key : String} {pairs : List (List Char)} {pair : List Char} :
    pair ∈ withKey key pairs ↔ pair ∈ pairs ∧ keyOf pair = key := by
  rw [withKey, List.mem_filter, decide_eq_true_iff]

/-- Whether a pair has a key of a state. -/
def isParameter (pair : List Char) : Bool :=
  keyOf pair ∈ keys

/-- Leaving out pairs that are no parameters leaves the pairs with a key of a state. -/
theorem withKey_filter {p : List Char → Bool} (hp : ∀ pair, isParameter pair = true → p pair = true)
    {key : String} (hkey : key ∈ keys) (pairs : List (List Char)) :
    withKey key (pairs.filter p) = withKey key pairs := by
  rw [withKey, withKey, List.filter_filter]
  refine List.filter_congr fun pair _ => ?_
  by_cases h : keyOf pair = key
  · have hparameter : isParameter pair = true := by
      rw [isParameter, h]
      exact decide_eq_true hkey
    rw [hp pair hparameter, Bool.and_true]
  · rw [decide_eq_false h, Bool.false_and]

/-- What the last pair with a key holds. -/
def lastValue? (key : String) (pairs : List (List Char)) : Option (List Char) :=
  (withKey key pairs).getLast?.map valueOf

/-- One more pair replaces the last value of its own key. -/
theorem lastValue?_concat (key : String) (pairs : List (List Char)) (pair : List Char) :
    lastValue? key (pairs ++ [pair])
      = if keyOf pair = key then some (valueOf pair) else lastValue? key pairs := by
  rw [lastValue?, withKey, List.filter_append]
  by_cases h : keyOf pair = key
  · rw [if_pos h]
    simp [h]
  · rw [if_neg h]
    simp [h, lastValue?, withKey]

/-- A key that no pair has, has no last value. -/
theorem lastValue?_eq_none {key : String} {pairs : List (List Char)}
    (h : ∀ pair ∈ pairs, keyOf pair ≠ key) : lastValue? key pairs = none := by
  have hnil : withKey key pairs = [] :=
    List.filter_eq_nil_iff.mpr fun pair hpair hkey => h pair hpair (of_decide_eq_true hkey)
  rw [lastValue?, hnil]
  rfl

/-! ## The state of the last values -/

/-- The state whose fields are read from the last values of their keys; a field whose key
    no pair has is as in a fresh state. -/
def ofLastValues (pairs : List (List Char)) : ListState where
  page := ((lastValue? "page" pairs).map readPage).getD 1
  sorters := ((lastValue? "sort" pairs).map readSorters).getD []
  selected := (lastValue? "selected" pairs).bind fun value =>
    (decodeValue? value).map String.ofList
  scrollX := ((lastValue? "scrollX" pairs).map readOffset).getD .zero
  scrollY := ((lastValue? "scrollY" pairs).map readOffset).getD .zero

/-- That state depends on the last values of the keys of a state only. -/
theorem ofLastValues_congr {pairs others : List (List Char)}
    (h : ∀ key ∈ keys, lastValue? key others = lastValue? key pairs) :
    ofLastValues others = ofLastValues pairs := by
  rw [ofLastValues, h "page" (by decide), h "sort" (by decide), h "selected" (by decide),
    h "scrollX" (by decide), h "scrollY" (by decide)]
  rfl

/-- Without a parameter it is a fresh state. -/
theorem ofLastValues_of_foreign {pairs : List (List Char)}
    (h : ∀ pair ∈ pairs, keyOf pair ∉ keys) : ofLastValues pairs = {} := by
  have hfresh : ofLastValues [] = {} := rfl
  rw [← hfresh]
  refine ofLastValues_congr fun key hkey => lastValue?_eq_none fun pair hpair heq => ?_
  exact h pair hpair (heq ▸ hkey)

/-- A foreign pair leaves it. -/
theorem ofLastValues_concat_of_foreign (pairs : List (List Char)) {pair : List Char}
    (h : keyOf pair ∉ keys) : ofLastValues (pairs ++ [pair]) = ofLastValues pairs := by
  refine ofLastValues_congr fun key hkey => ?_
  rw [lastValue?_concat, if_neg]
  intro heq
  exact h (heq ▸ hkey)

/-- A pair with another key than those of a state is not taken in. -/
theorem setPair?_of_foreign {key : String} (h : key ∉ keys) (s : ListState)
    (value : List Char) : s.setPair? key value = none := by
  rw [setPair?.eq_def]
  split
  · exact absurd (by decide) h
  · exact absurd (by decide) h
  · exact absurd (by decide) h
  · exact absurd (by decide) h
  · exact absurd (by decide) h
  · rfl

/-- **A PARAMETER** replaces its own field, whatever its value, and leaves the others: the
    state of the last values becomes that of one pair more. -/
theorem setPair?_ofLastValues (pairs : List (List Char)) {pair : List Char}
    (h : keyOf pair ∈ keys) :
    (ofLastValues pairs).setPair? (keyOf pair) (valueOf pair)
      = some (ofLastValues (pairs ++ [pair])) := by
  simp only [keys, List.mem_cons, List.not_mem_nil, or_false] at h
  rw [ofLastValues, ofLastValues]
  simp only [lastValue?_concat]
  -- one case for each key, which decides the five conditions
  rcases h with h | h | h | h | h <;> rw [h] <;> rfl

/-! ## Reading the pairs -/

/-- **ONE PAIR** is taken in, or leaves what has been read. -/
theorem readPairs_singleton (s : Option ListState) (pair : List Char) :
    readPairs s [pair] = ((s.getD {}).setPair? (keyOf pair) (valueOf pair)).or s := by
  rw [readPairs, cutPair_eq]
  dsimp only
  rw [String.ofList_toList]
  cases (s.getD {}).setPair? (keyOf pair) (valueOf pair) with
  | none => rfl
  | some next => rfl

/-- **PAIRS, ONE AFTER ANOTHER**, lead to the state of the last values, or to none if all
    of them are foreign. -/
theorem readPairs_eq (pairs : List (List Char)) :
    readPairs none pairs
      = if ∃ pair ∈ pairs, keyOf pair ∈ keys then some (ofLastValues pairs) else none := by
  induction pairs using List.reverseRecOn with
  | nil => rfl
  | append_singleton pairs pair ih =>
      -- whether any pair has been known or not, the next one meets their last values
      have hstate : (readPairs none pairs).getD {} = ofLastValues pairs := by
        rw [ih]
        split
        · rfl
        · case _ hforeign =>
            rw [ofLastValues_of_foreign fun pair hpair hkey => hforeign ⟨pair, hpair, hkey⟩]
            rfl
      rw [readPairs_append, readPairs_singleton, hstate]
      by_cases h : keyOf pair ∈ keys
      · rw [setPair?_ofLastValues pairs h, Option.some_or, if_pos]
        exact ⟨pair, List.mem_append_right pairs List.mem_cons_self, h⟩
      · have hsame : (∃ p ∈ pairs ++ [pair], keyOf p ∈ keys) ↔ ∃ p ∈ pairs, keyOf p ∈ keys := by
          simp [or_and_right, exists_or, h]
        rw [setPair?_of_foreign h, Option.none_or, ih, ofLastValues_concat_of_foreign pairs h]
        simp only [hsame]

/-- There is a parameter exactly if a key of a state has pairs. -/
theorem exists_parameter_iff (pairs : List (List Char)) :
    (∃ pair ∈ pairs, keyOf pair ∈ keys) ↔ ∃ key ∈ keys, withKey key pairs ≠ [] := by
  constructor
  · rintro ⟨pair, hpair, hkey⟩
    exact ⟨keyOf pair, hkey, List.ne_nil_of_mem (mem_withKey.mpr ⟨hpair, rfl⟩)⟩
  · rintro ⟨key, hkey, hne⟩
    obtain ⟨pair, hmem⟩ := List.exists_mem_of_ne_nil _ hne
    obtain ⟨hpair, rfl⟩ := mem_withKey.mp hmem
    exact ⟨pair, hpair, hkey⟩

/-- **ONLY THE ORDER WITHIN EACH KEY COUNTS**: lists that have the same pairs with each
    key of a state, in the same order, are read alike. -/
theorem readPairs_congr {pairs others : List (List Char)}
    (h : ∀ key ∈ keys, withKey key others = withKey key pairs) :
    readPairs none others = readPairs none pairs := by
  have hstate : ofLastValues others = ofLastValues pairs := by
    refine ofLastValues_congr fun key hkey => ?_
    rw [lastValue?, h key hkey, lastValue?]
  have hknown : (∃ pair ∈ others, keyOf pair ∈ keys) ↔ ∃ pair ∈ pairs, keyOf pair ∈ keys := by
    rw [exists_parameter_iff, exists_parameter_iff]
    refine exists_congr fun key => and_congr_right fun hkey => ?_
    rw [h key hkey]
  rw [readPairs_eq, readPairs_eq, hstate]
  simp only [hknown]

/-! ## Query texts -/

/-- The query text of some pairs. -/
def joinPairs (pairs : List (List Char)) : List Char :=
  List.intercalate ['&'] pairs

/-- Whether a pair can stand in a query text: it holds no delimiter of one. -/
def Whole (pair : List Char) : Prop :=
  ∀ c ∈ queryDelimiters, c ∉ pair

-- through the delimiters; an inferred instance may go through all characters
instance (pair : List Char) : Decidable (Whole pair) :=
  List.decidableBAll (fun c => c ∉ pair) queryDelimiters

/-- **CUTTING** a joined text gives its pairs, without the empty ones. -/
theorem queryPairs_joinPairs {pairs : List (List Char)} (h : ∀ pair ∈ pairs, Whole pair) :
    queryPairs (joinPairs pairs) = pairs.filter fun pair => !pair.isEmpty := by
  have habsent : ∀ c ∈ queryDelimiters, c ≠ '&' → c ∉ joinPairs pairs := by
    intro c hc hne hmem
    rcases mem_intercalate hmem with heq | ⟨pair, hpair, hin⟩
    · exact hne heq
    · exact h pair hpair c hc hin
  rw [queryPairs_of_not_mem (habsent '#' (by decide) (by decide))
    (habsent '?' (by decide) (by decide)), splitPairs, joinPairs]
  cases pairs with
  | nil => rfl
  | cons first rest =>
      rw [List.splitOn_intercalate '&' (fun pair hpair => h pair hpair '&' (by decide))
        (List.cons_ne_nil first rest)]

/-- **JOINED PAIRS** are read one after another. -/
theorem read?_joinPairs {pairs : List (List Char)} (h : ∀ pair ∈ pairs, Whole pair) :
    read? (joinPairs pairs) = readPairs none pairs := by
  rw [read?, queryPairs_joinPairs h]
  refine readPairs_congr fun key hkey => withKey_filter (fun pair hpair => ?_) hkey pairs
  cases pair with
  | nil => exact absurd hpair (by decide)
  | cons c cs => rfl

/-- Pairs in another order, with the pairs of each key in the order they had. -/
structure Reordered (others pairs : List (List Char)) : Prop where
  perm : others.Perm pairs
  kept : ∀ pair ∈ pairs, withKey (keyOf pair) others = withKey (keyOf pair) pairs

/-- A reordering has the same pairs with each key, also with a key that no pair has. -/
theorem Reordered.withKey_eq {others pairs : List (List Char)} (h : Reordered others pairs)
    (key : String) : withKey key others = withKey key pairs := by
  by_cases hkey : ∃ pair ∈ pairs, keyOf pair = key
  · obtain ⟨pair, hpair, rfl⟩ := hkey
    exact h.kept pair hpair
  · have hnil : ∀ list : List (List Char), (∀ pair ∈ list, pair ∈ pairs) →
        withKey key list = [] := by
      intro list hlist
      refine List.eq_nil_iff_forall_not_mem.mpr fun pair hmem => ?_
      obtain ⟨hpair, heq⟩ := mem_withKey.mp hmem
      exact hkey ⟨pair, hlist pair hpair, heq⟩
    rw [hnil others fun pair hpair => h.perm.mem_iff.mp hpair, hnil pairs fun _ hpair => hpair]

/-- **PARAMETERS ARE READ BY KEY.**  Take any pairs that hold no delimiter of a query
    text, empty ones among them.  Their text carries a state exactly if one of them has a
    key of a state, and then each field is read from the last pair with its key alone, a
    malformed value meaning the default also behind a good one, and is as in a fresh
    state if there is none.  Reordering pairs with different keys changes nothing, and
    neither does putting in pairs, anywhere, that are empty or have other keys. -/
theorem parameters_read_by_key (pairs : List (List Char)) (h : ∀ pair ∈ pairs, Whole pair) :
    read? (joinPairs pairs)
        = (if ∃ pair ∈ pairs, keyOf pair ∈ keys then some (ofLastValues pairs) else none)
      ∧ (∀ others, Reordered others pairs → read? (joinPairs others) = read? (joinPairs pairs))
      ∧ ∀ others, (∀ pair ∈ others, Whole pair) →
          others.filter isParameter = pairs.filter isParameter →
          read? (joinPairs others) = read? (joinPairs pairs) := by
  refine ⟨?_, ?_, ?_⟩
  · rw [read?_joinPairs h, readPairs_eq]
  · intro others hothers
    have hwhole : ∀ pair ∈ others, Whole pair :=
      fun pair hpair => h pair (hothers.perm.mem_iff.mp hpair)
    rw [read?_joinPairs hwhole, read?_joinPairs h]
    exact readPairs_congr fun key _ => hothers.withKey_eq key
  · intro others hwhole hsame
    rw [read?_joinPairs hwhole, read?_joinPairs h]
    refine readPairs_congr fun key hkey => ?_
    calc withKey key others
        = withKey key (others.filter isParameter) := (withKey_filter (fun _ => id) hkey others).symm
      _ = withKey key (pairs.filter isParameter) := by rw [hsame]
      _ = withKey key pairs := withKey_filter (fun _ => id) hkey pairs

/-- A malformed page number behind a good one, an empty pair, a key without a value; the
    pairs of other keys in another order, and foreign keys between them, one of which is
    a key of a state in capitals. -/
theorem parameters_read_by_key_malformed :
    let pairs := ["page=3", "sort=ratio:desc,a:up", "", "page=x", "selected=a%26b=c",
      "scrollY"].map String.toList
    let others := ["selected=a%26b=c", "scrollY", "page=3", "", "page=x",
      "sort=ratio:desc,a:up"].map String.toList
    let more := ["", "page=3", "=7", "sort=ratio:desc,a:up", "page=x", "Page=9",
      "selected=a%26b=c", "scrollY", "scroll"].map String.toList
    (∀ pair ∈ pairs, Whole pair)
      ∧ read? (joinPairs pairs) = some ⟨1, [⟨"ratio", .desc⟩], some "a&b=c", .zero, .zero⟩
      ∧ read? (joinPairs others) = read? (joinPairs pairs)
      ∧ read? (joinPairs more) = read? (joinPairs pairs) := by
  intro pairs others more
  have hwhole : ∀ pair ∈ pairs, Whole pair := by decide
  obtain ⟨hstate, horder, hforeign⟩ := parameters_read_by_key pairs hwhole
  refine ⟨hwhole, hstate.trans (by decide), horder others ?_, ?_⟩
  · exact { perm := by decide, kept := by decide }
  · exact hforeign more (by decide) (by decide)

end FindingsBrowser.ListState
