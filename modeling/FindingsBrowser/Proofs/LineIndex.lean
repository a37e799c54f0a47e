import FindingsBrowser.LineIndex
import Mathlib.Data.Set.Card
import Mathlib.Order.Interval.Finset.Nat

/-! # Line index — a look-up is a filter of the supplied findings

    * `LineSpan.mem_lines` and `mem_filedLines` say which lines a finding is
      filed under;
    * `slotsAt_index` says which positions a line holds once everything is
      filed, by induction on the findings;
    * `query_index` reads the positions back: a query answers the filter of the
      supplied list, in supply order;
    * `encard_known` counts the lines through the keys of the map. So the scan
      says everything about an index. -/

namespace FindingsBrowser

/-- The lines of a span are those it contains. -/
theorem LineSpan.mem_lines (s : LineSpan) (line : Nat) :
    line ∈ s.lines ↔ s.contains line = true := by
  simp only [LineSpan.lines, LineSpan.contains, List.mem_range'_1,
    Bool.and_eq_true, decide_eq_true_eq]
  omega

/-- The lines of a span come in ascending order. -/
theorem LineSpan.pairwise_lines (s : LineSpan) : s.lines.Pairwise (· < ·) :=
  List.pairwise_lt_range'

/-- The lines of a span within a document are the document's lines in it. -/
theorem LineSpan.contains_clampTo (s : LineSpan) (count line : Nat) :
    (s.clampTo count).contains line = true
      ↔ s.contains line = true ∧ 1 ≤ line ∧ line ≤ count := by
  show (decide (max s.first 1 ≤ line) && decide (line ≤ min s.last count)) = true ↔ _
  simp only [LineSpan.contains, Bool.and_eq_true, decide_eq_true_eq]
  omega

namespace LineIndex

/-! ## Filing one finding -/

/-- Whether an index bounded this way covers a line. -/
def covers (bound : Option Nat) (line : Nat) : Prop :=
  ∀ count ∈ bound, 1 ≤ line ∧ line ≤ count

theorem covers_none (line : Nat) : covers none line :=
  fun _ h => nomatch h

theorem covers_some {count line : Nat} :
    covers (some count) line ↔ 1 ≤ line ∧ line ≤ count := by
  constructor
  · intro h
    exact h count rfl
  · intro h c hc
    obtain rfl : count = c := Option.some.inj hc
    exact h

/-- A finding is filed under the covered lines that it touches. -/
theorem mem_filedLines (bound : Option Nat) (f : Finding) (line : Nat) :
    line ∈ filedLines bound f ↔ f.touches line = true ∧ covers bound line := by
  cases bound with
  | none =>
      rw [filedLines, LineSpan.mem_lines, Finding.touches]
      exact (and_iff_left (covers_none line)).symm
  | some count =>
      rw [filedLines, LineSpan.mem_lines, LineSpan.contains_clampTo, covers_some,
        Finding.touches]

theorem nodup_filedLines (bound : Option Nat) (f : Finding) :
    (filedLines bound f).Nodup := by
  cases bound with
  | none => exact List.nodup_range'
  | some count => exact List.nodup_range'

/-- Filing adds one position to one line. -/
theorem getD_file (slot : Nat) (slots : Std.HashMap Nat (List Nat))
    (under line : Nat) :
    (file slot slots under).getD line []
      = slots.getD line [] ++ if under = line then [slot] else [] := by
  rw [file, Std.HashMap.getD_insert]
  by_cases h : under = line
  · subst h
    rw [if_pos (beq_self_eq_true under), if_pos rfl]
  · rw [if_neg (by rw [beq_iff_eq]; exact h), if_neg h, List.append_nil]

/-- Filing under several lines adds the position to each of them. -/
theorem getD_foldl_file (slot line : Nat) (ls : List Nat) (hls : ls.Nodup) :
    ∀ slots : Std.HashMap Nat (List Nat),
      (ls.foldl (file slot) slots).getD line []
        = slots.getD line [] ++ if line ∈ ls then [slot] else [] := by
  induction ls with
  | nil =>
      intro slots
      rw [List.foldl_nil, if_neg List.not_mem_nil, List.append_nil]
  | cons l ls ih =>
      intro slots
      obtain ⟨hl, hls⟩ := List.nodup_cons.mp hls
      rw [List.foldl_cons, ih hls, getD_file, List.append_assoc]
      by_cases h : l = line
      · subst h
        rw [if_pos rfl, if_neg hl, if_pos List.mem_cons_self, List.append_nil]
      · have hmem : line ∈ l :: ls ↔ line ∈ ls := by
          rw [List.mem_cons]
          exact ⟨fun hor => hor.resolve_left (Ne.symm h), Or.inr⟩
        simp only [if_neg h, List.nil_append, hmem]

theorem contains_foldl_file (slot line : Nat) (ls : List Nat) :
    ∀ slots : Std.HashMap Nat (List Nat),
      (ls.foldl (file slot) slots).contains line = true
        ↔ slots.contains line = true ∨ line ∈ ls := by
  induction ls with
  | nil =>
      intro slots
      simp only [List.foldl_nil, List.not_mem_nil, or_false]
  | cons l ls ih =>
      intro slots
      rw [List.foldl_cons, ih, file, Std.HashMap.contains_insert,
        Bool.or_eq_true, beq_iff_eq, List.mem_cons]
      constructor
      · rintro ((rfl | h) | h)
        · exact Or.inr (Or.inl rfl)
        · exact Or.inl h
        · exact Or.inr (Or.inr h)
      · rintro (h | rfl | h)
        · exact Or.inl (Or.inr h)
        · exact Or.inl (Or.inl rfl)
        · exact Or.inr h

/-! ## Filing all findings -/

/-- The positions, from `slot` on, of the findings that are filed under a
    line. -/
def filedSlots (bound : Option Nat) (line : Nat) : Nat → List Finding → List Nat
  | _, [] => []
  | slot, f :: fs =>
      (if line ∈ filedLines bound f then [slot] else [])
        ++ filedSlots bound line (slot + 1) fs

/-- After filing a list, a line holds what it held and the positions of the
    list's findings that are filed under it. -/
theorem getD_fileAll (bound : Option Nat) (line : Nat) (fs : List Finding) :
    ∀ (slot : Nat) (slots : Std.HashMap Nat (List Nat)),
      (fileAll bound slot fs slots).getD line []
        = slots.getD line [] ++ filedSlots bound line slot fs := by
  induction fs with
  | nil =>
      intro slot slots
      rw [fileAll, filedSlots, List.append_nil]
  | cons f fs ih =>
      intro slot slots
      rw [fileAll, ih, getD_foldl_file _ _ _ (nodup_filedLines bound f),
        filedSlots, List.append_assoc]

theorem contains_fileAll (bound : Option Nat) (line : Nat) (fs : List Finding) :
    ∀ (slot : Nat) (slots : Std.HashMap Nat (List Nat)),
      (fileAll bound slot fs slots).contains line = true
        ↔ slots.contains line = true ∨ ∃ f ∈ fs, line ∈ filedLines bound f := by
  induction fs with
  | nil =>
      intro slot slots
      rw [fileAll]
      exact ⟨Or.inl, fun h => h.resolve_right fun ⟨f, hf, _⟩ => nomatch hf⟩
  | cons f fs ih =>
      intro slot slots
      rw [fileAll, ih, contains_foldl_file, or_assoc]
      constructor
      · rintro (h | h | ⟨g, hg, hl⟩)
        · exact Or.inl h
        · exact Or.inr ⟨f, List.mem_cons_self, h⟩
        · exact Or.inr ⟨g, List.mem_cons_of_mem f hg, hl⟩
      · rintro (h | ⟨g, hg, hl⟩)
        · exact Or.inl h
        · rcases List.mem_cons.mp hg with rfl | hmem
          · exact Or.inr (Or.inl hl)
          · exact Or.inr (Or.inr ⟨g, hmem, hl⟩)

/-- The positions that a line holds in an index. -/
theorem slotsAt_index (bound : Option Nat) (findings : List Finding) (line : Nat) :
    (index bound findings).slotsAt line = filedSlots bound line 0 findings := by
  show (fileAll bound 0 findings ∅).getD line [] = filedSlots bound line 0 findings
  rw [getD_fileAll, Std.HashMap.getD_empty, List.nil_append]

/-! ## Queries -/

/-- Reading the positions of a list's findings behind `done` gives the findings
    themselves. -/
theorem filterMap_filedSlots (bound : Option Nat) (line : Nat)
    (fs : List Finding) :
    ∀ done : List Finding,
      (filedSlots bound line done.length fs).filterMap
          (fun slot => (done ++ fs).toArray[slot]?)
        = fs.filter fun f => line ∈ filedLines bound f := by
  induction fs with
  | nil =>
      intro done
      rfl
  | cons f fs ih =>
      intro done
      have hrest := ih (done ++ [f])
      rw [List.length_append, List.length_singleton, List.append_assoc,
        List.singleton_append] at hrest
      have hhead : (done ++ f :: fs).toArray[done.length]? = some f := by simp
      rw [filedSlots, List.filterMap_append, hrest]
      by_cases h : line ∈ filedLines bound f
      · rw [if_pos h, List.filter_cons_of_pos (by simpa using h)]
        simp only [List.filterMap_cons, hhead, List.filterMap_nil,
          List.singleton_append]
      · rw [if_neg h, List.filter_cons_of_neg (by simpa using h),
          List.filterMap_nil, List.nil_append]

/-- A query answers the findings filed under the line, in supply order. -/
theorem query_index (bound : Option Nat) (findings : List Finding) (line : Nat) :
    (index bound findings).query line
      = findings.filter fun f => line ∈ filedLines bound f := by
  rw [query, slotsAt_index]
  exact filterMap_filedSlots bound line findings []

/-- A line is known to an index exactly if a query for it answers anything. -/
theorem hasFindingsAt_index (bound : Option Nat) (findings : List Finding)
    (line : Nat) :
    (index bound findings).hasFindingsAt line = true
      ↔ (index bound findings).query line ≠ [] := by
  rw [query_index, ne_eq, List.filter_eq_nil_iff, Classical.not_forall]
  show (fileAll bound 0 findings ∅).contains line = true ↔ _
  rw [contains_fileAll, Std.HashMap.contains_empty]
  constructor
  · rintro (h | ⟨f, hf, hl⟩)
    · exact nomatch h
    · exact ⟨f, fun hno => hno hf (by simpa using hl)⟩
  · rintro ⟨f, hf⟩
    obtain ⟨hmem, hl⟩ := Classical.not_imp.mp hf
    exact Or.inr ⟨f, hmem, by simpa using hl⟩

/-- On a line that it covers, an index answers what touches the line. -/
theorem query_of_covers (findings : List Finding) {bound : Option Nat} {line : Nat}
    (h : covers bound line) :
    (index bound findings).query line = findings.filter (·.touches line) := by
  rw [query_index]
  refine List.filter_congr fun f _ => ?_
  rw [Bool.eq_iff_iff, decide_eq_true_eq, mem_filedLines]
  exact and_iff_left h

/-- On any other line, an index answers nothing. -/
theorem query_of_not_covers (findings : List Finding) {bound : Option Nat}
    {line : Nat} (h : ¬covers bound line) :
    (index bound findings).query line = [] := by
  rw [query_index, List.filter_eq_nil_iff]
  intro f _ hf
  rw [decide_eq_true_eq, mem_filedLines] at hf
  exact h hf.2

/-- On a line of the document, a bounded index answers what touches the line. -/
theorem query_buildWithin_of_mem (findings : List Finding) {count line : Nat}
    (h : 1 ≤ line ∧ line ≤ count) :
    (buildWithin findings count).query line
      = findings.filter (·.touches line) :=
  query_of_covers findings (covers_some.mpr h)

/-- Outside the document, a bounded index answers nothing. -/
theorem query_buildWithin_of_not_mem (findings : List Finding) {count line : Nat}
    (h : ¬(1 ≤ line ∧ line ≤ count)) :
    (buildWithin findings count).query line = [] :=
  query_of_not_covers findings fun hcov => h (covers_some.mp hcov)

/-! ## The lines of an index -/

/-- An index says how many lines it knows. -/
theorem encard_known (ix : LineIndex) :
    {line | ix.hasFindingsAt line = true}.encard = ix.indexedLines := by
  have hkeys : {line | ix.hasFindingsAt line = true}
      = (ix.slots.keys.toFinset : Set Nat) := by
    ext line
    rw [List.coe_toFinset, Set.mem_ofPred_eq, Set.mem_ofPred_eq, Std.HashMap.mem_keys]
    exact Std.HashMap.contains_iff_mem
  rw [hkeys, Set.encard_coe_eq_coe_finsetCard,
    List.toFinset_card_of_nodup Std.HashMap.nodup_keys, Std.HashMap.length_keys]
  rfl

/-- The lines for which an index answers anything are those it counts. -/
theorem encard_query (bound : Option Nat) (findings : List Finding) :
    {line | (index bound findings).query line ≠ []}.encard
      = (index bound findings).indexedLines := by
  rw [← encard_known]
  congr 1
  ext line
  exact (hasFindingsAt_index bound findings line).symm

/-- A bounded index knows at most the lines of the document. -/
theorem indexedLines_buildWithin_le (findings : List Finding) (count : Nat) :
    (buildWithin findings count).indexedLines ≤ count := by
  have hsub : {line | (buildWithin findings count).query line ≠ []}
      ⊆ (Finset.Icc 1 count : Set Nat) := by
    intro line hline
    rw [Finset.mem_coe, Finset.mem_Icc]
    by_contra hout
    exact hline (query_buildWithin_of_not_mem findings hout)
  have hcard := Set.encard_le_encard hsub
  rw [buildWithin, encard_query, Set.encard_coe_eq_coe_finsetCard, Nat.card_Icc,
    Nat.add_sub_cancel] at hcard
  exact_mod_cast hcard

/-- **A LOOK-UP IS A SCAN.** A query answers the findings that touch the line, in
    supply order and as often as they were supplied: for every line if the index
    is not bounded, and for the lines of the document, and no others, if it is.
    However it is bounded, an index knows exactly the lines with an answer, counts
    them (a document's lines bound their number), and keeps all findings as they
    were supplied. -/
theorem look_up_is_scan (findings : List Finding) :
    (∀ line, (build findings).query line = findings.filter (·.touches line))
      ∧ (∀ count line, (buildWithin findings count).query line
          = if 1 ≤ line ∧ line ≤ count then findings.filter (·.touches line) else [])
      ∧ (∀ count, (buildWithin findings count).indexedLines ≤ count)
      ∧ ∀ bound, let ix := index bound findings
          (∀ line, ix.hasFindingsAt line = true ↔ ix.query line ≠ [])
            ∧ {line | ix.query line ≠ []}.encard = ix.indexedLines
            ∧ ix.findings.toList = findings := by
  refine ⟨fun line => query_of_covers findings (covers_none line), fun count line => ?_,
    indexedLines_buildWithin_le findings, fun bound => ?_⟩
  · by_cases hline : 1 ≤ line ∧ line ≤ count
    · rw [if_pos hline, query_buildWithin_of_mem findings hline]
    · rw [if_neg hline, query_buildWithin_of_not_mem findings hline]
  · exact ⟨hasFindingsAt_index bound findings, encard_query bound findings, rfl⟩

end LineIndex

end FindingsBrowser
