import FindingsBrowser.Proofs.Overlay.Rules
import Mathlib.Data.Finset.Max

/-! # Overlay severity — more findings never hide a serious one

    The classes of a policy are ordered by how serious they are.

    * Coverage, complexity and mutants are graded alike, by what they look at: there
      is nothing, something, or something bad (`grade`).  Duplicates are graded by
      their level.  Either can only rise with further findings
      (`severity_rule_mono`).
    * A higher tolerance leaves the decorated lines as they are, and takes a line
      from complex to not complex exactly if the largest complexity on it lies
      between the two tolerances (`complexityRule_flips_iff`). -/

namespace FindingsBrowser

/-- How serious a class is among the classes of its policy. -/
def Decoration.severity : Decoration → Nat
  | covered => 1
  | uncovered => 2
  | notComplex => 1
  | complex => 2
  | duplicated level => level
  | killed => 1
  | skipped => 1
  | mixedWithoutSurvived => 1
  | survived => 2
  | mixedWithSurvived => 2

/-- How serious the decoration of a line is; a line without one is not serious. -/
def severity (d : Option Decoration) : Nat :=
  d.elim 0 Decoration.severity

namespace OverlayPolicy

/-! ## Grades -/

section Grade

variable {α : Type} [DecidableEq α] (bad : α → Prop) [DecidablePred bad]

/-- 2 if there is something bad, 1 if there is anything, 0 if there is nothing. -/
def grade (members : Multiset α) : Nat :=
  if ∃ x ∈ members, bad x then 2 else if members ≠ 0 then 1 else 0

/-- A grade can only rise with further members. -/
theorem grade_mono {xs ys : Multiset α} (h : xs ≤ ys) : grade bad xs ≤ grade bad ys := by
  have hbad : (∃ x ∈ xs, bad x) → ∃ x ∈ ys, bad x := by
    rintro ⟨x, hx, hb⟩
    exact ⟨x, Multiset.mem_of_le h hx, hb⟩
  have hne : xs ≠ 0 → ys ≠ 0 := by
    rintro hxs rfl
    exact hxs (Multiset.le_zero.mp h)
  rw [grade, grade]
  by_cases hx : ∃ x ∈ xs, bad x
  · rw [if_pos hx, if_pos (hbad hx)]
  · rw [if_neg hx]
    by_cases hxs : xs ≠ 0
    · rw [if_pos hxs, if_pos (hne hxs)]
      split <;> omega
    · rw [if_neg hxs]
      exact Nat.zero_le _

end Grade

theorem severity_coverageRule (findings : Multiset Finding) :
    severity (coverageRule findings)
      = grade (· = false) (findings.filterMap Finding.covered?) := by
  rw [coverageRule, grade]
  generalize findings.filterMap Finding.covered? = results
  have hmissed : (∀ covered ∈ results, covered = true) ↔ ¬∃ covered ∈ results, covered = false := by
    simp
  by_cases hnone : results = 0
  · simp [hnone, severity]
  · by_cases hbad : ∃ covered ∈ results, covered = false
    · rw [if_pos hbad]
      simp only [if_neg hnone, if_neg fun h => hmissed.mp h hbad]
      rfl
    · rw [if_neg hbad, if_pos hnone]
      simp only [if_neg hnone, if_pos (hmissed.mpr hbad)]
      rfl

/-- Functions are complex if one of them reaches the tolerance, not complex if there
    are some and all stay below it, and nothing if there are none. -/
theorem complexityRule_cases (tolerance : Nat) (findings : Multiset Finding) :
    let values := findings.filterMap Finding.value?
    ((∃ value ∈ values, tolerance ≤ value)
        ∧ complexityRule tolerance findings = some .complex)
      ∨ ((values ≠ 0 ∧ ∀ value ∈ values, value < tolerance)
        ∧ complexityRule tolerance findings = some .notComplex)
      ∨ (values = 0 ∧ complexityRule tolerance findings = none) := by
  intro values
  by_cases hreached : ∃ value ∈ values, tolerance ≤ value
  · exact Or.inl ⟨hreached, if_pos hreached⟩
  · by_cases hne : values ≠ 0
    · have hbelow : ∀ value ∈ values, value < tolerance := by
        intro value hvalue
        exact Nat.lt_of_not_le fun hle => hreached ⟨value, hvalue, hle⟩
      exact Or.inr (Or.inl ⟨⟨hne, hbelow⟩, (if_neg hreached).trans (if_pos hne)⟩)
    · exact Or.inr (Or.inr ⟨Classical.not_not.mp hne, (if_neg hreached).trans (if_neg hne)⟩)

theorem severity_complexityRule (tolerance : Nat) (findings : Multiset Finding) :
    severity (complexityRule tolerance findings)
      = grade (tolerance ≤ ·) (findings.filterMap Finding.value?) := by
  rw [grade]
  rcases complexityRule_cases tolerance findings with
    ⟨hreached, h⟩ | ⟨⟨hne, hbelow⟩, h⟩ | ⟨hnone, h⟩
  · rw [h, if_pos hreached]
    rfl
  · rw [h, if_neg fun ⟨value, hvalue, hle⟩ => Nat.not_le_of_lt (hbelow value hvalue) hle,
      if_pos hne]
    rfl
  · rw [h, hnone]
    simp [severity]

/-- Mutants have no class, the class of the one status they share, or one of the two
    mixed classes. -/
theorem mutationClass_cases (statuses : Finset MutantStatus) :
    (statuses = ∅ ∧ mutationClass statuses = none)
      ∨ (∃ status, statuses = {status} ∧ mutationClass statuses = some (.ofStatus status))
      ∨ (statuses ≠ ∅ ∧ mutationClass statuses
          = some (if .survived ∈ statuses then .mixedWithSurvived else .mixedWithoutSurvived)) := by
  by_cases hnone : statuses = ∅
  · exact Or.inl ⟨hnone, if_pos hnone⟩
  · by_cases hmany : 1 < statuses.card
    · refine Or.inr (Or.inr ⟨hnone, ?_⟩)
      rw [mutationClass, if_neg hnone, if_pos hmany]
      split <;> rfl
    · have hpos := Finset.card_pos.mpr (Finset.nonempty_iff_ne_empty.mpr hnone)
      obtain ⟨status, rfl⟩ := Finset.card_eq_one.mp (show statuses.card = 1 by omega)
      refine Or.inr (Or.inl ⟨status, rfl, ?_⟩)
      cases status <;> rfl

/-- A set of mutants' statuses is bad if one of them survived, whatever the others
    are. -/
theorem severity_mutationClass (statuses : Finset MutantStatus) :
    severity (mutationClass statuses) = grade (· = .survived) statuses.val := by
  rw [grade]
  rcases mutationClass_cases statuses with ⟨rfl, h⟩ | ⟨status, rfl, h⟩ | ⟨hne, h⟩
  · rw [h]
    simp [severity]
  · rw [h]
    cases status <;> simp [severity, Decoration.severity, Decoration.ofStatus]
  · rw [h]
    by_cases hsurvived : MutantStatus.survived ∈ statuses <;>
      simp [hne, hsurvived, severity, Decoration.severity]

/-- The class of a line's mutants says that one survived exactly if one did. -/
theorem mutationClass_survived_iff (statuses : Finset MutantStatus) :
    (mutationClass statuses = some .survived
        ∨ mutationClass statuses = some .mixedWithSurvived)
      ↔ .survived ∈ statuses := by
  rcases mutationClass_cases statuses with ⟨rfl, h⟩ | ⟨status, rfl, h⟩ | ⟨hne, h⟩
  · rw [h]
    simp
  · rw [h]
    cases status <;> simp [Decoration.ofStatus]
  · rw [h]
    by_cases hsurvived : MutantStatus.survived ∈ statuses <;> simp [hsurvived]

/-- A survivor on a line is seen, whatever the other findings are. -/
theorem mutation_survived_iff (findings : List Finding) :
    (mutation.decorate findings = some .survived
        ∨ mutation.decorate findings = some .mixedWithSurvived)
      ↔ ∃ m, .mutant m ∈ findings ∧ m.status = .survived := by
  have hrule : mutation.decorate findings = mutationClass (statuses findings) :=
    decorateMutation_eq findings
  rw [hrule, mutationClass_survived_iff, statuses, Multiset.mem_toFinset,
    Multiset.filterMap_coe, Multiset.mem_coe, List.mem_filterMap]
  constructor
  · rintro ⟨f, hf, hstatus⟩
    cases f with
    | mutant m => exact ⟨m, hf, Option.some.inj hstatus⟩
    | _ => cases hstatus
  · rintro ⟨m, hm, hstatus⟩
    exact ⟨.mutant m, hm, congrArg some hstatus⟩

theorem severity_duplicationRule (levels : Nat) (findings : Multiset Finding) :
    severity (duplicationRule levels findings) = duplicationLevel levels findings := by
  rw [duplicationRule]
  by_cases hlevel : duplicationLevel levels findings = 0
  · simp [hlevel, severity]
  · simp only [if_neg hlevel]
    rfl

/-! ## Further findings -/

/-- **Further findings never lower the severity** of a rule's decoration. -/
theorem severity_rule_mono (policy : OverlayPolicy) {findings more : Multiset Finding}
    (h : findings ≤ more) : severity (policy.rule findings) ≤ severity (policy.rule more) := by
  cases policy with
  | coverage =>
      rw [rule, rule, severity_coverageRule, severity_coverageRule]
      exact grade_mono _ (Multiset.filterMap_le_filterMap _ h)
  | complexity tolerance =>
      rw [rule, rule, severity_complexityRule, severity_complexityRule]
      exact grade_mono _ (Multiset.filterMap_le_filterMap _ h)
  | duplication levels =>
      rw [rule, rule, severity_duplicationRule, severity_duplicationRule, duplicationLevel,
        duplicationLevel]
      have hcount := Multiset.countP_le_of_le (·.isDuplicate) h
      omega
  | mutation =>
      rw [rule, rule, severity_mutationClass, severity_mutationClass]
      refine grade_mono _ (Finset.val_le_iff.mpr ?_)
      exact Multiset.toFinset_subset.mpr
        (Multiset.subset_of_le (Multiset.filterMap_le_filterMap _ h))
  | violation => exact Nat.le_refl _

/-! ## Tolerances -/

section Tolerance

variable {tolerance : Nat} {findings : Multiset Finding}

theorem complexityRule_eq_complex :
    complexityRule tolerance findings = some .complex
      ↔ ∃ value ∈ findings.filterMap Finding.value?, tolerance ≤ value := by
  rcases complexityRule_cases tolerance findings with
    ⟨hreached, h⟩ | ⟨⟨-, hbelow⟩, h⟩ | ⟨hnone, h⟩
  · exact ⟨fun _ => hreached, fun _ => h⟩
  · rw [h]
    refine ⟨(fun hno => nomatch hno), ?_⟩
    rintro ⟨value, hvalue, hle⟩
    exact absurd hle (Nat.not_le_of_lt (hbelow value hvalue))
  · simp [h, hnone]

theorem complexityRule_eq_notComplex :
    complexityRule tolerance findings = some .notComplex
      ↔ findings.filterMap Finding.value? ≠ 0
        ∧ ∀ value ∈ findings.filterMap Finding.value?, value < tolerance := by
  rcases complexityRule_cases tolerance findings with
    ⟨⟨value, hvalue, hle⟩, h⟩ | ⟨hbelow, h⟩ | ⟨hnone, h⟩
  · rw [h]
    refine ⟨(fun hno => nomatch hno), ?_⟩
    rintro ⟨-, hbelow⟩
    exact absurd hle (Nat.not_le_of_lt (hbelow value hvalue))
  · exact ⟨fun _ => hbelow, fun _ => h⟩
  · simp [h, hnone]

/-- Whether functions are decorated does not depend on the tolerance. -/
theorem isSome_complexityRule :
    (complexityRule tolerance findings).isSome = true
      ↔ findings.filterMap Finding.value? ≠ 0 := by
  rcases complexityRule_cases tolerance findings with
    ⟨⟨value, hvalue, -⟩, h⟩ | ⟨⟨hne, -⟩, h⟩ | ⟨hnone, h⟩
  · rw [h]
    exact ⟨fun _ hnone => Multiset.notMem_zero value (hnone ▸ hvalue), fun _ => rfl⟩
  · exact ⟨fun _ => hne, fun _ => by rw [h]; rfl⟩
  · simp [h, hnone]

/-- Functions change from complex to not complex exactly if the largest complexity
    reaches the one tolerance and not the other. -/
theorem complexityRule_flips_iff {low high : Nat} :
    (complexityRule low findings = some .complex
        ∧ complexityRule high findings = some .notComplex)
      ↔ ∃ largest, IsGreatest {value | value ∈ findings.filterMap Finding.value?} largest
        ∧ low ≤ largest ∧ largest < high := by
  rw [complexityRule_eq_complex, complexityRule_eq_notComplex]
  generalize findings.filterMap Finding.value? = values
  constructor
  · rintro ⟨⟨value, hvalue, hlow⟩, -, hhigh⟩
    have hmem : value ∈ values.toFinset := Multiset.mem_toFinset.mpr hvalue
    have hgreatest := values.toFinset.isGreatest_max' ⟨value, hmem⟩
    refine ⟨values.toFinset.max' ⟨value, hmem⟩, ?_, ?_, ?_⟩
    · have hset : {v | v ∈ values} = (values.toFinset : Set Nat) := by
        ext v
        exact Multiset.mem_toFinset.symm
      rwa [hset]
    · exact Nat.le_trans hlow (hgreatest.2 hmem)
    · exact hhigh _ (Multiset.mem_toFinset.mp hgreatest.1)
  · rintro ⟨largest, ⟨hmem, hupper⟩, hlow, hhigh⟩
    refine ⟨⟨largest, hmem, hlow⟩, ?_, ?_⟩
    · rintro rfl
      exact Multiset.notMem_zero largest hmem
    · intro value hvalue
      exact Nat.lt_of_le_of_lt (hupper hvalue) hhigh

end Tolerance

/-! ## Documents -/

/-- The complexities of the functions that cover a line. -/
def coveringValues (findings : List Finding) (line : Nat) : Set Nat :=
  {value | ∃ c, .complexity c ∈ findings
    ∧ (Finding.complexity c).touches line = true ∧ c.value = value}

theorem mem_filterMap_value? {findings : List Finding} {line value : Nat} :
    value ∈ (findings.filter (·.touches line)).filterMap Finding.value?
      ↔ value ∈ coveringValues findings line := by
  rw [List.mem_filterMap]
  constructor
  · rintro ⟨f, hf, hvalue⟩
    obtain ⟨hmem, htouches⟩ := List.mem_filter.mp hf
    cases f with
    | complexity c => exact ⟨c, hmem, htouches, Option.some.inj hvalue⟩
    | _ => cases hvalue
  · rintro ⟨c, hmem, htouches, rfl⟩
    exact ⟨.complexity c, List.mem_filter.mpr ⟨hmem, htouches⟩, rfl⟩

theorem decorate_complexity (tolerance : Nat) (findings : List Finding) :
    (complexity tolerance).decorate findings = complexityRule tolerance findings :=
  decorateComplexity_eq tolerance findings

/-- A higher tolerance has no complex line that a lower one has not. -/
theorem decorate_complex_of_le {low high : Nat} (hle : low ≤ high) {findings : List Finding}
    (h : (complexity high).decorate findings = some .complex) :
    (complexity low).decorate findings = some .complex := by
  rw [decorate_complexity, complexityRule_eq_complex] at h ⊢
  obtain ⟨value, hvalue, hhigh⟩ := h
  exact ⟨value, hvalue, Nat.le_trans hle hhigh⟩

/-- A tolerance does not decide which lines are decorated. -/
theorem map_fst_decorateSpan_complexity (low high : Nat) (bound : Option Nat)
    (findings : List Finding) (span : LineSpan) :
    ((complexity high).decorateSpan (.index bound findings) span).map Prod.fst
      = ((complexity low).decorateSpan (.index bound findings) span).map Prod.fst := by
  rw [map_fst_decorateSpan, map_fst_decorateSpan]
  refine List.filter_congr fun line _ => ?_
  rw [decorate_complexity, decorate_complexity, Bool.eq_iff_iff, isSome_complexityRule,
    isSome_complexityRule]

/-- A line of a document changes from complex to not complex exactly if the largest
    complexity that covers it reaches the one tolerance and not the other. -/
theorem decorate_query_flips_iff (findings : List Finding) (lineCount line low high : Nat) :
    let shown := (LineIndex.buildWithin findings lineCount).query line
    ((complexity low).decorate shown = some .complex
        ∧ (complexity high).decorate shown = some .notComplex)
      ↔ (1 ≤ line ∧ line ≤ lineCount)
        ∧ ∃ largest, IsGreatest (coveringValues findings line) largest
          ∧ low ≤ largest ∧ largest < high := by
  intro shown
  by_cases hline : 1 ≤ line ∧ line ≤ lineCount
  · have hshown : shown = findings.filter (·.touches line) :=
      LineIndex.query_buildWithin_of_mem findings hline
    have hvalues : {value | value ∈ (shown : Multiset Finding).filterMap Finding.value?}
        = coveringValues findings line := by
      rw [hshown]
      ext value
      exact mem_filterMap_value?
    rw [decorate_complexity, decorate_complexity, complexityRule_flips_iff, hvalues]
    exact (and_iff_right hline).symm
  · have hshown : shown = [] := LineIndex.query_buildWithin_of_not_mem findings hline
    rw [hshown, decorate_nil]
    exact ⟨fun h => (nomatch h.1), fun h => absurd h.1 hline⟩

/-- **SEVERITY IS MONOTONE.** However many findings are added to those of a line, and
    wherever, its decoration does not become less serious; under the policy of mutants
    its class says that one survived exactly if one did. In a document a higher
    tolerance decorates the same lines, complex ones among them only where the lower
    one has them, and a line of the span changes to not complex exactly if the
    largest complexity that covers it reaches the lower tolerance and not the
    higher. -/
theorem severity_monotone :
    (∀ policy : OverlayPolicy, policy.FitsByte →
        ∀ findings more : List Finding, findings.Subperm more →
          severity (policy.decorate findings) ≤ severity (policy.decorate more))
      ∧ (∀ findings : List Finding,
          (mutation.decorate findings = some .survived
              ∨ mutation.decorate findings = some .mixedWithSurvived)
            ↔ ∃ m, .mutant m ∈ findings ∧ m.status = .survived)
      ∧ ∀ (findings : List Finding) (lineCount : Nat) (span : LineSpan) (low high : Nat),
          low ≤ high →
          let ix := LineIndex.buildWithin findings lineCount
          let below := (complexity low).decorateSpan ix span
          let above := (complexity high).decorateSpan ix span
          above.map Prod.fst = below.map Prod.fst
            ∧ (∀ line, (line, .complex) ∈ above → (line, .complex) ∈ below)
            ∧ ∀ line, ((line, .complex) ∈ below ∧ (line, .notComplex) ∈ above)
              ↔ span.contains line = true ∧ (1 ≤ line ∧ line ≤ lineCount)
                ∧ ∃ largest, IsGreatest (coveringValues findings line) largest
                  ∧ low ≤ largest ∧ largest < high := by
  refine ⟨?_, ?_, ?_⟩
  · intro policy hfits findings more hmore
    rw [decorate_eq_rule hfits, decorate_eq_rule hfits]
    exact severity_rule_mono policy (Multiset.coe_le.mpr hmore)
  · exact mutation_survived_iff
  · intro findings lineCount span low high hle ix below above
    have hmem : ∀ (tolerance line : Nat) (d : Decoration),
        (line, d) ∈ (complexity tolerance).decorateSpan ix span
          ↔ span.contains line = true
            ∧ (complexity tolerance).decorate (ix.query line) = some d :=
      fun tolerance => mem_decorateSpan (complexity tolerance) (some lineCount) findings span
    refine ⟨map_fst_decorateSpan_complexity low high (some lineCount) findings span, ?_, ?_⟩
    · intro line h
      obtain ⟨hspan, hcomplex⟩ := (hmem high line .complex).mp h
      exact (hmem low line .complex).mpr ⟨hspan, decorate_complex_of_le hle hcomplex⟩
    · intro line
      rw [hmem low, hmem high, ← and_and_left]
      exact and_congr_right fun _ => decorate_query_flips_iff findings lineCount line low high

/-- A function of complexity 10 inside one of complexity 4: it makes its lines complex
    under a tolerance of 10, and not under one of 11. -/
theorem severity_monotone_nested :
    let outer : Finding := .complexity ⟨1, 30, 4, none⟩
    let inner : Finding := .complexity ⟨10, 20, 10, none⟩
    let ix := LineIndex.buildWithin [outer, inner] 40
    ((complexity 10).FitsByte ∧ [outer].Subperm [inner, outer] ∧ 10 ≤ 11)
      ∧ severity ((complexity 10).decorate [outer])
        ≤ severity ((complexity 10).decorate [inner, outer])
      ∧ (15, .complex) ∈ (complexity 10).decorateSpan ix ⟨1, 40⟩
      ∧ (15, .notComplex) ∈ (complexity 11).decorateSpan ix ⟨1, 40⟩ := by
  intro outer inner ix
  obtain ⟨hadd, -, htolerance⟩ := severity_monotone
  have hmore : [outer].Subperm [inner, outer] :=
    (List.sublist_cons_self inner [outer]).subperm
  have hle : 10 ≤ 11 := by decide
  have hlargest : IsGreatest (coveringValues [outer, inner] 15) 10 := by
    constructor
    · exact ⟨⟨10, 20, 10, none⟩, List.mem_cons_of_mem outer List.mem_cons_self, rfl, rfl⟩
    · rintro value ⟨c, hc, -, rfl⟩
      rcases List.mem_cons.mp hc with h | h
      · obtain rfl := Finding.complexity.inj h
        decide
      · obtain rfl := Finding.complexity.inj (List.mem_singleton.mp h)
        decide
  obtain ⟨-, -, hflips⟩ := htolerance [outer, inner] 40 ⟨1, 40⟩ 10 11 hle
  exact ⟨⟨trivial, hmore, hle⟩, hadd (complexity 10) trivial [outer] [inner, outer] hmore,
    (hflips 15).mpr ⟨rfl, by decide, 10, hlargest, by decide, by decide⟩⟩

end OverlayPolicy

end FindingsBrowser
