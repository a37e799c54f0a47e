import FindingsBrowser.Proofs.Overlay
import Mathlib.Data.Finset.Card
import Mathlib.Data.Multiset.Filter

/-! # Overlay rules — which findings a line has decides, not their order

    A policy decorates a line in one pass over its findings: with flags, with an
    early exit, with a count, or with a set that grows.  The rules below say what
    each pass decides, of the multiset of the findings.

    * One lemma a pass, by induction on the findings with what has been noted so
      far kept general: `foldl_noteCoverage`, `decorateComplexityFrom_eq`,
      `mem_foldl_noteStatus` and `nodup_foldl_noteStatus`.
    * `decorate_eq_rule` puts the passes together: a decoration is a function of
      the multiset.
    * The lines of a document are decorated by queries, which filter the findings,
      so these may be supplied in any order.
    * `wide_decoration_iff`: when duplicates reach a level of two digits. -/

namespace FindingsBrowser

/-! ## What the rules look at -/

namespace Finding

/-- Whether the line, or the arm, of a coverage result is covered. -/
def covered? : Finding → Option Bool
  | coverage c => some c.covered
  | _ => none

/-- The complexity of a function. -/
def value? : Finding → Option Nat
  | complexity c => some c.value
  | _ => none

/-- The status of a mutant. -/
def status? : Finding → Option MutantStatus
  | mutant m => some m.status
  | _ => none

end Finding

namespace OverlayPolicy

/-! ## The rules -/

/-- Nothing without coverage results; covered if all results are. -/
def coverageRule (findings : Multiset Finding) : Option Decoration :=
  let results := findings.filterMap Finding.covered?
  if results = 0 then none
  else if ∀ covered ∈ results, covered = true then some .covered
  else some .uncovered

instance decidableExistsMem {α : Type} (p : α → Prop) [DecidablePred p] (members : Multiset α) :
    Decidable (∃ x ∈ members, p x) :=
  Multiset.decidableExistsMultiset

/-- Complex if some function reaches the tolerance; else not complex if there is
    any function. -/
def complexityRule (tolerance : Nat) (findings : Multiset Finding) : Option Decoration :=
  let values := findings.filterMap Finding.value?
  if ∃ value ∈ values, tolerance ≤ value then some .complex
  else if values ≠ 0 then some .notComplex
  else none

/-- The level of the duplicates on a line: one less than their number, at most one
    less than the palette has colours. -/
def duplicationLevel (levels : Nat) (findings : Multiset Finding) : Nat :=
  min (findings.countP (·.isDuplicate) - 1) (levels - 1)

/-- The level of the duplicates; level 0 is no decoration. -/
def duplicationRule (levels : Nat) (findings : Multiset Finding) : Option Decoration :=
  let level := duplicationLevel levels findings
  if level = 0 then none else some (.duplicated level)

/-- The class of a line by the set of its mutants' statuses. -/
def mutationClass (statuses : Finset MutantStatus) : Option Decoration :=
  if statuses = ∅ then none
  else if 1 < statuses.card then
    if .survived ∈ statuses then some .mixedWithSurvived else some .mixedWithoutSurvived
  else if statuses = {.killed} then some .killed
  else if statuses = {.survived} then some .survived
  else some .skipped

/-- The statuses of the mutants, as a set. -/
def statuses (findings : Multiset Finding) : Finset MutantStatus :=
  (findings.filterMap Finding.status?).toFinset

/-- The rule of a policy, of findings in no order. -/
def rule : OverlayPolicy → Multiset Finding → Option Decoration
  | coverage, findings => coverageRule findings
  | complexity tolerance, findings => complexityRule tolerance findings
  | duplication levels, findings => duplicationRule levels findings
  | mutation, findings => mutationClass (statuses findings)
  | violation, _ => none

/-- The size of a palette fits in a byte; policies without a palette do. -/
def FitsByte : OverlayPolicy → Prop
  | duplication levels => levels < UInt8.size
  | _ => True

/-! ## Coverage -/

/-- The two flags after a pass: whether there was a coverage result, and whether
    all were covered. -/
theorem foldl_noteCoverage (findings : List Finding) :
    ∀ noted : Bool × Bool,
      findings.foldl noteCoverage noted
        = (noted.1 || !(findings.filterMap Finding.covered?).isEmpty,
            noted.2 && (findings.filterMap Finding.covered?).all id) := by
  induction findings with
  | nil =>
      intro noted
      simp
  | cons f rest ih =>
      intro noted
      rw [List.foldl_cons, ih]
      cases f with
      | coverage c => simp [noteCoverage, Finding.covered?, Bool.and_assoc]
      | _ =>
          rw [List.filterMap_cons_none rfl]
          rfl

theorem decorateCoverage_eq (findings : List Finding) :
    decorateCoverage findings = coverageRule findings := by
  rw [decorateCoverage, foldl_noteCoverage, coverageRule, Multiset.filterMap_coe]
  generalize findings.filterMap Finding.covered? = results
  simp only [Multiset.coe_eq_zero, Multiset.mem_coe]
  cases results with
  | nil => rfl
  | cons first others =>
      have hall : (first :: others).all id = true
          ↔ ∀ covered ∈ first :: others, covered = true := by
        simp only [List.all_eq_true, id]
      rw [if_neg (List.cons_ne_nil first others)]
      by_cases hcovered : ∀ covered ∈ first :: others, covered = true
      · rw [if_pos hcovered, hall.mpr hcovered]
        rfl
      · rw [if_neg hcovered, Bool.eq_false_iff.mpr fun h => hcovered (hall.mp h)]
        rfl

/-! ## Complexity -/

/-- The early exit loses nothing, and without it the pass ends knowing whether
    there was a function. -/
theorem decorateComplexityFrom_eq (tolerance : Nat) (findings : List Finding) :
    ∀ met : Bool,
      decorateComplexityFrom tolerance met findings
        = if (findings.filterMap Finding.value?).any (tolerance ≤ ·) then some .complex
          else if met || !(findings.filterMap Finding.value?).isEmpty then some .notComplex
          else none := by
  induction findings with
  | nil =>
      intro met
      cases met <;> rfl
  | cons f rest ih =>
      intro met
      cases f with
      | complexity c =>
          rw [decorateComplexityFrom, ih]
          by_cases hvalue : tolerance ≤ c.value <;> simp [Finding.value?, hvalue]
      | _ =>
          rw [List.filterMap_cons_none rfl]
          exact ih met

theorem decorateComplexity_eq (tolerance : Nat) (findings : List Finding) :
    decorateComplexity tolerance findings = complexityRule tolerance findings := by
  rw [decorateComplexity, decorateComplexityFrom_eq, complexityRule, Multiset.filterMap_coe]
  generalize findings.filterMap Finding.value? = values
  have hany : values.any (tolerance ≤ ·) = true ↔ ∃ value ∈ values, tolerance ≤ value := by
    simp only [List.any_eq_true, decide_eq_true_eq]
  have hmet : (false || !values.isEmpty) = true ↔ (values : Multiset Nat) ≠ 0 := by
    simp
  simp only [hany, hmet, Multiset.mem_coe]

/-! ## Duplication -/

theorem countP_isDuplicate (findings : List Finding) :
    (findings : Multiset Finding).countP (·.isDuplicate)
      = findings.countP Finding.isDuplicate := by
  rw [Multiset.coe_countP]
  simp only [Bool.decide_eq_true]

/-- A palette of a byte has no level that a byte cannot hold, however many
    duplicates there are. -/
theorem decorateDuplication_eq {levels : Nat} (hlevels : levels < UInt8.size)
    (findings : List Finding) :
    decorateDuplication levels findings = duplicationRule levels findings := by
  have hlevel : duplicationLevel levels findings < UInt8.size :=
    calc duplicationLevel levels findings ≤ levels - 1 := Nat.min_le_right ..
      _ ≤ levels := Nat.sub_le ..
      _ < UInt8.size := hlevels
  have hbyte : (UInt8.ofNat (duplicationLevel levels findings)).toNat
      = duplicationLevel levels findings := UInt8.toNat_ofNat_of_lt' hlevel
  rw [decorateDuplication, ← countP_isDuplicate]
  by_cases hnone : (findings : Multiset Finding).countP (·.isDuplicate) = 0
  · rw [if_pos hnone, duplicationRule, duplicationLevel, hnone, Nat.zero_sub, Nat.zero_min]
    rfl
  · rw [if_neg hnone]
    show (if duplicationLevel levels findings = 0 then none
      else some (Decoration.duplicated (UInt8.ofNat (duplicationLevel levels findings)).toNat)) = _
    rw [hbyte]
    rfl

/-- Duplicates leave a line without decoration exactly if there is at most one, or
    at most one colour. -/
theorem duplicationRule_eq_none_iff (levels : Nat) (findings : Multiset Finding) :
    duplicationRule levels findings = none
      ↔ findings.countP (·.isDuplicate) ≤ 1 ∨ levels ≤ 1 := by
  have hlevel : duplicationLevel levels findings = 0
      ↔ findings.countP (·.isDuplicate) ≤ 1 ∨ levels ≤ 1 := by
    rw [duplicationLevel]
    omega
  rw [duplicationRule, ← hlevel]
  by_cases h : duplicationLevel levels findings = 0 <;> simp [h]

/-- Six duplicates on a line have no colour of their own in a palette of five. -/
example : decorateDuplication 5 (List.replicate 6 (.duplicate ⟨1, 1, []⟩))
    = some (.duplicated 4) :=
  rfl

/-! ## Mutants -/

/-- The set after a pass holds the statuses of the mutants that have been met. -/
theorem mem_foldl_noteStatus (findings : List Finding) (status : MutantStatus) :
    ∀ noted : List MutantStatus,
      status ∈ findings.foldl noteStatus noted
        ↔ status ∈ noted ∨ status ∈ findings.filterMap Finding.status? := by
  induction findings with
  | nil =>
      intro noted
      simp
  | cons f rest ih =>
      intro noted
      rw [List.foldl_cons, ih]
      cases f with
      | mutant m =>
          simp only [noteStatus, Finding.status?, List.mem_insert_iff, List.filterMap_cons,
            List.mem_cons]
          rw [or_assoc, or_left_comm]
      | _ => simp [noteStatus, Finding.status?]

/-- The set never holds a status twice. -/
theorem nodup_foldl_noteStatus (findings : List Finding) :
    ∀ noted : List MutantStatus, noted.Nodup → (findings.foldl noteStatus noted).Nodup := by
  induction findings with
  | nil =>
      intro noted h
      exact h
  | cons f rest ih =>
      intro noted h
      rw [List.foldl_cons]
      refine ih _ ?_
      cases f with
      | mutant m => exact h.insert
      | _ => exact h

/-- The statuses of a line, as a pass lists them. -/
theorem toFinset_foldl_noteStatus (findings : List Finding) :
    (findings.foldl noteStatus []).toFinset = statuses findings := by
  ext status
  rw [List.mem_toFinset, mem_foldl_noteStatus, statuses, Multiset.filterMap_coe,
    Multiset.mem_toFinset, Multiset.mem_coe]
  simp only [List.not_mem_nil, false_or]

theorem decorateMutation_eq (findings : List Finding) :
    decorateMutation findings = mutationClass (statuses findings) := by
  rw [decorateMutation, ← toFinset_foldl_noteStatus]
  have hnodup := nodup_foldl_noteStatus findings [] List.nodup_nil
  generalize findings.foldl noteStatus [] = noted at hnodup
  match noted, hnodup with
  | [], _ => rfl
  | [status], _ => cases status <;> rfl
  | first :: second :: others, hnodup =>
      have hcard : 1 < (first :: second :: others).toFinset.card := by
        rw [List.toFinset_card_of_nodup hnodup, List.length_cons, List.length_cons]
        omega
      have hne : (first :: second :: others).toFinset ≠ ∅ :=
        Finset.card_pos.mp (Nat.lt_trans Nat.one_pos hcard) |>.ne_empty
      rw [mutationClass, if_neg hne, if_pos hcard]
      simp only [List.contains_iff_mem, List.mem_toFinset]

/-! ## Every policy -/

/-- **A decoration is the rule's**, of the multiset of the findings. -/
theorem decorate_eq_rule {policy : OverlayPolicy} (h : policy.FitsByte)
    (findings : List Finding) : policy.decorate findings = policy.rule findings := by
  cases policy with
  | coverage => exact decorateCoverage_eq findings
  | complexity tolerance => exact decorateComplexity_eq tolerance findings
  | duplication levels => exact decorateDuplication_eq h findings
  | mutation => exact decorateMutation_eq findings
  | violation => rfl

/-- **DECORATIONS BY RULE.** Every policy whose palette fits in a byte decorates a
    line by the rule of the multiset of its findings, with findings of other analyses
    among them or not. Duplicates in particular are told apart up to the palette's
    last level, however many there are, and leave the line undecorated exactly if
    there is at most one of them or at most one colour. So the order in which the
    findings of a document are supplied changes the decoration of no line and of no
    span. -/
theorem decorations_by_rule {policy : OverlayPolicy} (h : policy.FitsByte)
    (findings : List Finding) :
    policy.decorate findings = policy.rule findings
      ∧ (∀ levels, policy = .duplication levels →
          (policy.decorate findings = none
            ↔ findings.countP Finding.isDuplicate ≤ 1 ∨ levels ≤ 1))
      ∧ ∀ others, findings.Perm others →
          policy.decorate others = policy.decorate findings
            ∧ ∀ bound,
              (∀ line, policy.decorate ((LineIndex.index bound others).query line)
                = policy.decorate ((LineIndex.index bound findings).query line))
              ∧ ∀ span, policy.decorateSpan (.index bound others) span
                = policy.decorateSpan (.index bound findings) span := by
  -- lists with the same members, as often, are decorated alike
  have hsame : ∀ {xs ys : List Finding}, xs.Perm ys →
      policy.decorate ys = policy.decorate xs := by
    intro xs ys hperm
    rw [decorate_eq_rule h, decorate_eq_rule h, Multiset.coe_eq_coe.mpr hperm]
  refine ⟨decorate_eq_rule h findings, ?_, ?_⟩
  · rintro levels rfl
    rw [decorate_eq_rule h, rule, duplicationRule_eq_none_iff, countP_isDuplicate]
  · intro others hperm
    refine ⟨hsame hperm, fun bound => ?_⟩
    have hline : ∀ line, policy.decorate ((LineIndex.index bound others).query line)
        = policy.decorate ((LineIndex.index bound findings).query line) := by
      intro line
      rw [LineIndex.query_index, LineIndex.query_index]
      exact hsame (hperm.filter _)
    exact ⟨hline, decorateSpan_congr policy hline⟩

/-- Two nested duplicates and a coverage result, with the largest palette. -/
theorem decorations_by_rule_reordered :
    let policy : OverlayPolicy := .duplication 255
    let block : Finding := .duplicate ⟨1, 3, []⟩
    let inner : Finding := .duplicate ⟨2, 2, []⟩
    let result : Finding := .coverage ⟨2, true, none⟩
    (policy.FitsByte ∧ [block, inner, result].Perm [result, block, inner])
      ∧ policy.decorate [result, block, inner] = some (.duplicated 1)
      ∧ policy.decorateSpan (.buildWithin [result, block, inner] 3) ⟨1, 3⟩
        = policy.decorateSpan (.buildWithin [block, inner, result] 3) ⟨1, 3⟩ := by
  intro policy block inner result
  have hfits : policy.FitsByte := by
    show 255 < UInt8.size
    decide
  have hperm : ([block, inner] ++ [result]).Perm ([result] ++ [block, inner]) :=
    List.perm_append_comm
  obtain ⟨-, -, hothers⟩ := decorations_by_rule hfits [block, inner, result]
  obtain ⟨hsame, hdocument⟩ := hothers [result, block, inner] hperm
  exact ⟨⟨hfits, hperm⟩, hsame.trans rfl, (hdocument (some 3)).2 ⟨1, 3⟩⟩

/-! ## Levels of two digits -/

theorem FitsByte.withTolerance {policy : OverlayPolicy} (h : policy.FitsByte)
    (tolerance : Option Nat) : (policy.withTolerance tolerance).FitsByte := by
  cases policy <;> cases tolerance <;> exact h

theorem withTolerance_eq_duplication_iff {policy : OverlayPolicy} {tolerance : Option Nat}
    {levels : Nat} :
    policy.withTolerance tolerance = .duplication levels ↔ policy = .duplication levels := by
  cases policy <;> cases tolerance <;> simp [withTolerance]

/-- Only the rule of duplication gives levels. -/
theorem rule_eq_duplicated_iff {policy : OverlayPolicy} {findings : Multiset Finding}
    {level : Nat} :
    policy.rule findings = some (.duplicated level)
      ↔ ∃ levels, policy = .duplication levels ∧ level ≠ 0
        ∧ duplicationLevel levels findings = level := by
  cases policy with
  | duplication levels =>
      rw [rule, duplicationRule]
      by_cases hzero : duplicationLevel levels findings = 0
      · rw [if_pos hzero]
        constructor
        · exact fun h => nomatch h
        · rintro ⟨levels', hpolicy, hlevel, heq⟩
          obtain rfl := OverlayPolicy.duplication.inj hpolicy
          exact absurd (heq.symm.trans hzero) hlevel
      · rw [if_neg hzero]
        constructor
        · intro h
          obtain rfl := Decoration.duplicated.inj (Option.some.inj h)
          exact ⟨levels, rfl, hzero, rfl⟩
        · rintro ⟨levels', hpolicy, -, rfl⟩
          obtain rfl := OverlayPolicy.duplication.inj hpolicy
          rfl
  | coverage =>
      rw [rule, coverageRule]
      split <;> (try split) <;> simp
  | complexity tolerance =>
      rw [rule, complexityRule]
      split <;> (try split) <;> simp
  | mutation =>
      rw [rule, mutationClass]
      split <;> (try split) <;> (try split) <;> (try split) <;> simp
  | violation => simp [rule]

/-- **WIDE MARKERS**: a line has a level of two digits or more exactly if the palette has
    more than ten levels and more than ten duplicates lie on the line. -/
theorem wide_decoration_iff {policy : OverlayPolicy} (h : policy.FitsByte)
    (findings : List Finding) :
    (∃ level, policy.decorate findings = some (.duplicated level) ∧ 10 ≤ level)
      ↔ ∃ levels, policy = .duplication levels ∧ 10 < levels
        ∧ 10 < findings.countP Finding.isDuplicate := by
  simp only [decorate_eq_rule h, rule_eq_duplicated_iff, duplicationLevel, countP_isDuplicate]
  constructor
  · rintro ⟨level, ⟨levels, hpolicy, -, rfl⟩, hwide⟩
    exact ⟨levels, hpolicy, by omega, by omega⟩
  · rintro ⟨levels, hpolicy, hlevels, hcount⟩
    exact ⟨_, ⟨levels, hpolicy, by omega, rfl⟩, by omega⟩

end OverlayPolicy

end FindingsBrowser
