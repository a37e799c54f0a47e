import FindingsBrowser.Overlay
import FindingsBrowser.Proofs.LineIndex

/-! # Overlay — what the decorations of a span hold

    A span is decorated through the index, line by line, and lines that the
    index does not know are skipped.  Since no policy decorates a line without
    findings, skipping loses nothing (`decorated?_index`): `mem_decorateSpan` says
    that the result holds every line of the span that the policy decorates, and no
    other. -/

namespace FindingsBrowser.OverlayPolicy

/-- No policy decorates a line without findings. -/
theorem decorate_nil (policy : OverlayPolicy) : policy.decorate [] = none := by
  cases policy with
  | coverage => rfl
  | complexity tolerance => rfl
  | duplication levels => rfl
  | mutation => rfl
  | violation => rfl

/-- A line of a span that the policy decorates, as an entry of the result. -/
def decorated? (policy : OverlayPolicy) (ix : LineIndex) (line : Nat) :
    Option (Nat × Decoration) :=
  if ix.hasFindingsAt line then
    (policy.decorate (ix.query line)).map fun decoration => (line, decoration)
  else none

/-- Skipping the lines that the index does not know loses nothing. -/
theorem decorated?_index (policy : OverlayPolicy) (bound : Option Nat)
    (findings : List Finding) (line : Nat) :
    policy.decorated? (.index bound findings) line
      = (policy.decorate ((LineIndex.index bound findings).query line)).map
          fun d => (line, d) := by
  rw [decorated?]
  by_cases h : (LineIndex.index bound findings).hasFindingsAt line = true
  · rw [if_pos h]
  · -- the index does not know the line, so the query is empty
    have hq : (LineIndex.index bound findings).query line = [] :=
      Classical.not_not.mp fun hne => h ((LineIndex.hasFindingsAt_index ..).mpr hne)
    rw [if_neg h, hq, decorate_nil]
    rfl

/-- An entry is the decoration of its own line. -/
theorem decorated?_eq_some {policy : OverlayPolicy} {findings : List Finding}
    {bound : Option Nat} {line key : Nat} {d : Decoration} :
    policy.decorated? (.index bound findings) line = some (key, d)
      ↔ line = key
        ∧ policy.decorate ((LineIndex.index bound findings).query line) = some d := by
  rw [decorated?_index, Option.map_eq_some_iff]
  constructor
  · rintro ⟨d', hd, heq⟩
    obtain ⟨rfl, rfl⟩ := Prod.mk.inj heq
    exact ⟨rfl, hd⟩
  · rintro ⟨rfl, hd⟩
    exact ⟨d, hd, rfl⟩

/-- The decorations of a span are the entries of its lines. -/
theorem decorateSpan_index (policy : OverlayPolicy) (bound : Option Nat)
    (findings : List Finding) (span : LineSpan) :
    policy.decorateSpan (.index bound findings) span
      = span.lines.filterMap (policy.decorated? (.index bound findings)) := by
  by_cases hv : policy = .violation
  · subst hv
    refine (List.filterMap_eq_nil_iff.mpr fun line _ => ?_).symm
    rw [decorated?_index]
    rfl
  · exact if_neg hv

/-- **The decorations of a span** hold exactly the lines of the span that the
    policy decorates. -/
theorem mem_decorateSpan (policy : OverlayPolicy) (bound : Option Nat)
    (findings : List Finding) (span : LineSpan) (line : Nat) (d : Decoration) :
    (line, d) ∈ policy.decorateSpan (.index bound findings) span
      ↔ span.contains line = true
        ∧ policy.decorate ((LineIndex.index bound findings).query line) = some d := by
  rw [decorateSpan_index, List.mem_filterMap]
  constructor
  · rintro ⟨l, hl, he⟩
    obtain ⟨rfl, hd⟩ := decorated?_eq_some.mp he
    exact ⟨(LineSpan.mem_lines span l).mp hl, hd⟩
  · rintro ⟨hl, hd⟩
    exact ⟨line, (LineSpan.mem_lines span line).mpr hl,
      decorated?_eq_some.mpr ⟨rfl, hd⟩⟩

/-- The decorations of a span come in ascending order of their lines. -/
theorem pairwise_decorateSpan (policy : OverlayPolicy) (bound : Option Nat)
    (findings : List Finding) (span : LineSpan) :
    (policy.decorateSpan (.index bound findings) span).Pairwise
      fun a b => a.1 < b.1 := by
  rw [decorateSpan_index]
  refine List.Pairwise.filterMap (policy.decorated? (.index bound findings)) ?_
    span.pairwise_lines
  intro l l' hlt a ha b hb
  obtain ⟨rfl, -⟩ := decorated?_eq_some.mp ha
  obtain ⟨rfl, -⟩ := decorated?_eq_some.mp hb
  exact hlt

/-- The decorated lines of a span. -/
theorem map_fst_decorateSpan (policy : OverlayPolicy) (bound : Option Nat)
    (findings : List Finding) (span : LineSpan) :
    (policy.decorateSpan (.index bound findings) span).map Prod.fst
      = span.lines.filter fun line =>
          (policy.decorate ((LineIndex.index bound findings).query line)).isSome := by
  rw [decorateSpan_index, List.map_filterMap, ← List.filterMap_eq_filter]
  refine List.filterMap_congr fun line _ => ?_
  rw [decorated?_index]
  cases h : policy.decorate ((LineIndex.index bound findings).query line) with
  | none => simp [Option.guard, h]
  | some d => simp [Option.guard, h]

/-- Indexes whose lines are decorated alike are decorated alike. -/
theorem decorateSpan_congr (policy : OverlayPolicy) {bound bound' : Option Nat}
    {findings findings' : List Finding}
    (h : ∀ line, policy.decorate ((LineIndex.index bound findings).query line)
      = policy.decorate ((LineIndex.index bound' findings').query line))
    (span : LineSpan) :
    policy.decorateSpan (.index bound findings) span
      = policy.decorateSpan (.index bound' findings') span := by
  rw [decorateSpan_index, decorateSpan_index]
  refine List.filterMap_congr fun line _ => ?_
  rw [decorated?_index, decorated?_index, h line]

end FindingsBrowser.OverlayPolicy
