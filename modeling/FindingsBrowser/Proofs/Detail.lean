import FindingsBrowser.Detail
import Mathlib.Data.List.Induction
import Mathlib.Data.List.Nodup

/-! # Detail panel — the groups are the findings of each kind in turn

    Findings are collected into groups in the order in which their kinds are met, and
    the groups are sorted in the end.

    * `findingsOf` is the view of a collection: what it holds under a kind.
      `findingsOf_addFinding` says what one more finding does to it, and
      `findingsOf_collect` what a whole pass leaves: the filter of the findings.
    * `Separate` is the invariant: one group a kind, none empty.  With it the view
      decides which groups there are (`mem_iff_of_separate`).
    * Sorting has no choice then: `groupByKind_eq` gives the groups kind by kind. -/

namespace FindingsBrowser

/-! ## The order of kinds -/

namespace AnalysisKind

theorem mem_all (kind : AnalysisKind) : kind ∈ all := by
  cases kind <;> decide

/-- Kinds are listed in dashboard order. -/
theorem pairwise_all : all.Pairwise fun a b => a.position < b.position := by
  decide

theorem position_inj {a b : AnalysisKind} (h : a.position = b.position) : a = b := by
  have hall : ∀ a ∈ all, ∀ b ∈ all, a.position = b.position → a = b := by decide
  exact hall a (mem_all a) b (mem_all b) h

end AnalysisKind

namespace DetailView

/-! ## One more finding -/

/-- The findings of the first group of a kind; none if there is no group. -/
def findingsOf (kind : AnalysisKind) : List DetailGroup → List Finding
  | [] => []
  | g :: rest => if g.kind = kind then g.findings else findingsOf kind rest

/-- A finding is added behind those of its kind, and to no other kind. -/
theorem findingsOf_addFinding (kind other : AnalysisKind) (f : Finding)
    (groups : List DetailGroup) :
    findingsOf other (addFinding kind f groups)
      = findingsOf other groups ++ if kind = other then [f] else [] := by
  induction groups with
  | nil => simp [addFinding, findingsOf]
  | cons g rest ih =>
      rw [addFinding]
      by_cases hkind : g.kind = kind
      · rw [if_pos hkind, hkind]
        by_cases hother : kind = other <;> simp [findingsOf, hkind, hother]
      · rw [if_neg hkind, findingsOf, findingsOf, ih]
        by_cases hother : g.kind = other
        · have hne : kind ≠ other := fun h => hkind (hother.trans h.symm)
          simp [hother, hne]
        · simp [hother]

/-- A finding opens a group only if its kind has none. -/
theorem map_kind_addFinding (kind : AnalysisKind) (f : Finding) (groups : List DetailGroup) :
    (addFinding kind f groups).map DetailGroup.kind
      = if kind ∈ groups.map DetailGroup.kind then groups.map DetailGroup.kind
        else groups.map DetailGroup.kind ++ [kind] := by
  induction groups with
  | nil => rfl
  | cons g rest ih =>
      rw [addFinding]
      by_cases hkind : g.kind = kind
      · simp [hkind]
      · have hne : kind ≠ g.kind := Ne.symm hkind
        rw [if_neg hkind, List.map_cons, ih, List.map_cons]
        by_cases hmem : kind ∈ rest.map DetailGroup.kind
        · rw [if_pos hmem, if_pos (List.mem_cons_of_mem _ hmem)]
        · rw [if_neg hmem, if_neg (List.not_mem_cons_of_ne_of_not_mem hne hmem), List.cons_append]

/-- A finding is added to what is there, and nothing is lost. -/
theorem flatMap_addFinding (kind : AnalysisKind) (f : Finding) (groups : List DetailGroup) :
    ((addFinding kind f groups).flatMap DetailGroup.findings).Perm
      (f :: groups.flatMap DetailGroup.findings) := by
  induction groups with
  | nil => exact List.Perm.refl _
  | cons g rest ih =>
      rw [addFinding]
      by_cases hkind : g.kind = kind
      · rw [if_pos hkind, List.flatMap_cons, List.flatMap_cons, List.append_assoc]
        exact List.perm_middle
      · rw [if_neg hkind, List.flatMap_cons, List.flatMap_cons]
        exact (ih.append_left g.findings).trans List.perm_middle

/-- A group is opened with a finding, and only grows. -/
theorem nonempty_addFinding (kind : AnalysisKind) (f : Finding) {groups : List DetailGroup}
    (h : ∀ g ∈ groups, g.findings ≠ []) :
    ∀ g ∈ addFinding kind f groups, g.findings ≠ [] := by
  induction groups with
  | nil => exact List.forall_mem_singleton.mpr (List.cons_ne_nil f [])
  | cons g rest ih =>
      obtain ⟨hg, hrest⟩ := List.forall_mem_cons.mp h
      rw [addFinding]
      by_cases hkind : g.kind = kind
      · rw [if_pos hkind]
        exact List.forall_mem_cons.mpr ⟨List.append_ne_nil_of_left_ne_nil hg [f], hrest⟩
      · rw [if_neg hkind]
        exact List.forall_mem_cons.mpr ⟨hg, ih hrest⟩

/-- One group a kind, and none of them empty. -/
structure Separate (groups : List DetailGroup) : Prop where
  nodup : (groups.map DetailGroup.kind).Nodup
  nonempty : ∀ g ∈ groups, g.findings ≠ []

theorem Separate.addFinding {groups : List DetailGroup} (h : Separate groups)
    (kind : AnalysisKind) (f : Finding) :
    Separate (addFinding kind f groups) := by
  refine ⟨?_, nonempty_addFinding kind f h.nonempty⟩
  rw [map_kind_addFinding]
  by_cases hmem : kind ∈ groups.map DetailGroup.kind
  · rw [if_pos hmem]
    exact h.nodup
  · rw [if_neg hmem]
    exact h.nodup.append (List.nodup_singleton kind) (List.disjoint_singleton.mpr hmem)

/-- Which groups there are is a question of what is held under their kinds. -/
theorem mem_iff_of_separate {groups : List DetailGroup} (h : Separate groups)
    (g : DetailGroup) :
    g ∈ groups ↔ g.findings = findingsOf g.kind groups ∧ g.findings ≠ [] := by
  obtain ⟨hnodup, hnonempty⟩ := h
  induction groups with
  | nil =>
      refine ⟨fun hg => absurd hg List.not_mem_nil, ?_⟩
      rintro ⟨hnil, hne⟩
      exact absurd hnil hne
  | cons first rest ih =>
      obtain ⟨hfirst, hrest⟩ := List.nodup_cons.mp hnodup
      obtain ⟨hfull, hothers⟩ := List.forall_mem_cons.mp hnonempty
      rw [findingsOf, List.mem_cons]
      by_cases hkind : first.kind = g.kind
      · rw [if_pos hkind]
        constructor
        · rintro (rfl | hg)
          · exact ⟨rfl, hfull⟩
          · exact absurd (List.mem_map_of_mem hg) (hkind ▸ hfirst)
        · rintro ⟨heq, -⟩
          left
          cases g
          cases first
          simp_all
      · rw [if_neg hkind, ih hrest hothers, or_iff_right]
        rintro rfl
        exact hkind rfl

/-! ## A whole pass -/

theorem findingsOf_foldl (context kind : AnalysisKind) (findings : List Finding) :
    ∀ groups : List DetailGroup,
      findingsOf kind
          (findings.foldl (fun groups f => addFinding (f.kindUnder context) f groups) groups)
        = findingsOf kind groups ++ findings.filter fun f => f.kindUnder context = kind := by
  induction findings with
  | nil =>
      intro groups
      exact (List.append_nil _).symm
  | cons f rest ih =>
      intro groups
      rw [List.foldl_cons, ih, findingsOf_addFinding, List.append_assoc]
      by_cases hkind : f.kindUnder context = kind <;> simp [hkind]

/-- A pass holds, under each kind, the findings of that kind in supply order. -/
theorem findingsOf_collect (context kind : AnalysisKind) (findings : List Finding) :
    findingsOf kind (collect context findings)
      = findings.filter fun f => f.kindUnder context = kind := by
  rw [collect, findingsOf_foldl]
  rfl

theorem separate_collect (context : AnalysisKind) (findings : List Finding) :
    Separate (collect context findings) := by
  induction findings using List.reverseRecOn with
  | nil => exact ⟨List.nodup_nil, fun _ hg => nomatch hg⟩
  | append_singleton findings f ih =>
      rw [collect, List.foldl_concat]
      exact ih.addFinding (f.kindUnder context) f

theorem flatMap_collect (context : AnalysisKind) (findings : List Finding) :
    ((collect context findings).flatMap DetailGroup.findings).Perm findings := by
  induction findings using List.reverseRecOn with
  | nil => exact List.Perm.refl _
  | append_singleton findings f ih =>
      rw [collect, List.foldl_concat]
      exact (flatMap_addFinding _ f _).trans
        ((ih.cons f).trans (List.perm_append_singleton f findings).symm)

/-! ## The sorted groups -/

section Groups

variable {context : AnalysisKind} {findings : List Finding}

theorem groupByKind_perm : (groupByKind context findings).Perm (collect context findings) :=
  List.mergeSort_perm ..

/-- The groups are those that hold all findings of their kind, and any. -/
theorem mem_groupByKind {g : DetailGroup} :
    g ∈ groupByKind context findings
      ↔ g.findings = (findings.filter fun f => f.kindUnder context = g.kind)
        ∧ g.findings ≠ [] := by
  rw [groupByKind_perm.mem_iff, mem_iff_of_separate (separate_collect context findings),
    findingsOf_collect]

/-- The groups come in dashboard order, one a kind. -/
theorem pairwise_groupByKind :
    (groupByKind context findings).Pairwise fun g h => g.kind.position < h.kind.position := by
  have hsorted : (groupByKind context findings).Pairwise
      fun g h => decide (g.kind.position ≤ h.kind.position) = true :=
    List.pairwise_mergeSort (by simpa using fun _ _ _ => Nat.le_trans)
      (by simpa using fun _ _ => Nat.le_total ..) _
  have hkinds : (groupByKind context findings).Pairwise fun g h => g.kind ≠ h.kind :=
    List.pairwise_map.mp ((groupByKind_perm.map DetailGroup.kind).nodup_iff.mpr
      (separate_collect context findings).nodup)
  refine (hsorted.and hkinds).imp ?_
  rintro g h ⟨hle, hne⟩
  exact Nat.lt_of_le_of_ne (of_decide_eq_true hle) fun heq =>
    hne (AnalysisKind.position_inj heq)

/-- No finding is lost, and none is shown twice. -/
theorem flatMap_groupByKind_perm :
    ((groupByKind context findings).flatMap DetailGroup.findings).Perm findings :=
  (groupByKind_perm.flatMap_right _).trans (flatMap_collect context findings)

/-- The group of a kind, if it has any finding. -/
def group? (context : AnalysisKind) (findings : List Finding) (kind : AnalysisKind) :
    Option DetailGroup :=
  let members := findings.filter fun f => f.kindUnder context = kind
  if members = [] then none else some ⟨kind, members⟩

theorem group?_eq_some {kind : AnalysisKind} {g : DetailGroup} :
    group? context findings kind = some g
      ↔ kind = g.kind ∧ g.findings = (findings.filter fun f => f.kindUnder context = g.kind)
        ∧ g.findings ≠ [] := by
  rw [group?]
  by_cases hnone : (findings.filter fun f => f.kindUnder context = kind) = []
  · rw [if_pos hnone]
    refine ⟨(fun hno => nomatch hno), ?_⟩
    rintro ⟨rfl, heq, hne⟩
    exact absurd (heq.trans hnone) hne
  · rw [if_neg hnone, Option.some_inj]
    constructor
    · rintro rfl
      exact ⟨rfl, rfl, hnone⟩
    · rintro ⟨rfl, heq, -⟩
      cases g
      simp_all

/-- **GROUPING**: the groups are those of the kinds that have any finding, in dashboard
    order. -/
theorem groupByKind_eq :
    groupByKind context findings = AnalysisKind.all.filterMap (group? context findings) := by
  have hlisted : (AnalysisKind.all.filterMap (group? context findings)).Pairwise
      fun g h => g.kind.position < h.kind.position := by
    refine List.Pairwise.filterMap _ ?_ AnalysisKind.pairwise_all
    intro a b hlt g hg h hh
    obtain ⟨rfl, -⟩ := group?_eq_some.mp hg
    obtain ⟨rfl, -⟩ := group?_eq_some.mp hh
    exact hlt
  have hmem : ∀ g, g ∈ groupByKind context findings
      ↔ g ∈ AnalysisKind.all.filterMap (group? context findings) := by
    intro g
    rw [mem_groupByKind, List.mem_filterMap]
    constructor
    · intro h
      exact ⟨g.kind, g.kind.mem_all, group?_eq_some.mpr ⟨rfl, h⟩⟩
    · rintro ⟨kind, -, h⟩
      exact (group?_eq_some.mp h).2
  have hnodup : ∀ {groups : List DetailGroup},
      groups.Pairwise (fun g h => g.kind.position < h.kind.position) → groups.Nodup := by
    intro groups h
    refine h.imp ?_
    rintro g _ hlt rfl
    exact Nat.lt_irrefl _ hlt
  -- both are in order without repetition, and have the same members
  refine List.Perm.eq_of_pairwise ?_ pairwise_groupByKind hlisted
    ((List.perm_ext_iff_of_nodup (hnodup pairwise_groupByKind) (hnodup hlisted)).mpr hmem)
  intro g h _ _ hlt hgt
  exact absurd hlt (Nat.lt_asymm hgt)

/-- All findings shown are those of each kind in turn, in supply order. -/
theorem flatMap_groupByKind :
    (groupByKind context findings).flatMap DetailGroup.findings
      = AnalysisKind.all.flatMap fun kind =>
          findings.filter fun f => f.kindUnder context = kind := by
  rw [groupByKind_eq]
  induction AnalysisKind.all with
  | nil => rfl
  | cons kind rest ih =>
      rw [List.flatMap_cons, ← ih, List.filterMap_cons, group?]
      by_cases hnone : (findings.filter fun f => f.kindUnder context = kind) = []
      · simp [hnone]
      · simp [hnone]

end Groups

end DetailView

end FindingsBrowser
