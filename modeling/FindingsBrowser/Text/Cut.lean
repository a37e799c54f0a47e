/-! # Cutting a text at a separator — the parts before and after one occurrence

    * `cutFirst sep` cuts at the first `sep`, `cutLast sep` at the last one;
      both are `none` exactly when `sep` does not occur.
    * `before sep` keeps what stands before the first `sep`, or all of it.

    Cutting at every occurrence is `List.splitOn`, and joining `List.intercalate`. -/

namespace FindingsBrowser.Text

/-- The parts before and after the first `sep`. -/
def cutFirst (sep : Char) : List Char → Option (List Char × List Char)
  | [] => none
  | c :: cs =>
      if c = sep then some ([], cs)
      else (cutFirst sep cs).map fun (a, b) => (c :: a, b)

/-- The parts before and after the last `sep`. -/
def cutLast (sep : Char) : List Char → Option (List Char × List Char)
  | [] => none
  | c :: cs =>
      match cutLast sep cs with
      | some (a, b) => some (c :: a, b)
      | none => if c = sep then some ([], cs) else none

/-- What stands before the first `sep`; all of the text if there is none. -/
def before (sep : Char) (s : List Char) : List Char :=
  match cutFirst sep s with
  | some (a, _) => a
  | none => s

/-! ## The cuts in terms of the text -/

theorem cutFirst_eq_none {sep : Char} {s : List Char} (h : sep ∉ s) :
    cutFirst sep s = none := by
  induction s with
  | nil => rfl
  | cons c cs ih =>
      simp only [List.mem_cons, not_or] at h
      simp [cutFirst, Ne.symm h.1, ih h.2]

theorem cutFirst_append {sep : Char} {a : List Char} (h : sep ∉ a) (b : List Char) :
    cutFirst sep (a ++ sep :: b) = some (a, b) := by
  induction a with
  | nil => simp [cutFirst]
  | cons c cs ih =>
      simp only [List.mem_cons, not_or] at h
      simp [cutFirst, Ne.symm h.1, ih h.2]

/-- A cut is made where the first `sep` stands. -/
theorem cutFirst_eq_some {sep : Char} {s a b : List Char} (h : cutFirst sep s = some (a, b)) :
    sep ∉ a ∧ s = a ++ sep :: b := by
  induction s generalizing a with
  | nil => exact nomatch h
  | cons c cs ih =>
      rw [cutFirst] at h
      split at h
      · case _ hc =>
          cases h
          rw [hc]
          exact ⟨List.not_mem_nil, rfl⟩
      · case _ hc =>
          obtain ⟨⟨a', b'⟩, hcut, hpair⟩ := Option.map_eq_some_iff.mp h
          cases hpair
          obtain ⟨hsep, hcs⟩ := ih hcut
          refine ⟨?_, by rw [hcs, List.cons_append]⟩
          rw [List.mem_cons, not_or]
          exact ⟨fun heq => hc heq.symm, hsep⟩

theorem before_eq_self {sep : Char} {s : List Char} (h : sep ∉ s) : before sep s = s := by
  rw [before, cutFirst_eq_none h]

/-- No `sep` stands before the first one. -/
theorem not_mem_before (sep : Char) (s : List Char) : sep ∉ before sep s := by
  rw [before]
  split
  · case _ a b hcut => exact (cutFirst_eq_some hcut).1
  · case _ hcut =>
      intro hmem
      obtain ⟨a, b, hsplit, hsep⟩ := List.eq_append_cons_of_mem hmem
      rw [hsplit, cutFirst_append hsep] at hcut
      exact nomatch hcut

theorem cutLast_eq_none {sep : Char} {s : List Char} (h : sep ∉ s) :
    cutLast sep s = none := by
  induction s with
  | nil => rfl
  | cons c cs ih =>
      simp only [List.mem_cons, not_or] at h
      simp [cutLast, Ne.symm h.1, ih h.2]

theorem cutLast_append {sep : Char} {b : List Char} (a : List Char) (h : sep ∉ b) :
    cutLast sep (a ++ sep :: b) = some (a, b) := by
  induction a with
  | nil => simp [cutLast, cutLast_eq_none h]
  | cons c cs ih => simp [cutLast, ih]

theorem not_mem_of_cutLast {sep : Char} {s : List Char} (h : cutLast sep s = none) :
    sep ∉ s := by
  induction s with
  | nil => exact List.not_mem_nil
  | cons c cs ih =>
      rw [cutLast] at h
      split at h
      · exact nomatch h
      · case _ hcut =>
          split at h
          · exact nomatch h
          · case _ hc =>
              rw [List.mem_cons, not_or]
              exact ⟨fun heq => hc heq.symm, ih hcut⟩

/-- A cut is made where the last `sep` stands. -/
theorem cutLast_eq_some {sep : Char} {s a b : List Char} (h : cutLast sep s = some (a, b)) :
    s = a ++ sep :: b ∧ sep ∉ b := by
  induction s generalizing a with
  | nil => exact nomatch h
  | cons c cs ih =>
      rw [cutLast] at h
      split at h
      · case _ a' b' hcut =>
          cases h
          obtain ⟨hcs, hsep⟩ := ih hcut
          exact ⟨by rw [hcs, List.cons_append], hsep⟩
      · case _ hcut =>
          split at h
          · case _ hc =>
              cases h
              exact ⟨by rw [hc, List.nil_append], not_mem_of_cutLast hcut⟩
          · exact nomatch h

/-! ## Joined texts -/

/-- A character of a joined text is the joint or belongs to a part. -/
theorem mem_intercalate {sep c : Char} :
    ∀ {parts : List (List Char)}, c ∈ List.intercalate [sep] parts →
      c = sep ∨ ∃ part ∈ parts, c ∈ part := by
  intro parts
  induction parts with
  | nil =>
      intro h
      exact absurd h List.not_mem_nil
  | cons part rest ih =>
      intro h
      cases rest with
      | nil =>
          rw [List.intercalate_singleton] at h
          exact Or.inr ⟨part, List.mem_cons_self, h⟩
      | cons next rest =>
          rw [List.intercalate_cons_cons, List.mem_append, List.mem_append] at h
          rcases h with (h | h) | h
          · exact Or.inr ⟨part, List.mem_cons_self, h⟩
          · exact Or.inl (List.mem_singleton.mp h)
          · rcases ih h with heq | ⟨p, hp, hc⟩
            · exact Or.inl heq
            · exact Or.inr ⟨p, List.mem_cons_of_mem _ hp, hc⟩

/-- What is true of all characters of the parts, and of the joint, is true of all
    characters of the joined text. -/
theorem all_intercalate {p : Char → Bool} {sep : Char} {parts : List (List Char)}
    (hsep : p sep = true) (hparts : ∀ part ∈ parts, part.all p = true) :
    (List.intercalate [sep] parts).all p = true := by
  rw [List.all_eq_true]
  intro c hc
  rcases mem_intercalate hc with rfl | ⟨part, hpart, hmem⟩
  · exact hsep
  · exact List.all_eq_true.mp (hparts part hpart) c hmem

end FindingsBrowser.Text
