import FindingsBrowser.Path.Basic

/-! # Path components — what is left of the parts between slashes

    A path is cut at its slashes, and `components` keeps of the parts what counts.  The
    names among the components are the parts that are neither empty nor dots, in their
    order, and a path stays inside exactly if it is not empty, does not start with a
    slash and has no part `..`, wherever that part may stand. -/

namespace FindingsBrowser.Path

/-- The parts of a path between slashes. -/
def parts (path : List Char) : List (List Char) := path.splitOn '/'

/-- The name that a component is. -/
def Component.name? : Component → Option (List Char)
  | .normal name => some name
  | _ => none

/-- The names of a path: what its components name, going down. -/
def names (path : List Char) : List (List Char) :=
  (components path).filterMap Component.name?

/-- Whether a part between slashes is a name. -/
def isName (part : List Char) : Bool :=
  part != [] && part != ['.'] && part != ['.', '.']

/-! ## Parts -/

/-- Paths put together at a slash have the parts of both. -/
theorem parts_append (a b : List Char) : parts (a ++ '/' :: b) = parts a ++ parts b :=
  List.splitOnP_append_cons a b rfl

theorem parts_ne_nil (path : List Char) : parts path ≠ [] := by
  rw [parts, List.splitOn]
  exact List.splitOnP_ne_nil _ _

/-- A path that starts with another character has it at the start of its first part. -/
theorem parts_cons {c : Char} (hc : c ≠ '/') (cs : List Char) :
    ∃ first rest, parts cs = first :: rest ∧ parts (c :: cs) = (c :: first) :: rest := by
  obtain ⟨first, rest, h⟩ := List.exists_cons_of_ne_nil (parts_ne_nil cs)
  refine ⟨first, rest, h, ?_⟩
  rw [parts, List.splitOn] at h ⊢
  rw [List.splitOnP_cons_eq_if_modifyHead, if_neg (by simpa using hc), h]
  rfl

/-- A path starts with a slash exactly if its first part is empty and not the only one. -/
theorem isAbsolute_iff {path first : List Char} {rest : List (List Char)}
    (h : parts path = first :: rest) :
    isAbsolute path = true ↔ first = [] ∧ rest ≠ [] := by
  cases path with
  | nil =>
      have hparts : parts [] = [[]] := rfl
      obtain ⟨rfl, rfl⟩ := List.cons.inj (hparts.symm.trans h)
      simp [isAbsolute]
  | cons c cs =>
      by_cases hc : c = '/'
      · subst hc
        have hparts : parts ('/' :: cs) = [] :: parts cs := parts_append [] cs
        obtain ⟨rfl, rfl⟩ := List.cons.inj (hparts.symm.trans h)
        simp [isAbsolute, parts_ne_nil]
      · obtain ⟨first', rest', -, hparts⟩ := parts_cons hc cs
        obtain ⟨rfl, rfl⟩ := List.cons.inj (hparts.symm.trans h)
        simp [isAbsolute, hc]

/-! ## Components -/

/-- The name that a part stands for. -/
theorem filterMap_ofPart (part : List Char) :
    (Component.ofPart part).filterMap Component.name? = if isName part then [part] else [] := by
  rw [Component.ofPart, isName]
  split
  · case _ h =>
      rcases h with rfl | rfl
      · rfl
      · rfl
  · case _ h =>
      rw [not_or] at h
      split
      · case _ h => rw [h]; rfl
      · case _ hdots => simp [Component.name?, h.1, h.2, hdots]

/-- The first part stands for a name as every other does. -/
theorem filterMap_ofFirst (single : Bool) (part : List Char) :
    (Component.ofFirst single part).filterMap Component.name?
      = (Component.ofPart part).filterMap Component.name? := by
  rw [Component.ofFirst]
  split
  · case _ h =>
      rw [h]
      cases single <;> rfl
  · split
    · case _ h => rw [h]; rfl
    · rfl

/-- **NAMES** are the parts that are neither empty nor dots. -/
theorem names_eq (path : List Char) : names path = (parts path).filter isName := by
  have hparts : ∀ ps : List (List Char),
      (ps.flatMap Component.ofPart).filterMap Component.name? = ps.filter isName := by
    intro ps
    induction ps with
    | nil => rfl
    | cons p ps ih =>
        rw [List.flatMap_cons, List.filterMap_append, ih, filterMap_ofPart, List.filter_cons]
        split <;> rfl
  obtain ⟨first, rest, h⟩ := List.exists_cons_of_ne_nil (parts_ne_nil path)
  have hsplit : path.splitOn '/' = first :: rest := h
  rw [names, components, hsplit, h]
  dsimp only
  rw [List.filterMap_append, filterMap_ofFirst, hparts, filterMap_ofPart, List.filter_cons]
  split <;> rfl

theorem parent_mem_ofPart {part : List Char} :
    .parent ∈ Component.ofPart part ↔ part = ['.', '.'] := by
  rw [Component.ofPart]
  split
  · case _ h =>
      rcases h with rfl | rfl <;> simp
  · split
    · case _ h => simp [h]
    · case _ h => simp [h]

theorem root_not_mem_ofPart (part : List Char) : .root ∉ Component.ofPart part := by
  rw [Component.ofPart]
  split
  · exact List.not_mem_nil
  · split <;> simp

/-- A root is a component of absolute paths only. -/
theorem root_mem_components {path : List Char} :
    .root ∈ components path ↔ isAbsolute path = true := by
  obtain ⟨first, rest, h⟩ := List.exists_cons_of_ne_nil (parts_ne_nil path)
  have hsplit : path.splitOn '/' = first :: rest := h
  have hrest : .root ∉ rest.flatMap Component.ofPart := by
    rw [List.mem_flatMap]
    rintro ⟨part, -, hroot⟩
    exact root_not_mem_ofPart part hroot
  have hfirst : .root ∈ Component.ofFirst rest.isEmpty first ↔ first = [] ∧ rest ≠ [] := by
    rw [Component.ofFirst]
    split
    · case _ hempty => cases rest <;> simp [hempty]
    · case _ hne =>
        split
        · simp [hne]
        · simp [hne, root_not_mem_ofPart]
  rw [isAbsolute_iff h, components, hsplit]
  dsimp only
  rw [List.mem_append, hfirst, or_iff_left hrest]

/-- A `..` is a component wherever it is a part. -/
theorem parent_mem_components {path : List Char} :
    .parent ∈ components path ↔ ['.', '.'] ∈ parts path := by
  obtain ⟨first, rest, h⟩ := List.exists_cons_of_ne_nil (parts_ne_nil path)
  have hsplit : path.splitOn '/' = first :: rest := h
  have hrest : .parent ∈ rest.flatMap Component.ofPart ↔ ['.', '.'] ∈ rest := by
    rw [List.mem_flatMap]
    constructor
    · rintro ⟨part, hpart, hparent⟩
      rwa [← parent_mem_ofPart.mp hparent]
    · exact fun hmem => ⟨_, hmem, parent_mem_ofPart.mpr rfl⟩
  have hfirst : .parent ∈ Component.ofFirst rest.isEmpty first ↔ ['.', '.'] = first := by
    rw [Component.ofFirst]
    split
    · case _ hempty => cases rest <;> simp [hempty]
    · split
      · case _ hdot => simp [hdot]
      · rw [parent_mem_ofPart, eq_comm]
  rw [h, components, hsplit]
  dsimp only
  rw [List.mem_append, hfirst, hrest, List.mem_cons]

/-- **STAYING INSIDE**: a path is let through exactly if it is not empty, does not start
    with a slash, and has no part `..`. -/
theorem staysInside_iff (path : List Char) :
    staysInside path = true
      ↔ path ≠ [] ∧ isAbsolute path = false ∧ ['.', '.'] ∉ parts path := by
  rw [staysInside, Bool.and_eq_true, List.all_eq_true, Bool.not_eq_true',
    List.isEmpty_eq_false_iff, Bool.eq_false_iff, ne_eq (isAbsolute path),
    ← root_mem_components, ← parent_mem_components]
  refine and_congr_right fun _ => ?_
  constructor
  · intro h
    exact ⟨fun hroot => Bool.false_ne_true (h _ hroot),
      fun hparent => Bool.false_ne_true (h _ hparent)⟩
  · rintro ⟨hroot, hparent⟩ component hmem
    cases component with
    | root => exact absurd hmem hroot
    | parent => exact absurd hmem hparent
    | current => rfl
    | normal name => rfl

/-! ## Joined paths -/

/-- A path seen from a directory: an empty directory is written without a slash, and a
    slash at its end is not written twice. -/
theorem join_cases (dir : List Char) {path : List Char} (h : isAbsolute path = false) :
    (dir = [] ∧ join dir path = path)
      ∨ (∃ stem, dir = stem ++ ['/'] ∧ join dir path = stem ++ '/' :: path)
      ∨ join dir path = dir ++ '/' :: path := by
  rw [join, h, if_neg Bool.false_ne_true]
  split
  · case _ hend =>
      rw [Bool.or_eq_true, List.isEmpty_iff, beq_iff_eq] at hend
      rcases hend with rfl | hend
      · exact Or.inl ⟨rfl, rfl⟩
      · obtain ⟨stem, rfl⟩ := List.getLast?_eq_some_iff.mp hend
        exact Or.inr (Or.inl ⟨stem, rfl, by simp⟩)
  · exact Or.inr (Or.inr rfl)

end FindingsBrowser.Path
