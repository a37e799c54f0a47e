import FindingsBrowser.Project.Config
import FindingsBrowser.Project.FileTree
import FindingsBrowser.Proofs.Path.Components

/-! # Looking up by path — a path that goes down sees what lies below

    A look-up walks the parts of a path and keeps the directories above at hand, for
    `..` only.  Along parts without `..` it therefore depends on nothing but the node it
    starts from: of two nodes that hold the same all the way down it makes the same
    (`walk_alike`), and what it arrives at is found by descending through the names. -/

namespace FindingsBrowser.FileTree

/-! ## Going down -/

/-- What stands at a place. -/
inductive Node where
  | file (bytes : List UInt8)
  | directory

def node : FileTree → Node
  | file bytes => .file bytes
  | directory _ => .directory

/-- The node reached by descending through names. -/
def below? : FileTree → List String → Option FileTree
  | here, [] => some here
  | file _, _ :: _ => none
  | directory entries, name :: rest => (child? name entries).bind (below? · rest)

/-- Two nodes hold the same, all the way down. -/
def Alike (a b : FileTree) : Prop :=
  ∀ names, (a.below? names).map node = (b.below? names).map node

/-- Two look-ups end alike: at nodes that hold the same, or with the same error. -/
inductive EndAlike : Except ReadError FileTree → Except ReadError FileTree → Prop where
  | found {a b : FileTree} (alike : Alike a b) : EndAlike (.ok a) (.ok b)
  | failed (e : ReadError) : EndAlike (.error e) (.error e)

/-- The entries of a name in two directories that hold the same. -/
theorem Alike.child {es fs : List (String × FileTree)} (h : Alike (directory es) (directory fs))
    (name : String) :
    (child? name es = none ∧ child? name fs = none)
      ∨ ∃ x y, child? name es = some x ∧ child? name fs = some y ∧ Alike x y := by
  have hbelow : ∀ names, ((child? name es).bind (below? · names)).map node
      = ((child? name fs).bind (below? · names)).map node := fun names => h (name :: names)
  cases hx : child? name es with
  | none =>
      cases hy : child? name fs with
      | none => exact Or.inl ⟨rfl, rfl⟩
      | some y =>
          have hhere := hbelow []
          rw [hx, hy] at hhere
          exact nomatch hhere
  | some x =>
      cases hy : child? name fs with
      | none =>
          have hhere := hbelow []
          rw [hx, hy] at hhere
          exact nomatch hhere
      | some y =>
          rw [hx, hy] at hbelow
          exact Or.inr ⟨x, y, rfl, rfl, hbelow⟩

/-! ## Walking -/

theorem walk_blank {part : String} (h : part = "" ∨ part = ".") (above : List FileTree)
    (entries : List (String × FileTree)) (rest : List String) :
    walk above (directory entries) (part :: rest) = walk above (directory entries) rest :=
  if_pos h

theorem walk_name {part : String} (h : ¬ (part = "" ∨ part = ".")) (hparent : part ≠ "..")
    (above : List FileTree) (entries : List (String × FileTree)) (rest : List String) :
    walk above (directory entries) (part :: rest) =
      if maxName < part.utf8ByteSize then .error .nameTooLong
      else
        match child? part entries with
        | none => .error .notFound
        | some child => walk (directory entries :: above) child rest :=
  (if_neg h).trans (if_neg hparent)

/-- Without a `..` the directories above are never looked at. -/
theorem walk_above {parts : List String} (h : ".." ∉ parts) :
    ∀ (above : List FileTree) (here : FileTree), walk above here parts = walk [] here parts := by
  induction parts with
  | nil => intro above here; rfl
  | cons part rest ih =>
      rw [List.mem_cons, not_or] at h
      intro above here
      cases here with
      | file bytes => rfl
      | directory entries =>
          by_cases hblank : part = "" ∨ part = "."
          · rw [walk_blank hblank, walk_blank hblank, ih h.2]
          · rw [walk_name hblank (Ne.symm h.1), walk_name hblank (Ne.symm h.1)]
            cases child? part entries with
            | none => rfl
            | some child =>
                dsimp only
                rw [ih h.2, ih h.2 [directory entries]]

/-- **IN TWO LEGS**: a walk that has gone along some parts goes on from where they led,
    if no `..` takes it back. -/
theorem walk_append {ys : List String} (h : ".." ∉ ys) (xs : List String) :
    ∀ (above : List FileTree) (here : FileTree),
      walk above here (xs ++ ys) = (walk above here xs).bind fun there => walk [] there ys := by
  induction xs with
  | nil =>
      intro above here
      exact walk_above h above here
  | cons part rest ih =>
      intro above here
      rw [List.cons_append]
      cases here with
      | file bytes => rfl
      | directory entries =>
          by_cases hblank : part = "" ∨ part = "."
          · rw [walk_blank hblank, walk_blank hblank, ih]
          · by_cases hparent : part = ".."
            · subst hparent
              cases above with
              | nil => exact ih [] (directory entries)
              | cons parent above => exact ih above parent
            · rw [walk_name hblank hparent, walk_name hblank hparent]
              split
              · rfl
              · cases child? part entries with
                | none => rfl
                | some child => exact ih (directory entries :: above) child

/-- **WALKS SEE WHAT LIES BELOW**: from nodes that hold the same, a walk down ends
    alike. -/
theorem walk_alike {parts : List String} (h : ".." ∉ parts) :
    ∀ {a b : FileTree}, Alike a b → EndAlike (walk [] a parts) (walk [] b parts) := by
  induction parts with
  | nil => intro a b hab; exact .found hab
  | cons part rest ih =>
      rw [List.mem_cons, not_or] at h
      intro a b hab
      have hnode : some a.node = some b.node := hab []
      cases a with
      | file bytes =>
          cases b with
          | file bytes' => exact .failed .notDirectory
          | directory fs => exact nomatch hnode
      | directory es =>
          cases b with
          | file bytes => exact nomatch hnode
          | directory fs =>
              by_cases hblank : part = "" ∨ part = "."
              · rw [walk_blank hblank, walk_blank hblank]
                exact ih h.2 hab
              · rw [walk_name hblank (Ne.symm h.1), walk_name hblank (Ne.symm h.1)]
                split
                · exact .failed .nameTooLong
                · obtain ⟨hx, hy⟩ | ⟨x, y, hx, hy, hxy⟩ := hab.child part
                  · rw [hx, hy]
                    exact .failed .notFound
                  · rw [hx, hy]
                    dsimp only
                    rw [walk_above h.2, walk_above h.2 [directory fs]]
                    exact ih h.2 hxy

/-- A walk down that arrives has descended through the names among the parts. -/
theorem below?_of_walk {parts : List String} (h : ".." ∉ parts) :
    ∀ {here there : FileTree}, walk [] here parts = .ok there →
      here.below? (parts.filter fun part => part != "" && part != ".") = some there := by
  induction parts with
  | nil =>
      intro here there hwalk
      exact congrArg some (Except.ok.inj hwalk)
  | cons part rest ih =>
      rw [List.mem_cons, not_or] at h
      intro here there hwalk
      cases here with
      | file bytes => exact nomatch hwalk
      | directory entries =>
          by_cases hblank : part = "" ∨ part = "."
          · rw [walk_blank hblank] at hwalk
            rw [List.filter_cons_of_neg (by rcases hblank with rfl | rfl <;> decide)]
            exact ih h.2 hwalk
          · rw [walk_name hblank (Ne.symm h.1)] at hwalk
            rw [not_or] at hblank
            rw [List.filter_cons_of_pos (by simp [hblank])]
            split at hwalk
            · exact nomatch hwalk
            · cases hchild : child? part entries with
              | none =>
                  rw [hchild] at hwalk
                  exact nomatch hwalk
              | some child =>
                  rw [hchild] at hwalk
                  dsimp only at hwalk
                  rw [walk_above h.2] at hwalk
                  rw [below?, hchild, Option.bind_some]
                  exact ih h.2 hwalk

/-! ## Paths -/

/-- The parts of a path, as they are looked up. -/
def parts (path : String) : List String := (Path.parts path.toList).map String.ofList

/-- What the parts of a path lead to from the root. -/
def lookUp (root : FileTree) (path : String) : Except ReadError FileTree :=
  walk [] root (parts path)

theorem mem_parts {part : List Char} {path : String} :
    String.ofList part ∈ parts path ↔ part ∈ Path.parts path.toList := by
  rw [parts, List.mem_map]
  constructor
  · rintro ⟨part', hmem, heq⟩
    rwa [← String.ofList_injective heq]
  · exact fun hmem => ⟨part, hmem, rfl⟩

/-- The names of a path are what a walk down descends through. -/
theorem filter_parts {path : String} (h : ['.', '.'] ∉ Path.parts path.toList) :
    ((parts path).filter fun part => part != "" && part != ".")
      = (Path.names path.toList).map String.ofList := by
  rw [parts, List.filter_map, Path.names_eq]
  congr 1
  refine List.filter_congr fun part hpart => ?_
  have hempty : String.ofList part = "" ↔ part = [] :=
    ⟨fun heq => String.ofList_injective heq, fun heq => congrArg String.ofList heq⟩
  have hdot : String.ofList part = "." ↔ part = ['.'] :=
    ⟨fun heq => String.ofList_injective heq, fun heq => congrArg String.ofList heq⟩
  have hparent : part ≠ ['.', '.'] := fun heq => h (heq ▸ hpart)
  rw [Bool.eq_iff_iff]
  simp [Path.isName, hempty, hdot, hparent]

/-- **BELOW THE DIRECTORY**: a path that stays inside is looked up from where its
    directory leads. -/
theorem lookUp_resolveDir (root : FileTree) (dir : String) {path : String}
    (h : Path.staysInside path.toList = true) :
    root.lookUp (Config.resolveDir dir path)
      = (root.lookUp dir).bind fun here => walk [] here (parts path) := by
  obtain ⟨-, habsolute, hparent⟩ := (Path.staysInside_iff path.toList).mp h
  have hdown : ".." ∉ parts path := fun hmem => hparent (mem_parts.mp hmem)
  have hne : parts path ≠ [] := fun hnil => Path.parts_ne_nil _ (List.map_eq_nil_iff.mp hnil)
  -- an empty part in front of others changes nothing
  have hslash : ∀ there : FileTree,
      walk [] there (parts path) = walk [] there ("" :: parts path) := by
    intro there
    cases there with
    | file bytes =>
        obtain ⟨part, rest, hcons⟩ := List.exists_cons_of_ne_nil hne
        rw [hcons]
        rfl
    | directory entries => rw [walk_blank (Or.inl rfl)]
  have hblank : ".." ∉ "" :: parts path := by
    rw [List.mem_cons, not_or]
    exact ⟨by decide, hdown⟩
  have hjoined : parts (Config.resolveDir dir path)
      = (Path.parts (Path.join dir.toList path.toList)).map String.ofList := by
    rw [parts, Config.resolveDir, String.toList_ofList]
  rw [lookUp, lookUp, hjoined, ← walk_append hdown]
  obtain ⟨hdir, hjoin⟩ | ⟨stem, hdir, hjoin⟩ | hjoin := Path.join_cases dir.toList habsolute
  · rw [hjoin, parts, hdir]
    exact hslash root
  · rw [hjoin, Path.parts_append, List.map_append, parts, hdir, Path.parts_append, List.map_append,
      List.append_assoc]
    show walk [] root (_ ++ parts path) = walk [] root (_ ++ "" :: parts path)
    rw [walk_append hdown, walk_append hblank]
    simp only [hslash]
  · rw [hjoin, Path.parts_append, List.map_append]
    rfl

/-- A path that a system accepts is resolved by a look-up. -/
theorem resolve_eq_lookUp {path : String} (hnul : path.toList.contains '\x00' = false)
    (hne : path.isEmpty = false) (hshort : path.utf8ByteSize < pathLimit) (root : FileTree) :
    root.resolve path = root.lookUp path := by
  rw [resolve, hnul, hne, if_neg Bool.false_ne_true, if_neg Bool.false_ne_true,
    if_neg (Nat.not_le.mpr hshort)]
  rfl

/-- A path is refused whatever there is, or resolved by a look-up. -/
theorem resolve_cases (path : String) :
    (∃ e, ∀ root : FileTree, root.resolve path = .error e)
      ∨ ∀ root : FileTree, root.resolve path = root.lookUp path := by
  by_cases hnul : path.toList.contains '\x00' = true
  · exact Or.inl ⟨.nulInName, fun root => if_pos hnul⟩
  · by_cases hempty : path.isEmpty = true
    · exact Or.inl ⟨.notFound, fun root => (if_neg hnul).trans (if_pos hempty)⟩
    · by_cases hlong : pathLimit ≤ path.utf8ByteSize
      · exact Or.inl ⟨.nameTooLong,
          fun root => (if_neg hnul).trans ((if_neg hempty).trans (if_pos hlong))⟩
      · rw [Bool.not_eq_true] at hnul hempty
        exact Or.inr (resolve_eq_lookUp hnul hempty (Nat.not_le.mp hlong))

/-- Where look-ups end alike, paths are resolved alike: what a path is refused for
    depends on the path alone. -/
theorem resolve_alike {a b : FileTree} {path : String}
    (h : EndAlike (a.lookUp path) (b.lookUp path)) :
    EndAlike (a.resolve path) (b.resolve path) := by
  obtain ⟨e, hrefused⟩ | hlook := resolve_cases path
  · rw [hrefused, hrefused]
    exact .failed e
  · rw [hlook, hlook]
    exact h

/-- A path that is resolved leads where its parts lead. -/
theorem lookUp_of_resolve {root there : FileTree} {path : String}
    (h : root.resolve path = .ok there) : root.lookUp path = .ok there := by
  obtain ⟨e, hrefused⟩ | hlook := resolve_cases path
  · rw [hrefused] at h
    exact nomatch h
  · rwa [← hlook]

/-! ## Reading -/

/-- Where look-ups end alike, the same is read. -/
theorem readText_congr {a b : FileTree} {path : String}
    (h : EndAlike (a.lookUp path) (b.lookUp path)) : a.readText path = b.readText path := by
  have hresolve := resolve_alike h
  rw [readText, readText]
  generalize a.resolve path = x at hresolve ⊢
  generalize b.resolve path = y at hresolve ⊢
  cases hresolve with
  | failed e => rfl
  | @found c d alike =>
      have hnode : some c.node = some d.node := alike []
      cases c with
      | file bytes =>
          cases d with
          | file bytes' =>
              obtain rfl := Node.file.inj (Option.some.inj hnode)
              rfl
          | directory entries => exact nomatch hnode
      | directory entries =>
          cases d with
          | file bytes => exact nomatch hnode
          | directory entries' => rfl

/-- A file that is UTF-8 is read as its text. -/
theorem readText_of_resolve {root : FileTree} {path : String} {bytes : List UInt8} {s : List Char}
    (hresolve : root.resolve path = .ok (file bytes)) (hdecode : Text.Utf8.decode? bytes = some s) :
    root.readText path = .ok (String.ofList s) := by
  rw [readText, hresolve]
  dsimp only
  rw [hdecode]

/-- What is read is the text of a file that the path leads to. -/
theorem lookUp_of_readText {root : FileTree} {path content : String}
    (h : root.readText path = .ok content) :
    ∃ bytes, root.lookUp path = .ok (file bytes)
      ∧ Text.Utf8.decode? bytes = some content.toList := by
  rw [readText] at h
  split at h
  · exact nomatch h
  · exact nomatch h
  · case _ bytes hresolve =>
      split at h
      · case _ s hdecode =>
          obtain rfl := Except.ok.inj h
          exact ⟨bytes, lookUp_of_resolve hresolve, by rw [hdecode, String.toList_ofList]⟩
      · exact nomatch h

end FindingsBrowser.FileTree
