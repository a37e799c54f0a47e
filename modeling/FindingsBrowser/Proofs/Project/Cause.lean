import FindingsBrowser.Proofs.Project.Fetch

/-! # Causes — why a path leads nowhere, and what a fetch says of it

    A walk stops at the first part that cannot be gone along: below a file, at a name that
    is too long, or at a name that the directory does not have (`walk_eq_error_iff`).  A path
    may be refused before that, for what is written in it.  Of all these causes a fetch
    calls one `not found`: the missing name.  The others it reports as they are.  These are
    the causes in a tree whose files and directories may all be read; a tree has no links,
    no special files and no permissions. -/

namespace FindingsBrowser

namespace FileTree

/-! ## One part -/

/-- A part of a path that names an entry. -/
def Names (part : String) : Prop := ¬(part = "" ∨ part = ".") ∧ part ≠ ".."

/-- What stands in the way of going from a place along one part of a path. -/
inductive Blocks : FileTree → String → ReadError → Prop where
  | belowFile (bytes : List UInt8) (part : String) : Blocks (file bytes) part .notDirectory
  | longName {part : String} (hname : Names part) (hlong : maxName < part.utf8ByteSize)
      (entries : List (String × FileTree)) : Blocks (directory entries) part .nameTooLong
  | missing {part : String} {entries : List (String × FileTree)} (hname : Names part)
      (hshort : part.utf8ByteSize ≤ maxName) (hchild : child? part entries = none) :
      Blocks (directory entries) part .notFound

/-- Going from a place along one part, with the directories above at hand. -/
def advance (above : List FileTree) (here : FileTree) (part : String) :
    Except ReadError (List FileTree × FileTree) :=
  match here with
  | file _ => .error .notDirectory
  | directory entries =>
      if part = "" ∨ part = "." then .ok (above, here)
      else if part = ".." then
        match above with
        | [] => .ok ([], here)
        | parent :: above => .ok (above, parent)
      else if maxName < part.utf8ByteSize then .error .nameTooLong
      else
        match child? part entries with
        | none => .error .notFound
        | some child => .ok (here :: above, child)

theorem advance_blank {part : String} (h : part = "" ∨ part = ".") (above : List FileTree)
    (entries : List (String × FileTree)) :
    advance above (directory entries) part = .ok (above, directory entries) :=
  if_pos h

theorem advance_name {part : String} (h : Names part) (above : List FileTree)
    (entries : List (String × FileTree)) :
    advance above (directory entries) part =
      if maxName < part.utf8ByteSize then .error .nameTooLong
      else
        match child? part entries with
        | none => .error .notFound
        | some child => .ok (directory entries :: above, child) :=
  (if_neg h.1).trans (if_neg h.2)

/-- **STEP BY STEP**: a walk goes along its first part, and from there along the rest. -/
theorem walk_cons (above : List FileTree) (here : FileTree) (part : String)
    (rest : List String) :
    walk above here (part :: rest)
      = (advance above here part).bind fun place => walk place.1 place.2 rest := by
  cases here with
  | file bytes => rfl
  | directory entries =>
      by_cases hblank : part = "" ∨ part = "."
      · rw [walk_blank hblank, advance_blank hblank]
        rfl
      · by_cases hparent : part = ".."
        · subst hparent
          cases above <;> rfl
        · rw [walk_name hblank hparent, advance_name ⟨hblank, hparent⟩]
          split
          · rfl
          · cases child? part entries <;> rfl

theorem advance_eq_error_iff {above : List FileTree} {here : FileTree} {part : String}
    {e : ReadError} : advance above here part = .error e ↔ Blocks here part e := by
  cases here with
  | file bytes =>
      constructor
      · intro h
        obtain rfl := Except.error.inj h
        exact .belowFile bytes part
      · rintro ⟨⟩
        rfl
  | directory entries =>
      by_cases hblank : part = "" ∨ part = "."
      · rw [advance_blank hblank]
        constructor
        · exact fun h => nomatch h
        · rintro (_ | ⟨hname, -⟩ | ⟨hname, -⟩) <;> exact absurd hblank hname.1
      · by_cases hparent : part = ".."
        · subst hparent
          constructor
          · intro h
            cases above <;> exact nomatch h
          · rintro (_ | ⟨hname, -⟩ | ⟨hname, -⟩) <;> exact absurd rfl hname.2
        · have hname : Names part := ⟨hblank, hparent⟩
          rw [advance_name hname]
          constructor
          · intro h
            split at h
            · case _ hlong =>
                obtain rfl := Except.error.inj h
                exact .longName hname hlong entries
            · case _ hshort =>
                cases hchild : child? part entries with
                | none =>
                    rw [hchild] at h
                    obtain rfl := Except.error.inj h
                    exact .missing hname (Nat.not_lt.mp hshort) hchild
                | some child =>
                    rw [hchild] at h
                    exact nomatch h
          · intro h
            cases h with
            | longName _ hlong => rw [if_pos hlong]
            | missing _ hshort hchild => rw [if_neg (Nat.not_lt.mpr hshort), hchild]

/-! ## Walks -/

/-- A walk stops where some of its parts have been gone along and the next one is
    blocked. -/
def Stops (above : List FileTree) (here : FileTree) (parts : List String) (e : ReadError) :
    Prop :=
  ∃ before part after there, parts = before ++ part :: after
    ∧ walk above here before = .ok there ∧ Blocks there part e

theorem not_stops_nil {above : List FileTree} {here : FileTree} {e : ReadError} :
    ¬Stops above here [] e := by
  rintro ⟨before, part, after, there, hparts, -⟩
  exact absurd hparts.symm (List.append_ne_nil_of_right_ne_nil before (List.cons_ne_nil part after))

/-- A walk stops at its first part, or goes along it and stops later. -/
theorem stops_cons_iff {above : List FileTree} {here : FileTree} {part : String}
    {rest : List String} {e : ReadError} :
    Stops above here (part :: rest) e
      ↔ Blocks here part e
        ∨ ∃ place, advance above here part = .ok place ∧ Stops place.1 place.2 rest e := by
  constructor
  · rintro ⟨before, part', after, there, hparts, hwalk, hblocks⟩
    cases before with
    | nil =>
        obtain ⟨rfl, -⟩ := List.cons.inj hparts
        obtain rfl := Except.ok.inj hwalk
        exact Or.inl hblocks
    | cons first before =>
        obtain ⟨rfl, hrest⟩ := List.cons.inj hparts
        rw [walk_cons] at hwalk
        cases hstep : advance above here part with
        | error e' =>
            rw [hstep] at hwalk
            exact nomatch hwalk
        | ok place =>
            rw [hstep] at hwalk
            exact Or.inr ⟨place, rfl, before, part', after, there, hrest, hwalk, hblocks⟩
  · rintro (hblocks | ⟨place, hstep, before, part', after, there, rfl, hwalk, hblocks⟩)
    · exact ⟨[], part, rest, here, rfl, rfl, hblocks⟩
    · refine ⟨part :: before, part', after, there, rfl, ?_, hblocks⟩
      rw [walk_cons, hstep]
      exact hwalk

/-- **WHERE A WALK STOPS**: it fails exactly if some of its parts can be gone along and the
    next one is blocked, with the error of that block. -/
theorem walk_eq_error_iff {parts : List String} {e : ReadError} :
    ∀ {above : List FileTree} {here : FileTree},
      walk above here parts = .error e ↔ Stops above here parts e := by
  induction parts with
  | nil =>
      intro above here
      exact ⟨fun h => (nomatch h), fun h => absurd h not_stops_nil⟩
  | cons part rest ih =>
      intro above here
      rw [walk_cons, stops_cons_iff, ← advance_eq_error_iff]
      cases advance above here part with
      | error e' => simp [Except.bind]
      | ok place => simp [Except.bind, ih]

/-! ## Paths -/

/-- What hinders a path from being resolved: a character that no path can have, its length,
    or a block on its way. -/
inductive Hinders (root : FileTree) (path : String) : ReadError → Prop where
  | nul (h : '\x00' ∈ path.toList) : Hinders root path .nulInName
  | longPath (hnul : '\x00' ∉ path.toList) (h : pathLimit ≤ path.utf8ByteSize) :
      Hinders root path .nameTooLong
  | onTheWay {e : ReadError} (hnul : '\x00' ∉ path.toList) (hshort : path.utf8ByteSize < pathLimit)
      {before after : List String} {part : String} {there : FileTree}
      (hparts : parts path = before ++ part :: after)
      (hwalk : walk [] root before = .ok there) (hblocks : Blocks there part e) :
      Hinders root path e

/-- A path that is not empty is resolved unless something hinders it. -/
theorem resolve_eq_error_iff {root : FileTree} {path : String} (hne : path.isEmpty = false)
    {e : ReadError} : root.resolve path = .error e ↔ Hinders root path e := by
  have hcontains : path.toList.contains '\x00' = true ↔ '\x00' ∈ path.toList :=
    List.contains_iff_mem
  by_cases hnul : '\x00' ∈ path.toList
  · rw [resolve, if_pos (hcontains.mpr hnul)]
    constructor
    · intro h
      obtain rfl := Except.error.inj h
      exact .nul hnul
    · rintro (_ | ⟨hno, -⟩ | ⟨hno⟩)
      · rfl
      · exact absurd hnul hno
      · exact absurd hnul hno
  · have hno : path.toList.contains '\x00' = false :=
      Bool.eq_false_iff.mpr fun htrue => hnul (hcontains.mp htrue)
    rcases Nat.lt_or_ge path.utf8ByteSize pathLimit with hshort | hlong
    · rw [resolve_eq_lookUp hno hne hshort, lookUp, walk_eq_error_iff]
      constructor
      · rintro ⟨before, part, after, there, hparts, hwalk, hblocks⟩
        exact .onTheWay hnul hshort hparts hwalk hblocks
      · rintro (hyes | ⟨-, hlong⟩ | ⟨-, -, hparts, hwalk, hblocks⟩)
        · exact absurd hyes hnul
        · exact absurd hlong (Nat.not_le.mpr hshort)
        · exact ⟨_, _, _, _, hparts, hwalk, hblocks⟩
    · rw [resolve, hno, hne, if_neg Bool.false_ne_true, if_neg Bool.false_ne_true, if_pos hlong]
      constructor
      · intro h
        obtain rfl := Except.error.inj h
        exact .longPath hnul hlong
      · rintro (hyes | ⟨-, -⟩ | ⟨-, hshort, -, -, -⟩)
        · exact absurd hyes hnul
        · rfl
        · exact absurd hlong (Nat.not_le.mpr hshort)

/-- Nothing that hinders a path has to do with what a file holds. -/
theorem Hinders.ne_notUtf8 {root : FileTree} {path : String} {e : ReadError}
    (h : Hinders root path e) : e ≠ .notUtf8 := by
  rcases h with _ | _ | ⟨-, -, -, -, hblocks⟩
  · exact fun h => nomatch h
  · exact fun h => nomatch h
  · cases hblocks <;> exact fun h => nomatch h

/-- **WHY A FILE IS NOT READ**: something hinders the path, or a directory is at its end, or
    a file that is no text. -/
theorem readText_eq_error_iff {root : FileTree} {path : String} (hne : path.isEmpty = false)
    {e : ReadError} :
    root.readText path = .error e
      ↔ Hinders root path e
        ∨ (∃ entries, root.resolve path = .ok (directory entries) ∧ e = .isDirectory)
        ∨ ∃ bytes, root.resolve path = .ok (file bytes)
          ∧ Text.Utf8.decode? bytes = none ∧ e = .notUtf8 := by
  rw [← resolve_eq_error_iff hne, readText]
  cases hresolve : root.resolve path with
  | error e' => simp
  | ok node =>
      cases node with
      | directory entries => simp [eq_comm]
      | file bytes => cases hdecode : Text.Utf8.decode? bytes <;> simp [hdecode, eq_comm]

/-- What is read is the text of the file at the end of the path. -/
theorem readText_eq_ok_iff {root : FileTree} {path content : String} :
    root.readText path = .ok content
      ↔ ∃ bytes, root.resolve path = .ok (file bytes)
        ∧ Text.Utf8.decode? bytes = some content.toList := by
  constructor
  · intro h
    rw [readText] at h
    split at h
    · cases h
    · cases h
    · case _ bytes hresolve =>
        split at h
        · case _ s hdecode =>
            obtain rfl := Except.ok.inj h
            exact ⟨bytes, hresolve, by rw [hdecode, String.toList_ofList]⟩
        · cases h
  · rintro ⟨bytes, hresolve, hdecode⟩
    rw [readText_of_resolve hresolve hdecode, String.ofList_toList]

end FileTree

/-! ## Fetches -/

/-- What a fetch of a path reports when the file cannot be read. -/
def ReadError.reported (path : String) : ReadError → FetchError
  | notFound => .notFound path
  | notUtf8 => .decode path "file is not valid UTF-8"
  | e => .transport path e.message

/-- What hinders a path is reported as a failure of transport, but for a missing name. -/
theorem FileTree.Hinders.reported {root : FileTree} {target : String}
    {e : ReadError} (h : Hinders root target e) (hother : e ≠ .notFound) (path : String) :
    e.reported path = .transport path e.message := by
  cases e with
  | notFound => exact absurd rfl hother
  | notUtf8 => exact absurd rfl h.ne_notUtf8
  | _ => rfl

namespace KindSource

open FileTree

/-- Where a path leads from the source directory, as a path of its own. -/
def target (source : KindSource) (path : String) : String :=
  Config.resolveDir source.sourceDir path

theorem isEmpty_target (source : KindSource) {path : String}
    (h : Path.staysInside path.toList = true) : (source.target path).isEmpty = false := by
  obtain ⟨hne, habsolute, -⟩ := (Path.staysInside_iff path.toList).mp h
  rw [Bool.eq_false_iff, ne_eq, String.isEmpty_iff, target, Config.resolveDir]
  intro hempty
  have hnil : Path.join source.sourceDir.toList path.toList = [] :=
    String.ofList_injective (hempty.trans rfl)
  obtain ⟨-, hjoin⟩ | ⟨stem, -, hjoin⟩ | hjoin := Path.join_cases source.sourceDir.toList habsolute
  · exact hne (hjoin.symm.trans hnil)
  · exact absurd (hjoin.symm.trans hnil) (by simp)
  · exact absurd (hjoin.symm.trans hnil) (by simp)

/-- A path that does not stay inside is not found, and for any other the error of reading is
    reported. -/
theorem fetchFile_eq_error_iff_readText {source : KindSource} {path : String}
    {err : FetchError} :
    source.fetchFile path = .error err
      ↔ (Path.staysInside path.toList = false ∧ err = .notFound path)
        ∨ (Path.staysInside path.toList = true
          ∧ ∃ e, source.tree.readText (source.target path) = .error e
            ∧ err = e.reported path) := by
  cases hinside : Path.staysInside path.toList with
  | false =>
      rw [fetchFile_of_not_staysInside hinside]
      simp [eq_comm]
  | true =>
      rw [fetchFile, hinside, Bool.not_true, if_neg Bool.false_ne_true, ← target]
      cases source.tree.readText (source.target path) with
      | ok content => simp
      | error e => cases e <;> simp [ReadError.reported, eq_comm]

/-- Why a fetch of a path fails, with what it says then. -/
inductive Fails (source : KindSource) (path : String) : FetchError → Prop where
  | outside (houtside : Path.staysInside path.toList = false) : Fails source path (.notFound path)
  | missing (hinside : Path.staysInside path.toList = true)
      (hhinders : Hinders source.tree (source.target path) .notFound) :
      Fails source path (.notFound path)
  | hindered (hinside : Path.staysInside path.toList = true) {e : ReadError}
      (hhinders : Hinders source.tree (source.target path) e) (hother : e ≠ .notFound) :
      Fails source path (.transport path e.message)
  | directory (hinside : Path.staysInside path.toList = true) {entries : List (String × FileTree)}
      (hresolve : source.tree.resolve (source.target path) = .ok (.directory entries)) :
      Fails source path (.transport path ReadError.isDirectory.message)
  | undecodable (hinside : Path.staysInside path.toList = true) {bytes : List UInt8}
      (hresolve : source.tree.resolve (source.target path) = .ok (.file bytes))
      (hdecode : Text.Utf8.decode? bytes = none) :
      Fails source path (.decode path "file is not valid UTF-8")

/-- **WHY A FETCH FAILS**, and nothing else makes it fail. -/
theorem fetchFile_eq_error_iff {source : KindSource} {path : String} {err : FetchError} :
    source.fetchFile path = .error err ↔ source.Fails path err := by
  rw [fetchFile_eq_error_iff_readText]
  constructor
  · rintro (⟨houtside, rfl⟩ | ⟨hinside, e, hread, rfl⟩)
    · exact .outside houtside
    · rcases (readText_eq_error_iff (isEmpty_target source hinside)).mp hread with
        hhinders | ⟨entries, hresolve, rfl⟩ | ⟨bytes, hresolve, hdecode, rfl⟩
      · by_cases hmissing : e = .notFound
        · subst hmissing
          exact .missing hinside hhinders
        · rw [hhinders.reported hmissing]
          exact .hindered hinside hhinders hmissing
      · exact .directory hinside hresolve
      · exact .undecodable hinside hresolve hdecode
  · rintro (houtside | ⟨hinside, hhinders⟩ | ⟨hinside, hhinders, hother⟩ | ⟨hinside, hresolve⟩
      | ⟨hinside, hresolve, hdecode⟩)
    · exact Or.inl ⟨houtside, rfl⟩
    · have hread := (readText_eq_error_iff (isEmpty_target source hinside)).mpr (Or.inl hhinders)
      exact Or.inr ⟨hinside, _, hread, rfl⟩
    · have hread := (readText_eq_error_iff (isEmpty_target source hinside)).mpr (Or.inl hhinders)
      exact Or.inr ⟨hinside, _, hread, (hhinders.reported hother path).symm⟩
    · have hread := (readText_eq_error_iff (isEmpty_target source hinside)).mpr
        (Or.inr (Or.inl ⟨_, hresolve, rfl⟩))
      exact Or.inr ⟨hinside, _, hread, rfl⟩
    · have hread := (readText_eq_error_iff (isEmpty_target source hinside)).mpr
        (Or.inr (Or.inr ⟨_, hresolve, hdecode, rfl⟩))
      exact Or.inr ⟨hinside, _, hread, rfl⟩

end KindSource

end FindingsBrowser
