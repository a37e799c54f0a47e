import FindingsBrowser.Text.Cut

/-! # Paths — slash-separated names, and what can be read off them

    * `components` drops empty parts and every `.` but a leading one.
    * `join` appends a path to another; an absolute one replaces it.
    * `extension?` is what follows the last dot of the last name, if a name
      stands before that dot. -/

namespace FindingsBrowser.Path

open Text

/-- One component of a path. -/
inductive Component where
  | root
  /-- A leading `.`. -/
  | current
  | parent
  | normal (name : List Char)
  deriving DecidableEq

/-- The component of one part between slashes, if it counts. -/
def Component.ofPart (part : List Char) : List Component :=
  if part = [] ∨ part = ['.'] then []
  else if part = ['.', '.'] then [.parent]
  else [.normal part]

/-- The first component of a path, from its first part; a path that starts with
    a slash has an empty first part. -/
def Component.ofFirst (single : Bool) (part : List Char) : List Component :=
  if part = [] then (if single then [] else [.root])
  else if part = ['.'] then [.current]
  else Component.ofPart part

/-- The components of a path. -/
def components (path : List Char) : List Component :=
  match path.splitOn '/' with
  | [] => []
  | part :: parts =>
      Component.ofFirst parts.isEmpty part ++ parts.flatMap Component.ofPart

/-- Whether a path starts at the root. -/
def isAbsolute (path : List Char) : Bool :=
  path.head? == some '/'

/-- The path `b` seen from the directory `a`. -/
def join (a b : List Char) : List Char :=
  if isAbsolute b then b
  else if a.isEmpty || a.getLast? == some '/' then a ++ b
  else a ++ '/' :: b

/-- The last name of a path. -/
def fileName? (path : List Char) : Option (List Char) :=
  match (components path).getLast? with
  | some (.normal name) => some name
  | _ => none

/-- What follows the last dot of the last name. -/
def extension? (path : List Char) : Option (List Char) := do
  let name ← fileName? path
  let (stem, ext) ← cutLast '.' name
  if stem.isEmpty then none else some ext

/-- Whether a path names something at or below the directory it is joined to:
    it is not empty and has neither a root nor a parent component. -/
def staysInside (path : List Char) : Bool :=
  !path.isEmpty &&
    (components path).all fun c =>
      match c with
      | .root => false
      | .parent => false
      | _ => true

end FindingsBrowser.Path
