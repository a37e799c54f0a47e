import FindingsBrowser.Text.Utf8
import FindingsBrowser.Path.Basic

/-! # File trees — directories, files, and looking them up by path

    A path is resolved part by part from the root. Each part needs a directory
    to be looked up in, so a path through a file fails even if it only ends in
    a slash.

    A tree is all that stands on a disk for one reader: directories and regular
    files, each of which may be listed and read. Links and special files, missing
    permissions and reads that fail on the way are left out. -/

namespace FindingsBrowser

/-- A regular file or a directory, which may be read. -/
inductive FileTree where
  | file (bytes : List UInt8)
  | directory (entries : List (String × FileTree))

/-- Why a file cannot be read: the causes there are in a tree. -/
inductive ReadError where
  | notFound
  | notDirectory
  | isDirectory
  | nameTooLong
  | nulInName
  | notUtf8
  deriving DecidableEq

/-- What the operating system says about a failure. -/
def ReadError.message : ReadError → String
  | notFound => "No such file or directory (os error 2)"
  | notDirectory => "Not a directory (os error 20)"
  | isDirectory => "Is a directory (os error 21)"
  | nameTooLong => "File name too long (os error 36)"
  | nulInName => "file name contained an unexpected NUL byte"
  | notUtf8 => "stream did not contain valid UTF-8"

namespace FileTree

def empty : FileTree := directory []

/-- The longest name of a file, in bytes. -/
def maxName : Nat := 255

/-- The shortest path that is too long, in bytes. -/
def pathLimit : Nat := 4096

/-- The entry of a name. -/
def child? (name : String) (entries : List (String × FileTree)) : Option FileTree :=
  (entries.find? fun (n, _) => n == name).map Prod.snd

/-- Going down from `here`, with the directories above it at hand, along the
    parts of a path. -/
def walk (above : List FileTree) (here : FileTree) : List String → Except ReadError FileTree
  | [] => .ok here
  | part :: rest =>
      match here with
      | file _ => .error .notDirectory
      | directory entries =>
          if part = "" ∨ part = "." then walk above here rest
          else if part = ".." then
            match above with
            | [] => walk [] here rest
            | parent :: above => walk above parent rest
          else if maxName < part.utf8ByteSize then .error .nameTooLong
          else
            match child? part entries with
            | none => .error .notFound
            | some child => walk (here :: above) child rest

/-- What an absolute path names. -/
def resolve (root : FileTree) (path : String) : Except ReadError FileTree :=
  if path.toList.contains '\x00' then .error .nulInName
  else if path.isEmpty then .error .notFound
  else if pathLimit ≤ path.utf8ByteSize then .error .nameTooLong
  else walk [] root ((path.toList.splitOn '/').map String.ofList)

def pathExists (root : FileTree) (path : String) : Bool :=
  match root.resolve path with
  | .ok _ => true
  | .error _ => false

def isDirectory (root : FileTree) (path : String) : Bool :=
  match root.resolve path with
  | .ok (directory _) => true
  | _ => false

def isFile (root : FileTree) (path : String) : Bool :=
  match root.resolve path with
  | .ok (file _) => true
  | _ => false

/-- The text of a file. -/
def readText (root : FileTree) (path : String) : Except ReadError String :=
  match root.resolve path with
  | .error e => .error e
  | .ok (directory _) => .error .isDirectory
  | .ok (file bytes) =>
      match Text.Utf8.decode? bytes with
      | some s => .ok (String.ofList s)
      | none => .error .notUtf8

/-! ## Building -/

/-- The place that a part leads to from a place, both as names from the root
    down. -/
def descend (place : List String) (part : String) : List String :=
  if part = "" ∨ part = "." then place
  else if part = ".." then place.dropLast
  else place ++ [part]

/-- The places passed on the way along the parts of a path, and where it ends. -/
def follow (place : List String) : List String → List (List String) × List String
  | [] => ([], place)
  | part :: rest =>
      let (passed, last) := follow (descend place part) rest
      (place :: passed, last)

/-- The entries with another one for a name. -/
def putEntry (name : String) (node : FileTree) :
    List (String × FileTree) → List (String × FileTree)
  | [] => [(name, node)]
  | (n, t) :: rest =>
      if n = name then (name, node) :: rest else (n, t) :: putEntry name node rest

/-- The entries of a directory; a file has none. -/
def entries : FileTree → List (String × FileTree)
  | directory entries => entries
  | file _ => []

/-- The tree with one node changed. What is missing on the way is made. -/
def modify (change : FileTree → FileTree) : (place : List String) → FileTree → FileTree
  | [], here => change here
  | name :: rest, here =>
      let child := (child? name here.entries).getD empty
      directory (putEntry name (modify change rest child) here.entries)

/-- The tree with a directory at a place. -/
def makeDirectory (root : FileTree) (place : List String) : FileTree :=
  modify (fun here => directory here.entries) place root

/-- The tree with a file at an absolute path. -/
def addFile (root : FileTree) (path : String) (bytes : List UInt8) : FileTree :=
  let (passed, last) := follow [] ((path.toList.splitOn '/').map String.ofList)
  modify (fun _ => file bytes) last (passed.foldl makeDirectory root)

/-- The tree with a directory at an absolute path. -/
def addDirectory (root : FileTree) (path : String) : FileTree :=
  let (passed, last) := follow [] ((path.toList.splitOn '/').map String.ofList)
  (passed ++ [last]).foldl makeDirectory root

end FileTree

end FindingsBrowser
