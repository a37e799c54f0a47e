import FindingsBrowser.Finding.Wire

/-! # Sources — what a fetch delivers, and how it fails -/

namespace FindingsBrowser

open Json

/-- Why a fetch delivered nothing. -/
inductive FetchError where
  | notFound (path : String)
  | transport (path message : String)
  | decode (path message : String)
  deriving DecidableEq

namespace FetchError

def message : FetchError → String
  | notFound path => path ++ ": not found"
  | transport path message => path ++ ": transport failed: " ++ message
  | decode path message => path ++ ": could not decode response: " ++ message

def isNotFound : FetchError → Bool
  | notFound _ => true
  | _ => false

end FetchError

/-- A file with its findings. -/
structure FileDetail where
  content : String
  findings : List Finding := []
  /-- The tolerance that the findings were evaluated against. -/
  tolerance : Option Nat := none
  deriving DecidableEq

namespace FileDetail

/-- The fields of a file's JSON form. -/
def fields (d : FileDetail) : List (String × Json) :=
  [("content", .string d.content), ("findings", .array (d.findings.map Finding.toJson))] ++
    whenPresent "tolerance" .ofNat d.tolerance

def toJson (d : FileDetail) : Json := .object d.fields

/-- The JSON form of a file under its path. -/
def toJsonAt (path : String) (d : FileDetail) : Json :=
  .object (("path", .string path) :: d.fields)

def ofJson? (j : Json) : Option FileDetail := do
  let [content, findings, tolerance] ← record? false ["content", "findings", "tolerance"] j
    | none
  pure
    { content := ← required string? content
      findings := ← orDefault [] (list? Finding.ofJson?) findings
      tolerance := ← optional word? tolerance }

end FileDetail

/-- A file with its findings, under its path. -/
structure FileAt where
  path : String
  detail : FileDetail
  deriving DecidableEq

namespace FileAt

def toJson (f : FileAt) : Json := f.detail.toJsonAt f.path

def ofJson? (j : Json) : Option FileAt := do
  let [path, content, findings, tolerance] ←
    record? false ["path", "content", "findings", "tolerance"] j | none
  pure
    { path := ← required string? path
      detail :=
        { content := ← required string? content
          findings := ← orDefault [] (list? Finding.ofJson?) findings
          tolerance := ← optional word? tolerance } }

end FileAt

end FindingsBrowser
