import FindingsBrowser.Finding.Basic
import FindingsBrowser.Json.Record

/-! # Findings as JSON

    A finding is a record whose field `type`, or first element, names its
    variant. Optional fields without a value and an empty list of places are
    left out. Reading is strict even in fields nobody asks for: a part that is
    not readable spoils the finding. -/

namespace FindingsBrowser

open Json

namespace MutantStatus

def name : MutantStatus → String
  | killed => "KILLED"
  | survived => "SURVIVED"
  | skipped => "SKIPPED"
  | error => "ERROR"

def ofName? (s : String) : Option MutantStatus :=
  [killed, survived, skipped, error].find? fun status => status.name == s

end MutantStatus

namespace Severity

def name : Severity → String
  | major => "MAJOR"
  | minor => "MINOR"
  | info => "INFO"

def ofName? (s : String) : Option Severity :=
  [major, minor, info].find? fun severity => severity.name == s

end Severity

/-- A name from a fixed choice inside a finding: as elsewhere, or as the only
    field of an object with an empty object for its value. -/
def Json.choiceInFinding? {α : Type} (read : String → Option α) : Json → Option α
  | .object [(s, .object [])] => read s
  | j => choice? read j

/-! ## Writing -/

def Place.toJson (p : Place) : Json :=
  .object [("file", .string p.file), ("start", .ofNat p.first), ("end", .ofNat p.last)]

namespace Finding

/-- The name of a finding's variant. -/
def tag : Finding → String
  | coverage _ => "line"
  | complexity _ => "range"
  | duplicate _ => "overlap"
  | mutant _ => "status"
  | violation _ => "point"

/-- The fields of a finding besides its variant. -/
def fields : Finding → List (String × Json)
  | coverage f =>
      [("line", .ofNat f.line), ("covered", .bool f.covered)] ++
        whenPresent "index" .ofNat f.arm
  | complexity f =>
      [("start", .ofNat f.first), ("end", .ofNat f.last), ("value", .ofNat f.value)] ++
        whenPresent "function" .string f.function
  | duplicate f =>
      [("start", .ofNat f.first), ("end", .ofNat f.last)] ++
        (if f.places.isEmpty then []
         else [("duplicateBlocks", .array (f.places.map Place.toJson))])
  | mutant f =>
      [("line", .ofNat f.line), ("status", .string f.status.name),
        ("mutator", .string f.mutator), ("mutatedClass", .string f.className),
        ("mutatedMethod", .string f.methodName)] ++
        whenPresent "killingTest" .string f.killer
  | violation f =>
      [("line", .ofNat f.line), ("severity", .string f.severity.name),
        ("ruleId", .string f.rule), ("message", .string f.message)] ++
        whenPresent "tool" .string f.tool ++ whenPresent "column" .ofNat f.column ++
        whenPresent "description" .string f.description

def toJson (f : Finding) : Json :=
  .object (("type", .string f.tag) :: f.fields)

end Finding

/-! ## Reading -/

def Place.ofJson? (j : Json) : Option Place := do
  let [file, first, last] ← record? false ["file", "start", "end"] j | none
  pure
    { file := ← required string? file
      first := ← required word? first
      last := ← required word? last }

def Coverage.ofJson? (j : Json) : Option Coverage := do
  let [line, covered, arm] ← record? false ["line", "covered", "index"] j | none
  pure
    { line := ← required word? line
      covered := ← required bool? covered
      arm := ← optional word? arm }

def Complexity.ofJson? (j : Json) : Option Complexity := do
  let [first, last, value, function] ←
    record? false ["start", "end", "value", "function"] j | none
  pure
    { first := ← required word? first
      last := ← required word? last
      value := ← required word? value
      function := ← optional string? function }

def Duplicate.ofJson? (j : Json) : Option Duplicate := do
  let [first, last, places] ← record? false ["start", "end", "duplicateBlocks"] j | none
  pure
    { first := ← required word? first
      last := ← required word? last
      places := ← orDefault [] (list? Place.ofJson?) places }

def Mutant.ofJson? (j : Json) : Option Mutant := do
  let [line, status, mutator, className, methodName, killer] ←
    record? false
      ["line", "status", "mutator", "mutatedClass", "mutatedMethod", "killingTest"] j
    | none
  pure
    { line := ← required word? line
      status := ← required (choiceInFinding? MutantStatus.ofName?) status
      mutator := ← orDefault "" string? mutator
      className := ← orDefault "" string? className
      methodName := ← orDefault "" string? methodName
      killer := ← optional string? killer }

def Violation.ofJson? (j : Json) : Option Violation := do
  let [line, severity, rule, message, tool, column, description] ←
    record? false
      ["line", "severity", "ruleId", "message", "tool", "column", "description"] j
    | none
  pure
    { line := ← required word? line
      severity := ← required (choiceInFinding? Severity.ofName?) severity
      rule := ← required string? rule
      message := ← required string? message
      tool := ← optional string? tool
      column := ← optional word? column
      description := ← optional string? description }

namespace Finding

/-- The finding of variant `tag` whose fields make up the record `j`. -/
def ofTagged? (tag : Json) (j : Json) : Option Finding :=
  match tag with
  | .string "line" => (Coverage.ofJson? j).map coverage
  | .string "range" => (Complexity.ofJson? j).map complexity
  | .string "overlap" => (Duplicate.ofJson? j).map duplicate
  | .string "status" => (Mutant.ofJson? j).map mutant
  | .string "point" => (Violation.ofJson? j).map violation
  | _ => none

/-- The finding that a JSON value describes. -/
def ofJson? (j : Json) : Option Finding :=
  if !j.readable then none
  else
    match j with
    | .object fs =>
        if occurrences "type" fs = 1 then
          (field? "type" fs).bind fun tag =>
            ofTagged? tag (.object (fs.filter fun (k, _) => k != "type"))
        else none
    | .array (tag :: rest) => ofTagged? tag (.array rest)
    | _ => none

end Finding

end FindingsBrowser
