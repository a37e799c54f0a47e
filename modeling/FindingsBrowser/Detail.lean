import FindingsBrowser.AnalysisKind
import FindingsBrowser.Finding.Wire
import FindingsBrowser.LineIndex

/-! # Detail panel — the findings of the selected line, by analysis

    The panel depends on the selection and the index alone. Its groups come in
    dashboard order, and the findings of a group in supply order. -/

namespace FindingsBrowser

/-- Findings of one analysis. -/
structure DetailGroup where
  kind : AnalysisKind
  findings : List Finding

/-- What the panel shows. -/
inductive DetailView where
  /-- No line is selected. -/
  | noSelection
  /-- The analysis has nothing on the whole document. -/
  | notAvailable
  /-- The findings touching a line; no groups if there are none. -/
  | line (line : Nat) (groups : List DetailGroup)

/-- The analysis a finding is shown under, in a document opened under
    `context`. Branch arms always are branch coverage; violations take their
    analysis from the context. -/
def Finding.kindUnder (context : AnalysisKind) : Finding → AnalysisKind
  | .coverage c =>
      if c.arm.isSome || context = .branchCoverage then .branchCoverage
      else .statementCoverage
  | .complexity _ => .complexity
  | .duplicate _ => .duplication
  | .mutant _ => .mutationTest
  | .violation _ => if context = .recipeViolation then .recipeViolation else .codeViolation

namespace DetailView

/-- The groups with one more finding: behind the others in the group of its kind,
    or in a new group behind all groups. -/
def addFinding (kind : AnalysisKind) (f : Finding) : List DetailGroup → List DetailGroup
  | [] => [⟨kind, [f]⟩]
  | g :: rest =>
      if g.kind = kind then { g with findings := g.findings ++ [f] } :: rest
      else g :: addFinding kind f rest

/-- The groups in the order in which their kinds are met. -/
def collect (context : AnalysisKind) (findings : List Finding) : List DetailGroup :=
  findings.foldl (fun groups f => addFinding (f.kindUnder context) f groups) []

/-- The findings in groups of one kind each, in dashboard order. -/
def groupByKind (context : AnalysisKind) (findings : List Finding) : List DetailGroup :=
  (collect context findings).mergeSort fun g h => g.kind.position ≤ h.kind.position

/-- The panel for a selection. -/
def ofSelection (selection : Option Nat) (ix : LineIndex) (context : AnalysisKind) :
    DetailView :=
  if ix.isEmpty then notAvailable
  else
    match selection with
    | none => noSelection
    | some n => line n (groupByKind context (ix.query n))

def selectedLine? : DetailView → Option Nat
  | line n _ => some n
  | _ => none

def groups : DetailView → List DetailGroup
  | line _ groups => groups
  | _ => []

/-- All findings shown, in display order. -/
def findings (view : DetailView) : List Finding :=
  view.groups.flatMap DetailGroup.findings

def isEmpty (view : DetailView) : Bool := view.findings.isEmpty

end DetailView

/-! ## Summaries -/

/-- A text behind a blank and in brackets, if there is one. -/
def bracketed (left right : String) : Option String → String
  | none => ""
  | some s => " " ++ left ++ s ++ right

/-- A one-line label for a finding. -/
def Finding.summary : Finding → String
  | .coverage c =>
      let arm :=
        match c.arm with
        | some n => " branch " ++ toString n
        | none => ""
      "line " ++ toString c.line ++ arm ++ (if c.covered then " covered" else " not covered")
  | .complexity c =>
      let range := "lines " ++ toString c.first ++ "-" ++ toString c.last
      let subject :=
        match c.function with
        | some name => name ++ " (" ++ range ++ ")"
        | none => range
      subject ++ " complexity " ++ toString c.value
  | .duplicate d =>
      let count := d.places.length
      "lines " ++ toString d.first ++ "-" ++ toString d.last ++ " duplicated in " ++
        toString count ++ (if count = 1 then " place" else " places")
  | .mutant m =>
      m.status.name ++ "  " ++ (if m.mutator.isEmpty then "-" else m.mutator) ++
        " (killed by: " ++ m.killer.getD "-" ++ ")"
  | .violation v =>
      v.severity.name ++ " " ++ v.rule ++ ": " ++ v.message ++
        bracketed "(column " ")" (v.column.map toString) ++ bracketed "[" "]" v.tool

end FindingsBrowser
