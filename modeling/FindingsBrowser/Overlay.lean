import FindingsBrowser.AnalysisKind
import FindingsBrowser.LineIndex

/-! # Overlay — one decoration for all the findings on a line

    Each analysis has its own rule for reducing the findings on a line to at
    most one decoration. Findings of other analyses never count. -/

namespace FindingsBrowser

/-- Visual class of a source line. -/
inductive Decoration where
  | covered
  | uncovered
  | complex
  | notComplex
  /-- Intensity of duplication, from 1 up. -/
  | duplicated (level : Nat)
  | killed
  | survived
  | skipped
  | mixedWithSurvived
  | mixedWithoutSurvived
  deriving DecidableEq

/-- The class name of a decoration. -/
def Decoration.className : Decoration → String
  | covered => "covered"
  | uncovered => "uncovered"
  | complex => "complex"
  | notComplex => "not-complex"
  | duplicated level => "duplicated-" ++ toString level
  | killed => "killed"
  | survived => "survived"
  | skipped => "skipped"
  | mixedWithSurvived => "mixed-with-survived"
  | mixedWithoutSurvived => "mixed-without-survived"

/-- The class of a line whose mutants all have one status. -/
def Decoration.ofStatus : MutantStatus → Decoration
  | .killed => .killed
  | .survived => .survived
  | .skipped => .skipped
  | .error => .skipped

/-- What a deployment sets about overlays. -/
structure OverlaySettings where
  /-- Complexity from which on a function is flagged. -/
  tolerance : Nat := 10
  /-- Size of the duplication palette. -/
  levels : Nat := 5
  deriving DecidableEq

/-- The rule that decorates the lines of one analysis. -/
inductive OverlayPolicy where
  | coverage
  | complexity (tolerance : Nat)
  | duplication (levels : Nat)
  | mutation
  | violation
  deriving DecidableEq

namespace OverlayPolicy

def forKind (settings : OverlaySettings) : AnalysisKind → OverlayPolicy
  | .statementCoverage => coverage
  | .branchCoverage => coverage
  | .complexity => complexity settings.tolerance
  | .duplication => duplication settings.levels
  | .mutationTest => mutation
  | .codeViolation => violation
  | .recipeViolation => violation

/-- The policy under a tolerance delivered with a document; only complexity
    has one to replace. -/
def withTolerance : OverlayPolicy → Option Nat → OverlayPolicy
  | complexity _, some tolerance => complexity tolerance
  | policy, _ => policy

/-! ## The rules

    Each is one pass over the findings of the line. -/

/-- One more finding: whether a coverage result has been met, and whether all
    that have been are covered. -/
def noteCoverage (noted : Bool × Bool) : Finding → Bool × Bool
  | .coverage c => (true, noted.2 && c.covered)
  | _ => noted

/-- Covered if every coverage result on the line is. -/
def decorateCoverage (findings : List Finding) : Option Decoration :=
  match findings.foldl noteCoverage (false, true) with
  | (false, _) => none
  | (true, true) => some .covered
  | (true, false) => some .uncovered

/-- Complex at the first function that reaches the tolerance, without a look at
    the findings behind it; `met` says whether there was a function before. -/
def decorateComplexityFrom (tolerance : Nat) (met : Bool) : List Finding → Option Decoration
  | [] => if met then some .notComplex else none
  | .complexity c :: rest =>
      if tolerance ≤ c.value then some .complex
      else decorateComplexityFrom tolerance true rest
  | _ :: rest => decorateComplexityFrom tolerance met rest

/-- Complex if some function on the line reaches the tolerance. -/
def decorateComplexity (tolerance : Nat) (findings : List Finding) : Option Decoration :=
  decorateComplexityFrom tolerance false findings

/-- One level for each duplicate on the line after the first, within the
    palette. A level is kept in a byte. -/
def decorateDuplication (levels : Nat) (findings : List Finding) : Option Decoration :=
  let overlap := findings.countP Finding.isDuplicate
  if overlap = 0 then none
  else
    let level := min (overlap - 1) (levels - 1)
    if level = 0 then none else some (.duplicated (UInt8.ofNat level).toNat)

/-- One more finding: the statuses of the mutants met, each once. -/
def noteStatus (statuses : List MutantStatus) : Finding → List MutantStatus
  | .mutant m => statuses.insert m.status
  | _ => statuses

/-- The status all mutants on the line share; else whether one survived. -/
def decorateMutation (findings : List Finding) : Option Decoration :=
  match findings.foldl noteStatus [] with
  | [] => none
  | [status] => some (.ofStatus status)
  | statuses =>
      if statuses.contains .survived then some .mixedWithSurvived
      else some .mixedWithoutSurvived

/-- The decoration of a line with these findings. -/
def decorate : OverlayPolicy → List Finding → Option Decoration
  | coverage, findings => decorateCoverage findings
  | complexity tolerance, findings => decorateComplexity tolerance findings
  | duplication levels, findings => decorateDuplication levels findings
  | mutation, findings => decorateMutation findings
  | violation, _ => none

/-- The decorated lines of a span, in ascending order. -/
def decorateSpan (policy : OverlayPolicy) (ix : LineIndex) (span : LineSpan) :
    List (Nat × Decoration) :=
  if policy = violation then []
  else
    span.lines.filterMap fun line =>
      if ix.hasFindingsAt line then
        (policy.decorate (ix.query line)).map fun decoration => (line, decoration)
      else none

end OverlayPolicy

end FindingsBrowser
