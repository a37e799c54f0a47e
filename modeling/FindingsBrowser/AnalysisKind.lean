import FindingsBrowser.Json.Record

/-! # Analysis kinds — the seven analyses, in the order of the dashboard

    A kind has a slug, used in URLs, report names and JSON, and a title. -/

namespace FindingsBrowser

/-- The analysis that produced a report. -/
inductive AnalysisKind where
  | statementCoverage
  | branchCoverage
  | complexity
  | duplication
  | mutationTest
  | codeViolation
  | recipeViolation
  deriving DecidableEq

namespace AnalysisKind

/-- All kinds, in dashboard order. -/
def all : List AnalysisKind :=
  [statementCoverage, branchCoverage, complexity, duplication, mutationTest,
    codeViolation, recipeViolation]

/-- A kind's place in the dashboard. -/
def position : AnalysisKind → Nat
  | statementCoverage => 0
  | branchCoverage => 1
  | complexity => 2
  | duplication => 3
  | mutationTest => 4
  | codeViolation => 5
  | recipeViolation => 6

def slug : AnalysisKind → String
  | statementCoverage => "statement-coverage"
  | branchCoverage => "branch-coverage"
  | complexity => "complexity"
  | duplication => "duplication"
  | mutationTest => "mutation-test"
  | codeViolation => "code-violation"
  | recipeViolation => "recipe-violation"

def title : AnalysisKind → String
  | statementCoverage => "Statement Coverage"
  | branchCoverage => "Branch Coverage"
  | complexity => "Complexity"
  | duplication => "Duplications"
  | mutationTest => "Mutation Tests"
  | codeViolation => "Code Violations"
  | recipeViolation => "Recipe Violations"

/-- The kind of a slug. -/
def ofSlug? (s : String) : Option AnalysisKind :=
  all.find? fun kind => kind.slug == s

/-- What is said about a text that is no slug. -/
def unknownMessage (s : String) : String :=
  "unknown analysis kind '" ++ s ++ "' (expected one of: " ++
    ", ".intercalate (all.map slug) ++ ")"

def toJson (kind : AnalysisKind) : Json := .string kind.slug

def ofJson? : Json → Option AnalysisKind :=
  Json.choice? ofSlug?

end AnalysisKind

end FindingsBrowser
