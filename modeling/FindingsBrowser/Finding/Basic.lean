import FindingsBrowser.Document.Span

/-! # Findings — analysis results attached to lines of a file

    Coverage results, mutants and violations belong to one line; complexity
    results and duplicates to a range. -/

namespace FindingsBrowser

/-- Outcome of one mutant. -/
inductive MutantStatus where
  | killed
  | survived
  | skipped
  | error
  deriving DecidableEq

/-- Level of a violation. -/
inductive Severity where
  | major
  | minor
  | info
  deriving DecidableEq

/-- Coverage of an instrumented line, or of one branch arm on it. -/
structure Coverage where
  line : Nat
  covered : Bool
  arm : Option Nat
  deriving DecidableEq

/-- Complexity of a function body. -/
structure Complexity where
  first : Nat
  last : Nat
  value : Nat
  function : Option String
  deriving DecidableEq

/-- Another place that holds a duplicated block. -/
structure Place where
  file : String
  first : Nat
  last : Nat
  deriving DecidableEq

/-- A duplicated block and the other places it is found in. -/
structure Duplicate where
  first : Nat
  last : Nat
  places : List Place
  deriving DecidableEq

/-- One mutant; several may share a line. -/
structure Mutant where
  line : Nat
  status : MutantStatus
  mutator : String
  className : String
  methodName : String
  killer : Option String
  deriving DecidableEq

/-- A code or recipe violation. -/
structure Violation where
  line : Nat
  severity : Severity
  rule : String
  message : String
  tool : Option String
  column : Option Nat
  description : Option String
  deriving DecidableEq

/-- One analysis result. -/
inductive Finding where
  | coverage (f : Coverage)
  | complexity (f : Complexity)
  | duplicate (f : Duplicate)
  | mutant (f : Mutant)
  | violation (f : Violation)
  deriving DecidableEq

namespace Finding

/-- The lines a finding touches. -/
def span : Finding → LineSpan
  | coverage f => .single f.line
  | complexity f => ⟨f.first, f.last⟩
  | duplicate f => ⟨f.first, f.last⟩
  | mutant f => .single f.line
  | violation f => .single f.line

/-- Whether a finding touches a line. -/
def touches (f : Finding) (line : Nat) : Bool :=
  f.span.contains line

/-- Whether a finding is a duplicated block. -/
def isDuplicate : Finding → Bool
  | duplicate _ => true
  | _ => false

/-- Whether a finding is keyed by a range. -/
def isRanged : Finding → Bool
  | complexity _ => true
  | duplicate _ => true
  | _ => false

end Finding

end FindingsBrowser
