import FindingsBrowser.Finding.Basic
import Std.Data.HashMap

/-! # Line index — the findings that touch a line

    Built once per document: every finding is filed under each line it touches,
    by its position in the supplied list, so that a query is one look-up and
    answers in supply order. -/

namespace FindingsBrowser

/-- Findings, and for each line that any of them touches the positions of those
    that do. -/
structure LineIndex where
  findings : Array Finding
  slots : Std.HashMap Nat (List Nat)

namespace LineIndex

/-- The slots with `slot` filed under one more line, behind those already
    there. -/
def file (slot : Nat) (slots : Std.HashMap Nat (List Nat)) (line : Nat) :
    Std.HashMap Nat (List Nat) :=
  slots.insert line (slots.getD line [] ++ [slot])

/-- The lines a finding is filed under: all it touches, or those within a
    document of `bound` lines. -/
def filedLines (bound : Option Nat) (f : Finding) : List Nat :=
  match bound with
  | none => f.span.lines
  | some count => (f.span.clampTo count).lines

/-- Filing findings from position `slot` on. -/
def fileAll (bound : Option Nat) :
    Nat → List Finding → Std.HashMap Nat (List Nat) → Std.HashMap Nat (List Nat)
  | _, [], slots => slots
  | slot, f :: fs, slots =>
      fileAll bound (slot + 1) fs ((filedLines bound f).foldl (file slot) slots)

/-- The index over the lines `bound` allows. -/
def index (bound : Option Nat) (findings : List Finding) : LineIndex :=
  ⟨findings.toArray, fileAll bound 0 findings ∅⟩

/-- The index over every line a finding touches. -/
def build (findings : List Finding) : LineIndex :=
  index none findings

/-- The index over the lines of a document of `lineCount` lines. Findings that
    reach past its end are kept. -/
def buildWithin (findings : List Finding) (lineCount : Nat) : LineIndex :=
  index (some lineCount) findings

/-- The positions of the findings touching a line, in ascending order. -/
def slotsAt (ix : LineIndex) (line : Nat) : List Nat :=
  ix.slots.getD line []

/-- The findings touching a line, in supply order. -/
def query (ix : LineIndex) (line : Nat) : List Finding :=
  (ix.slotsAt line).filterMap fun slot => ix.findings[slot]?

def hasFindingsAt (ix : LineIndex) (line : Nat) : Bool :=
  ix.slots.contains line

/-- The number of findings. -/
def size (ix : LineIndex) : Nat := ix.findings.size

def isEmpty (ix : LineIndex) : Bool := ix.findings.isEmpty

/-- The number of lines with at least one finding. -/
def indexedLines (ix : LineIndex) : Nat := ix.slots.size

end LineIndex

end FindingsBrowser
