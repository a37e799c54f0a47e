import FindingsBrowser.Text.Natural

/-! # Line spans — inclusive ranges of 1-based lines

    A span whose first line is after its last is empty. -/

namespace FindingsBrowser

/-- The lines `first … last`. -/
structure LineSpan where
  first : Nat
  last : Nat
  deriving DecidableEq

namespace LineSpan

/-- The span of one line. -/
def single (line : Nat) : LineSpan := ⟨line, line⟩

def isEmpty (s : LineSpan) : Bool := s.last < s.first

/-- The number of lines, as far as 64 bits can count them. -/
def size (s : LineSpan) : Nat :=
  if s.isEmpty then 0 else min (s.last - s.first + 1) (Text.wordLimit - 1)

def contains (s : LineSpan) (line : Nat) : Bool :=
  s.first ≤ line && line ≤ s.last

/-- The part of a span that lies in a document of `count` lines. -/
def clampTo (s : LineSpan) (count : Nat) : LineSpan :=
  ⟨max s.first 1, min s.last count⟩

/-- The lines of a span, in ascending order. -/
def lines (s : LineSpan) : List Nat :=
  List.range' s.first (s.last + 1 - s.first)

/-- The first `n` lines of a span. -/
def firstLines (n : Nat) (s : LineSpan) : List Nat :=
  List.range' s.first (min n (s.last + 1 - s.first))

end LineSpan

end FindingsBrowser
