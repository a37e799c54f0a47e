import FindingsBrowser.Text.CaseData

/-! # Lower case — the full Unicode mapping of a text

    Every character is mapped on its own, but for two rules of the standard:
    `İ` becomes an `i` followed by a combining dot, and `Σ` becomes `ς` at the
    end of a word and `σ` elsewhere. -/

namespace FindingsBrowser.Text

/-- The lower-case form of a character that has a one-character form; any
    other character is its own. -/
def lowerSimple (c : Char) : Char :=
  if c.toNat < 0x80 then c.toLower
  else
    match lowerRuns.find? fun run => run.contains c.toNat with
    | some run => Char.ofNat (c.toNat + run.offset).toNat
    | none => c

/-- Whether the first character that is not case-ignorable is cased. -/
def meetsCased (s : List Char) : Bool :=
  match s.dropWhile fun c => inRanges caseIgnorable c.toNat with
  | [] => false
  | c :: _ => inRanges cased c.toNat

/-- The lower-case form of `c` between the characters `seen` before it, nearest
    first, and `ahead` after it. -/
def lowerBetween (seen : List Char) (c : Char) (ahead : List Char) : List Char :=
  if c = 'Σ' then
    if meetsCased seen && !meetsCased ahead then ['ς'] else ['σ']
  else if c = 'İ' then ['i', '\u0307']
  else [lowerSimple c]

/-- The lower-case form of a text, given the characters `seen` before it. -/
def lowerFrom (seen : List Char) : List Char → List Char
  | [] => []
  | c :: cs => lowerBetween seen c cs ++ lowerFrom (c :: seen) cs

/-- The lower-case form of a text. -/
def lowerCase (s : List Char) : List Char :=
  lowerFrom [] s

end FindingsBrowser.Text
