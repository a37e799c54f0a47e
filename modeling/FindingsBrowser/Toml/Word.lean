import FindingsBrowser.Binary64.Notation
import FindingsBrowser.Json.Parser
import FindingsBrowser.Toml.Moment

/-! # Words — values that stand without quotes

    A word is a boolean, a number, a date or a time. No setting takes a number
    with a fraction, a date or a time, so these only have to be well formed.

    The form of an integer is wider than its digits: behind an underscore any
    text may follow that starts with a digit of the largest base, as in `1_a`.
    Such a word is well formed, but it is no number. -/

namespace FindingsBrowser.Toml

open Text

/-- What a word writes. -/
inductive Word where
  | boolean (b : Bool)
  | integer (negative : Bool) (n : Nat)
  /-- A number with a fraction or an exponent, or none that is finite. -/
  | real
  /-- A date, a time, or both. -/
  | moment
  /-- The form of an integer around digits that write none. -/
  | garbled

/-- Whether a character belongs to a word. -/
def isWord (c : Char) : Bool :=
  c ∉ ['=', ',', '[', ']', '{', '}', '#', ' ', '\t', '\r', '\n']

/-! ## Underscores -/

/-- Whether underscores part a text well: no part is empty, all but the first
    start with a digit, and all but the last end with one, unless they are a
    single character, which may be a sign. -/
def parted (isDigit : Char → Bool) (s : List Char) : Bool :=
  let parts := s.splitOn '_'
  parts.length == 1
    || (parts.all (!·.isEmpty)
      && parts.tail.all (fun part => part.head?.all isDigit)
      && parts.dropLast.all fun part => part.length == 1 || part.getLast?.all isDigit)

/-- A text without its underscores. -/
def dropUnderscores (s : List Char) : List Char :=
  s.filter (· != '_')

/-! ## Integers -/

/-- Whether a character is a digit of the largest base. -/
def isHexDigit (c : Char) : Bool :=
  (Json.hexValue? c).isSome

/-- The number that digits of a base write. -/
def readBase (base acc : Nat) : List Char → Option Nat
  | [] => some acc
  | c :: cs =>
      (Json.hexValue? c).bind fun d =>
        if d < base then readBase base (acc * base + d) cs else none

/-- An integer in a base other than ten, from behind the letter of its base. -/
def readBased (base : Nat) (s : List Char) : Option Word :=
  let digits := dropUnderscores s
  if parted isHexDigit s then
    (readBase base 0 digits).map fun n =>
      if digits.isEmpty then .garbled else .integer false n
  else none

/-- An integer in base ten, with its sign; leading zeros are not allowed. -/
def readInteger (word : List Char) : Option Word :=
  let (negative, s) := Binary64.readSign word
  if (s.head? == some '0' && s.length != 1) || !parted isHexDigit word then none
  else
    match readDigits 0 (dropUnderscores s) with
    | some n => some (.integer negative n)
    | none => some .garbled

/-! ## Numbers with a fraction -/

/-- The text after digits and underscores, at least one of them a digit. Several
    digits start with a zero only if `zeros` is set. -/
def afterDigits? (zeros : Bool) (s : List Char) : Option (List Char) :=
  let belongs := fun c : Char => c.isDigit || c == '_'
  let count := (s.takeWhile belongs).countP Char.isDigit
  if count = 0 ∨ (1 < count ∧ s.head? = some '0' ∧ zeros = false) then none
  else some (s.dropWhile belongs)

/-- The text after a fraction, if there is one. -/
def afterFraction? : List Char → Option (List Char)
  | '.' :: s => afterDigits? true s
  | s => some s

/-- The text after an exponent, if there is one. -/
def afterExponent? : List Char → Option (List Char)
  | [] => some []
  | c :: s =>
      if c = 'e' ∨ c = 'E' then afterDigits? true (Binary64.readSign s).2 else some (c :: s)

/-- Whether a text without sign has the parts of a number with a fraction or an
    exponent, in their order. -/
def isReal (s : List Char) : Bool :=
  (do afterExponent? (← afterFraction? (← afterDigits? false s))) == some []

/-! ## Words -/

/-- What a word writes that starts with a sign, a decimal digit or an
    underscore. -/
def readDecimal (word : List Char) : Option Word :=
  let s := (Binary64.readSign word).2
  match s.dropWhile Char.isDigit with
  | [] => readInteger word
  | c :: rest =>
      if c = '-' ∨ c = ':' then if isMoment word then some .moment else none
      else if (c :: rest).any fun d => d == '.' || d == 'e' || d == 'E' then
        if isReal s && parted Char.isDigit word then some .real else none
      else if c = '_' then readInteger word
      else none

/-- What a word writes. A sign is for numbers in base ten and for infinities and
    the like. -/
def readWord (word : List Char) : Option Word :=
  match word with
  | ['t', 'r', 'u', 'e'] => some (.boolean true)
  | ['f', 'a', 'l', 's', 'e'] => some (.boolean false)
  | '0' :: 'x' :: digits => readBased 16 digits
  | '0' :: 'o' :: digits => readBased 8 digits
  | '0' :: 'b' :: digits => readBased 2 digits
  | _ =>
      match (Binary64.readSign word).2 with
      | ['i', 'n', 'f'] => some .real
      | ['n', 'a', 'n'] => some .real
      | c :: _ => if c.isDigit || c == '_' then readDecimal word else none
      | [] => none

/-- A word at the start of a text, and the text after it. A date and a time may
    have a blank between them. -/
def takeWord (s : List Char) : Option (Word × List Char) :=
  let word := s.takeWhile isWord
  let rest := s.dropWhile isWord
  match rest with
  | ' ' :: tail =>
      if isMoment (word ++ ' ' :: tail.takeWhile isWord) then
        some (.moment, tail.dropWhile isWord)
      else (readWord word).map fun w => (w, rest)
  | _ => (readWord word).map fun w => (w, rest)

end FindingsBrowser.Toml
