import FindingsBrowser.Json.Basic

/-! # JSON text — writing a value without blanks

    Characters outside ASCII and DEL stand for themselves; the control
    characters below U+0020, the quote and the backslash are escaped. -/

namespace FindingsBrowser.Json

open Text

/-- The lower-case hexadecimal digit of a number below 16. -/
def hexDigit (n : Nat) : Char :=
  if n < 10 then Char.ofNat (0x30 + n) else Char.ofNat (0x61 + (n - 10))

/-- One character inside a string. -/
def escape (c : Char) : List Char :=
  if c = '"' then ['\\', '"']
  else if c = '\\' then ['\\', '\\']
  else if c = '\x08' then ['\\', 'b']
  else if c = '\x0c' then ['\\', 'f']
  else if c = '\n' then ['\\', 'n']
  else if c = '\r' then ['\\', 'r']
  else if c = '\t' then ['\\', 't']
  else if c.toNat < 0x20 then
    ['\\', 'u', '0', '0', hexDigit (c.toNat / 16), hexDigit (c.toNat % 16)]
  else [c]

/-- A string in quotes. -/
def quote (s : List Char) : List Char :=
  '"' :: (s.flatMap escape ++ ['"'])

/-- An exponent, always with a sign. -/
def writeExponent (e : Int) : List Char :=
  'e' :: (if e < 0 then '-' else '+') :: writeNatural e.natAbs

/-- A number literal. -/
def Number.write (n : Number) : List Char :=
  let unsigned :=
    Binary64.joinPoint (writeNatural n.whole) n.fraction ++
      (match n.exponent with
       | some e => writeExponent e
       | none => [])
  Binary64.withSign n.negative unsigned

mutual

/-- A value. -/
def write : Json → List Char
  | .null => ['n', 'u', 'l', 'l']
  | .bool true => ['t', 'r', 'u', 'e']
  | .bool false => ['f', 'a', 'l', 's', 'e']
  | .number n => n.write
  | .string s => quote s.toList
  | .array [] => ['[', ']']
  | .array (j :: js) => '[' :: (write j ++ writeItems js)
  | .object [] => ['{', '}']
  | .object ((k, j) :: fs) => '{' :: (quote k.toList ++ ':' :: (write j ++ writeFields fs))
  | .unreadable => ['n', 'u', 'l', 'l']

/-- The items after the first, each behind a comma, and the closing bracket. -/
def writeItems : List Json → List Char
  | [] => [']']
  | j :: js => ',' :: (write j ++ writeItems js)

/-- The fields after the first, each behind a comma, and the closing brace. -/
def writeFields : List (String × Json) → List Char
  | [] => ['}']
  | (k, j) :: fs => ',' :: (quote k.toList ++ ':' :: (write j ++ writeFields fs))

end

/-- The text of a value. -/
def print (j : Json) : String :=
  String.ofList j.write

end FindingsBrowser.Json
