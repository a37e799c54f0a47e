import FindingsBrowser.Json.Basic

/-! # JSON text — reading a value

    Strict JSON: no blanks but space, tab, line feed and carriage return, no
    leading zeros, no raw control characters in strings, nothing after the
    value. Unpaired surrogates, numbers past the largest binary64 and values
    nested more than `maxNesting` deep are read as `Json.unreadable`, and so is
    an object with an unpaired surrogate in a name. -/

namespace FindingsBrowser.Json

open Text

/-- How many lists and objects may stand inside one another. -/
def maxNesting : Nat := 127

/-- The text after leading blanks. -/
def skipSpace : List Char → List Char
  | [] => []
  | c :: cs =>
      if c = ' ' ∨ c = '\n' ∨ c = '\t' ∨ c = '\r' then skipSpace cs else c :: cs

/-! ## Strings -/

/-- One element of a written string: a character, or the unit of a `\u` escape. -/
inductive Piece where
  | char (c : Char)
  | unit (n : Nat)

/-- Where the reader stands inside a string. -/
inductive Mode where
  | plain
  /-- After a backslash. -/
  | escaped
  /-- Inside a `\u` escape: digits to come after the next one, and the value so
      far. -/
  | hex (left value : Nat)

/-- The character that a one-letter escape stands for. -/
def unescape? (c : Char) : Option Char :=
  match c with
  | '"' => some '"'
  | '\\' => some '\\'
  | '/' => some '/'
  | 'b' => some '\x08'
  | 'f' => some '\x0c'
  | 'n' => some '\n'
  | 'r' => some '\r'
  | 't' => some '\t'
  | _ => none

/-- The value of a hexadecimal digit of either case. -/
def hexValue? (c : Char) : Option Nat :=
  if '0' ≤ c ∧ c ≤ '9' then some (c.toNat - '0'.toNat)
  else if 'a' ≤ c ∧ c ≤ 'f' then some (c.toNat - 'a'.toNat + 10)
  else if 'A' ≤ c ∧ c ≤ 'F' then some (c.toNat - 'A'.toNat + 10)
  else none

/-- The elements of a string up to its closing quote, and the text after it. -/
def readPieces : Mode → List Char → Option (List Piece × List Char)
  | _, [] => none
  | .plain, c :: cs =>
      if c = '"' then some ([], cs)
      else if c = '\\' then readPieces .escaped cs
      else if c.toNat < 0x20 then none
      else (readPieces .plain cs).map fun (ps, rest) => (.char c :: ps, rest)
  | .escaped, c :: cs =>
      if c = 'u' then readPieces (.hex 3 0) cs
      else
        match unescape? c with
        | none => none
        | some d => (readPieces .plain cs).map fun (ps, rest) => (.char d :: ps, rest)
  | .hex left value, c :: cs =>
      match hexValue? c with
      | none => none
      | some d =>
          let value := value * 16 + d
          match left with
          | 0 => (readPieces .plain cs).map fun (ps, rest) => (.unit value :: ps, rest)
          | left + 1 => readPieces (.hex left value) cs

/-- The text that the elements stand for: surrogates must come in pairs. -/
def joinPieces : List Piece → Option (List Char)
  | [] => some []
  | .char c :: ps => (joinPieces ps).map (c :: ·)
  | .unit n :: ps =>
      if n < 0xD800 ∨ 0xDFFF < n then (joinPieces ps).map (Char.ofNat n :: ·)
      else
        match ps with
        | .unit m :: rest =>
            if n < 0xDC00 ∧ 0xDC00 ≤ m ∧ m ≤ 0xDFFF then
              (joinPieces rest).map
                (Char.ofNat (0x10000 + (n - 0xD800) * 0x400 + (m - 0xDC00)) :: ·)
            else none
        | _ => none

/-- The text after an opening quote, `none` if it stands for no text, and what
    follows the string. -/
def readString (s : List Char) : Option (Option String × List Char) :=
  (readPieces .plain s).map fun (ps, rest) => ((joinPieces ps).map String.ofList, rest)

/-! ## Numbers -/

/-- The leading digits and the rest. -/
def spanDigits (s : List Char) : List Char × List Char :=
  s.span fun c => (digitValue? c).isSome

/-- The digits after a decimal point, if there is one. -/
def readFraction : List Char → Option (List Char × List Char)
  | '.' :: s =>
      let (digits, rest) := spanDigits s
      if digits.isEmpty then none else some (digits, rest)
  | s => some ([], s)

/-- The exponent, if there is one. -/
def readExponent : List Char → Option (Option Int × List Char)
  | [] => some (none, [])
  | c :: s =>
      if c = 'e' ∨ c = 'E' then
        let (negative, s) := Binary64.readSign s
        let (digits, rest) := spanDigits s
        if digits.isEmpty then none
        else
          (readDigits 0 digits).map fun n =>
            (some (if negative then -(n : Int) else n), rest)
      else some (none, c :: s)

/-- A literal without its sign. -/
def readUnsigned (negative : Bool) (s : List Char) : Option (Number × List Char) := do
  let (digits, s) := spanDigits s
  if digits.isEmpty || (digits.head? == some '0' && digits.length != 1) then none
  else
    let whole ← readDigits 0 digits
    let (fraction, s) ← readFraction s
    let (exponent, s) ← readExponent s
    pure (⟨negative, whole, fraction, exponent⟩, s)

/-- A literal and the text after it. -/
def readNumber : List Char → Option (Number × List Char)
  | '-' :: s => readUnsigned true s
  | s => readUnsigned false s

/-- A literal as a value. -/
def ofLiteral (n : Number) : Json :=
  if n.toBinary64?.isSome then .number n else .unreadable

/-! ## Values -/

/-- A list or object that stands where `room` more levels are allowed. -/
def nested (room : Nat) (j : Json) : Json :=
  if room = 0 then .unreadable else j

/-- An object; one with a name that is no text cannot be read. -/
def ofFields (fields : List (Option String × Json)) : Json :=
  match fields.mapM fun (name, j) => name.map fun name => (name, j) with
  | some fields => .object fields
  | none => .unreadable

mutual

/-- One value and the text after it. `fuel` bounds the steps and `room` is the
    number of levels that may still be opened. -/
def readValue : (fuel room : Nat) → List Char → Option (Json × List Char)
  | 0, _, _ => none
  | fuel + 1, room, s =>
      match skipSpace s with
      | 'n' :: 'u' :: 'l' :: 'l' :: s => some (.null, s)
      | 't' :: 'r' :: 'u' :: 'e' :: s => some (.bool true, s)
      | 'f' :: 'a' :: 'l' :: 's' :: 'e' :: s => some (.bool false, s)
      | '"' :: s =>
          (readString s).map fun (t, s) => ((t.map Json.string).getD .unreadable, s)
      | '[' :: s =>
          match skipSpace s with
          | ']' :: s => some (nested room (.array []), s)
          | s => (readItems fuel (room - 1) s).map fun (js, s) => (nested room (.array js), s)
      | '{' :: s =>
          match skipSpace s with
          | '}' :: s => some (nested room (.object []), s)
          | s =>
              (readFields fuel (room - 1) s).map fun (fs, s) => (nested room (ofFields fs), s)
      | s => (readNumber s).map fun (n, s) => (ofLiteral n, s)

/-- One or more items, the closing bracket, and the text after it. -/
def readItems : (fuel room : Nat) → List Char → Option (List Json × List Char)
  | 0, _, _ => none
  | fuel + 1, room, s => do
      let (j, s) ← readValue fuel room s
      match skipSpace s with
      | ',' :: s =>
          let (js, s) ← readItems fuel room s
          pure (j :: js, s)
      | ']' :: s => pure ([j], s)
      | _ => none

/-- One or more fields, the closing brace, and the text after it. -/
def readFields : (fuel room : Nat) → List Char →
    Option (List (Option String × Json) × List Char)
  | 0, _, _ => none
  | fuel + 1, room, s => do
      match skipSpace s with
      | '"' :: s =>
          let (key, s) ← readString s
          match skipSpace s with
          | ':' :: s =>
              let (j, s) ← readValue fuel room s
              match skipSpace s with
              | ',' :: s =>
                  let (fs, s) ← readFields fuel room s
                  pure ((key, j) :: fs, s)
              | '}' :: s => pure ([(key, j)], s)
              | _ => none
          | _ => none
      | _ => none

end

/-- The value that a text writes. Every step reads at least one character, so
    the length of the text bounds them. -/
def parse (s : String) : Option Json := do
  let chars := s.toList
  let (j, rest) ← readValue (2 * chars.length + 1) maxNesting chars
  if (skipSpace rest).isEmpty then some j else none

end FindingsBrowser.Json
