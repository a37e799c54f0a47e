import FindingsBrowser.Toml.Value

/-! # TOML text — reading a document

    Strings of all four kinds, words, lists and inline tables. Lists and inline
    tables lie in one another at most 80 deep, and no key has more parts. -/

namespace FindingsBrowser.Toml

open Text

/-! ## Blanks, line ends and comments -/

/-- The text after blanks on the line. -/
def skipBlank : List Char → List Char
  | [] => []
  | c :: cs => if c = ' ' ∨ c = '\t' then skipBlank cs else c :: cs

/-- Whether a character may stand in a comment or a string as it is. -/
def isPlain (c : Char) : Bool :=
  c == '\t' || (0x20 ≤ c.toNat && c.toNat != 0x7F)

/-- The text from the end of a comment on. -/
def skipComment (s : List Char) : List Char :=
  s.dropWhile isPlain

/-- The text after a line end. -/
def newline? : List Char → Option (List Char)
  | '\n' :: s => some s
  | '\r' :: '\n' :: s => some s
  | _ => none

/-- The text after the rest of a line that holds nothing more; an empty text
    ends its last line. -/
def endLine? (s : List Char) : Option (List Char) :=
  let s :=
    match skipBlank s with
    | '#' :: s => skipComment s
    | s => s
  if s.isEmpty then some [] else newline? s

/-- The text after blanks, line ends and comments. `fuel` bounds the steps. -/
def skipLines : (fuel : Nat) → List Char → List Char
  | 0, s => s
  | fuel + 1, s =>
      match skipBlank s with
      | '#' :: s => skipLines fuel (skipComment s)
      | s =>
          match newline? s with
          | some s => skipLines fuel s
          | none => s

/-! ## Strings -/

/-- The character of a code point. -/
def scalar? (n : Nat) : Option Char :=
  if n < 0xD800 ∨ (0xDFFF < n ∧ n < 0x110000) then some (Char.ofNat n) else none

/-- The character of an escape with `width` hexadecimal digits, and the text
    after it. -/
def readCode? (width : Nat) (s : List Char) : Option (Char × List Char) := do
  let digits := s.take width
  if digits.length < width then none
  else
    let c ← scalar? (← readBase 16 0 digits)
    pure (c, s.drop width)

/-- The character of an escape, from behind its backslash. -/
def readEscape? : List Char → Option (Char × List Char)
  | '"' :: s => some ('"', s)
  | '\\' :: s => some ('\\', s)
  | 'b' :: s => some ('\x08', s)
  | 't' :: s => some ('\t', s)
  | 'n' :: s => some ('\n', s)
  | 'f' :: s => some ('\x0c', s)
  | 'r' :: s => some ('\r', s)
  | 'e' :: s => some ('\x1b', s)
  | 'x' :: s => readCode? 2 s
  | 'u' :: s => readCode? 4 s
  | 'U' :: s => readCode? 8 s
  | _ => none

/-- A result behind one more character. -/
def prepend (c : Char) (result : Option (List Char × List Char)) :
    Option (List Char × List Char) :=
  result.map fun (cs, rest) => (c :: cs, rest)

/-- A one-line string, from behind its opening quote. -/
def readBasic : (fuel : Nat) → List Char → Option (List Char × List Char)
  | 0, _ => none
  | _, [] => none
  | fuel + 1, c :: s =>
      if c = '"' then some ([], s)
      else if c = '\\' then
        match readEscape? s with
        | some (d, s) => prepend d (readBasic fuel s)
        | none => none
      else if isPlain c then prepend c (readBasic fuel s)
      else none

/-- A one-line literal string, from behind its opening quote. -/
def readLiteral : List Char → Option (List Char × List Char)
  | [] => none
  | c :: s =>
      if c = '\'' then some ([], s)
      else if isPlain c then prepend c (readLiteral s)
      else none

/-- The text after blanks and line ends. -/
def skipBreaks : List Char → List Char
  | ' ' :: s => skipBreaks s
  | '\t' :: s => skipBreaks s
  | '\n' :: s => skipBreaks s
  | '\r' :: '\n' :: s => skipBreaks s
  | s => s

/-- The text after a backslash that ends its line: all blanks and line ends that
    follow are dropped. -/
def continued? (s : List Char) : Option (List Char) :=
  (newline? (skipBlank s)).map skipBreaks

/-- The quotes that a closing run of `count` quotes adds to the string, if the
    run closes it; a run longer than five leaves the others behind. -/
def closing? (count : Nat) : Option Nat :=
  if count < 3 then none else some (min count 5 - 3)

/-- A string over several lines, from behind its first line end. Line ends stay
    as they are; backslashes count only if `escapes` is set. -/
def readMultiline (quote : Char) (escapes : Bool) :
    (fuel : Nat) → List Char → Option (List Char × List Char)
  | 0, _ => none
  | _, [] => none
  | fuel + 1, c :: s =>
      if c = quote then
        let count := ((c :: s).takeWhile (· == quote)).length
        match closing? count with
        | some extra => some (List.replicate extra quote, (c :: s).drop (extra + 3))
        | none => prepend c (readMultiline quote escapes fuel s)
      else if escapes && c == '\\' then
        match continued? s with
        | some s => readMultiline quote escapes fuel s
        | none =>
            match readEscape? s with
            | some (d, s) => prepend d (readMultiline quote escapes fuel s)
            | none => none
      else if isPlain c || (newline? (c :: s)).isSome then
        prepend c (readMultiline quote escapes fuel s)
      else none

/-- A text without a line end at its start. -/
def dropNewline (s : List Char) : List Char :=
  (newline? s).getD s

/-- A string of any kind, from its opening quote on. -/
def readString (fuel : Nat) : List Char → Option (List Char × List Char)
  | '"' :: '"' :: '"' :: s => readMultiline '"' true fuel (dropNewline s)
  | '\'' :: '\'' :: '\'' :: s => readMultiline '\'' false fuel (dropNewline s)
  | '"' :: s => readBasic fuel s
  | '\'' :: s => readLiteral s
  | _ => none

/-! ## Keys -/

/-- Whether a character may stand in a key without quotes. -/
def isBare (c : Char) : Bool :=
  c.isAlphanum || c == '-' || c == '_'

/-- One part of a key. -/
def readPart (fuel : Nat) (s : List Char) : Option (String × List Char) :=
  let read : Option (List Char × List Char) :=
    match s with
    | '"' :: s => readBasic fuel s
    | '\'' :: s => readLiteral s
    | s =>
        let name := s.takeWhile isBare
        if name.isEmpty then none else some (name, s.dropWhile isBare)
  read.map fun (name, rest) => (String.ofList name, rest)

/-- The parts of a key, with dots between them. -/
def readParts : (fuel : Nat) → List Char → Option (List String × List Char)
  | 0, _ => none
  | fuel + 1, s => do
      let (part, s) ← readPart fuel (skipBlank s)
      match skipBlank s with
      | '.' :: s =>
          let (parts, s) ← readParts fuel s
          pure (part :: parts, s)
      | s => pure ([part], s)

/-- How deep lists and inline tables may lie in one another, and how many parts
    a key may have. -/
def depthLimit : Nat := 80

/-- A key. -/
def readKey (fuel : Nat) (s : List Char) : Option (List String × List Char) := do
  let (parts, s) ← readParts fuel s
  if depthLimit < parts.length then none else some (parts, s)

/-! ## Values -/

mutual

/-- A value and the text after it. At most `depth` lists and inline tables lie in
    one another. -/
def readValue : (fuel depth : Nat) → List Char → Option (Value × List Char)
  | 0, _, _ => none
  | fuel + 1, depth, s =>
      match depth, s with
      | 0, '[' :: _ => none
      | 0, '{' :: _ => none
      | depth + 1, '[' :: s =>
          (readItems fuel depth s).map fun (items, s) => (.array items, s)
      | depth + 1, '{' :: s => do
          let (statements, s) ← readInline fuel depth s
          let entries ← run [] [] statements
          pure (.table .inline entries, s)
      | _, '"' :: _ => (readString fuel s).map fun (t, s) => (.string (String.ofList t), s)
      | _, '\'' :: _ => (readString fuel s).map fun (t, s) => (.string (String.ofList t), s)
      | _, _ => (takeWord s).map fun (w, s) => (.word w, s)

/-- The items of a list, from behind its opening bracket or a comma, and the
    text after the closing bracket. -/
def readItems : (fuel depth : Nat) → List Char → Option (List Value × List Char)
  | 0, _, _ => none
  | fuel + 1, depth, s =>
      match skipLines fuel s with
      | ']' :: s => some ([], s)
      | s => do
          let (value, s) ← readValue fuel depth s
          match skipLines fuel s with
          | ',' :: s =>
              let (values, s) ← readItems fuel depth s
              pure (value :: values, s)
          | ']' :: s => pure ([value], s)
          | _ => none

/-- The assignments of an inline table, from behind its opening brace or a
    comma, and the text after the closing brace. Lines may end anywhere but
    inside a key. -/
def readInline : (fuel depth : Nat) → List Char → Option (List Statement × List Char)
  | 0, _, _ => none
  | fuel + 1, depth, s =>
      match skipLines fuel s with
      | '}' :: s => some ([], s)
      | s => do
          let (key, s) ← readKey fuel s
          match skipLines fuel s with
          | '=' :: s =>
              let (value, s) ← readValue fuel depth (skipLines fuel s)
              match skipLines fuel s with
              | ',' :: s =>
                  let (rest, s) ← readInline fuel depth s
                  pure (.assignment key value :: rest, s)
              | '}' :: s => pure ([.assignment key value], s)
              | _ => none
          | _ => none

end

/-! ## Documents -/

/-- One statement, without the end of its line. -/
def readStatement (fuel : Nat) (s : List Char) : Option (Statement × List Char) :=
  match s with
  | '[' :: '[' :: s => do
      let (path, s) ← readKey fuel s
      match s with
      | ']' :: ']' :: s => pure (.itemHeader path, s)
      | _ => none
  | '[' :: s => do
      let (path, s) ← readKey fuel s
      match s with
      | ']' :: s => pure (.header path, s)
      | _ => none
  | s => do
      let (key, s) ← readKey fuel s
      match s with
      | '=' :: s =>
          let (value, s) ← readValue fuel depthLimit (skipBlank s)
          pure (.assignment key value, s)
      | _ => none

/-- The statements of a document, one a line. -/
def readStatements : (fuel : Nat) → List Char → Option (List Statement)
  | 0, _ => none
  | fuel + 1, s =>
      let s := skipLines fuel s
      if s.isEmpty then some []
      else do
        let (statement, s) ← readStatement fuel s
        let s ← endLine? s
        let rest ← readStatements fuel s
        pure (statement :: rest)

/-- The document that a text writes, as the fields of a JSON object. A byte order
    mark at its start is skipped. -/
def parse (s : String) : Option (List (String × Json)) := do
  let chars :=
    match s.toList with
    | '\uFEFF' :: cs => cs
    | cs => cs
  let statements ← readStatements (2 * chars.length + 2) chars
  let entries ← run [] [] statements
  pure (entriesToJson entries)

end FindingsBrowser.Toml
