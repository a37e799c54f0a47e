import FindingsBrowser.Text.Cut
import FindingsBrowser.Text.Percent

/-! # Request targets — the path and the query of a URI

    A target starts with a slash, or is an absolute URI with scheme and
    authority, or an authority alone, or `*`. Characters outside ASCII may stand
    in path and query as they are; a fragment is dropped. -/

namespace FindingsBrowser.Http

open Text

/-- What a request asks for. -/
structure Target where
  path : List Char
  query : Option (List Char)

namespace Target

/-- The longest URI, in bytes. -/
def maxLength : Nat := 65534

/-- Characters of a path. -/
def isPathChar (c : Char) : Bool :=
  let n := c.toNat
  n == 0x21 || n == 0x22 || (0x24 ≤ n && n ≤ 0x3B) || n == 0x3D || (0x40 ≤ n && n ≤ 0x5F) ||
    (0x61 ≤ n && n != 0x7F)

/-- Characters of a query. -/
def isQueryChar (c : Char) : Bool :=
  let n := c.toNat
  n == 0x21 || (0x24 ≤ n && n ≤ 0x3B) || n == 0x3D || (0x3F ≤ n && n != 0x7F)

/-- The target of a path with an optional query. -/
def ofPath? (s : List Char) : Option Target :=
  let s := before '#' s
  let (path, query) :=
    match cutFirst '?' s with
    | some (path, query) => (path, some query)
    | none => (s, none)
  if path.all isPathChar && (query.getD []).all isQueryChar then
    some ⟨if path.isEmpty then ['/'] else path, query⟩
  else none

/-! ## Schemes and authorities -/

/-- Whether a character may stand in a scheme. -/
def isSchemeChar (c : Char) : Bool :=
  c.isAlphanum || c == '+' || c == '-' || c == '.' || c == '~'

/-- The longest scheme. -/
def maxScheme : Nat := 64

/-- A scheme followed by `://`, and the text after it. -/
def cutScheme (s : List Char) : Option (List Char × List Char) :=
  match s.dropWhile isSchemeChar with
  | ':' :: '/' :: '/' :: rest => some (s.takeWhile isSchemeChar, rest)
  | _ => none

/-- Whether a character may stand in an authority; `%` is looked at apart. -/
def isAuthorityChar (c : Char) : Bool :=
  c.isAlphanum || ['!', '$', '&', '\'', '(', ')', '*', '+', ',', '-', '.', ':', ';', '=',
    '@', '[', ']', '_', '~', '%'].contains c

/-- What has been seen of an authority. An `@` ends the user information, and a
    `]` an address in brackets; colons and percent signs before either do not
    count. -/
structure Authority where
  colons : Nat := 0
  opened : Bool := false
  closed : Bool := false
  percent : Bool := false
  /-- Whether the last character was an `@`. -/
  endsUser : Bool := false

/-- One more character of an authority. -/
def Authority.push? (a : Authority) (c : Char) : Option Authority :=
  let a := { a with endsUser := false }
  if !isAuthorityChar c then none
  else if c = ':' then if 8 ≤ a.colons then none else some { a with colons := a.colons + 1 }
  else if c = '[' then if a.percent || a.opened then none else some { a with opened := true }
  else if c = ']' then
    if !a.opened || a.closed then none
    else some { a with closed := true, colons := 0, percent := false }
  else if c = '@' then some { a with colons := 0, percent := false, endsUser := true }
  else if c = '%' then some { a with percent := true }
  else some a

/-- Whether an authority may end here. -/
def Authority.complete (a : Authority) : Bool :=
  a.opened == a.closed && a.colons ≤ 1 && !a.endsUser && !a.percent

/-- Whether a character ends an authority. -/
def endsAuthority (c : Char) : Bool :=
  c == '/' || c == '?' || c == '#'

/-- The text after a well-formed authority that is not empty. -/
def skipAuthority? (s : List Char) : Option (List Char) := do
  let name := s.takeWhile fun c => !endsAuthority c
  let a ← name.foldlM Authority.push? {}
  if a.complete && !name.isEmpty then some (s.dropWhile fun c => !endsAuthority c) else none

/-- The target that a URI names. -/
def read? (s : List Char) : Option Target :=
  if maxLength < (Utf8.encode s).length then none
  else
    match s with
    | [] => none
    | ['*'] => some ⟨['*'], none⟩
    | '/' :: _ => ofPath? s
    | _ =>
        match cutScheme s with
        | some (scheme, rest) =>
            if maxScheme < scheme.length then none else (skipAuthority? rest).bind ofPath?
        | none =>
            (skipAuthority? s).bind fun rest =>
              if rest.isEmpty then some ⟨[], none⟩ else none

end Target

end FindingsBrowser.Http
