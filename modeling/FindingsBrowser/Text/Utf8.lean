/-! # UTF-8 — characters to bytes and back, strictly or leniently

    A scanner reads bytes one at a time and reports a character, or `none` for
    each maximal run of bytes that begins a character without completing it.

    * `decode?` accepts exactly the well-formed byte sequences.
    * `decodeLossy` puts the replacement character where the scanner reports
      `none`.
    * `between?` cuts a text at places that are counted in bytes. -/

namespace FindingsBrowser.Text.Utf8

/-- The bytes of a text. -/
def encode (s : List Char) : List UInt8 :=
  s.flatMap String.utf8EncodeChar

/-- Where the scanner stands between two bytes. -/
inductive State where
  /-- Between characters. -/
  | start
  /-- Inside a character: `owed` bytes are to come after the next one, which
      must lie in `low … high`; `value` is what the bytes so far carry. -/
  | inside (owed : Nat) (low high : UInt8) (value : Nat)

/-- Reading the first byte of a character. The bounds on the second byte
    exclude overlong forms, surrogates and code points above U+10FFFF. -/
def lead (b : UInt8) : List (Option Char) × State :=
  if b < 0x80 then ([some (Char.ofNat b.toNat)], .start)
  else if b < 0xC2 then ([none], .start)
  else if b < 0xE0 then ([], .inside 0 0x80 0xBF (b.toNat - 0xC0))
  else if b < 0xF0 then
    ([], .inside 1 (if b = 0xE0 then 0xA0 else 0x80) (if b = 0xED then 0x9F else 0xBF)
      (b.toNat - 0xE0))
  else if b < 0xF5 then
    ([], .inside 2 (if b = 0xF0 then 0x90 else 0x80) (if b = 0xF4 then 0x8F else 0xBF)
      (b.toNat - 0xF0))
  else ([none], .start)

/-- Reading one byte. A byte that cannot continue the current character ends it
    as malformed and is read again as a first byte. -/
def feed : State → UInt8 → List (Option Char) × State
  | .start, b => lead b
  | .inside owed low high value, b =>
      if low ≤ b ∧ b ≤ high then
        let value := value * 64 + (b.toNat - 0x80)
        match owed with
        | 0 => ([some (Char.ofNat value)], .start)
        | owed + 1 => ([], .inside owed 0x80 0xBF value)
      else
        let (out, next) := lead b
        (none :: out, next)

/-- All characters of a byte sequence, `none` for each malformed piece. -/
def scan : State → List UInt8 → List (Option Char)
  | .start, [] => []
  | .inside .., [] => [none]
  | state, b :: bs =>
      let (out, next) := feed state b
      out ++ scan next bs

/-- The text of a well-formed byte sequence. -/
def decode? (bytes : List UInt8) : Option (List Char) :=
  (scan .start bytes).mapM id

/-- The text of any byte sequence, with U+FFFD for each malformed piece. -/
def decodeLossy (bytes : List UInt8) : List Char :=
  (scan .start bytes).map fun c => c.getD '\uFFFD'

/-- The part of a text between two places, counted in bytes; `none` if a place lies
    outside the text or inside a character, or if they are in the wrong order. -/
def between? (text : String) (start stop : Nat) : Option String :=
  if h : String.Pos.Raw.IsValid text ⟨start⟩ ∧ String.Pos.Raw.IsValid text ⟨stop⟩ ∧
      start ≤ stop then
    some (text.extract ⟨⟨start⟩, h.1⟩ ⟨⟨stop⟩, h.2.1⟩)
  else none

end FindingsBrowser.Text.Utf8
