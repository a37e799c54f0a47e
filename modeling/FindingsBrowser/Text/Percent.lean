import FindingsBrowser.Text.Utf8

/-! # Percent-encoding — any text as URL-safe ASCII

    Letters, digits, `-`, `_`, `.` and `~` stand for themselves; every other
    byte of the UTF-8 form is written `%XX` in upper-case hexadecimal. Decoding
    leaves a `%` that no two hexadecimal digits follow as it stands.

    * `encode` and `decode?` are inverse on texts.
    * `decodeForm` reads form values: `+` is a space, and malformed UTF-8 is
      replaced instead of refused. -/

namespace FindingsBrowser.Text.Percent

/-- Bytes that stand for themselves. -/
def isPlain (b : UInt8) : Bool :=
  (0x30 ≤ b && b ≤ 0x39) || (0x41 ≤ b && b ≤ 0x5A) || (0x61 ≤ b && b ≤ 0x7A) ||
    b == 0x2D || b == 0x5F || b == 0x2E || b == 0x7E

/-- The upper-case hexadecimal digit of a number below 16. -/
def hexDigit (n : Nat) : Char :=
  if n < 10 then Char.ofNat (0x30 + n) else Char.ofNat (0x41 + (n - 10))

/-- The value of a hexadecimal digit of either case. -/
def hexValue? (b : UInt8) : Option UInt8 :=
  if 0x30 ≤ b ∧ b ≤ 0x39 then some (b - 0x30)
  else if 0x41 ≤ b ∧ b ≤ 0x46 then some (b - 0x41 + 10)
  else if 0x61 ≤ b ∧ b ≤ 0x66 then some (b - 0x61 + 10)
  else none

/-- One byte, written. -/
def encodeByte (b : UInt8) : List Char :=
  if isPlain b then [Char.ofNat b.toNat]
  else ['%', hexDigit (b.toNat / 16), hexDigit (b.toNat % 16)]

/-- A text, written. -/
def encode (s : List Char) : List Char :=
  (Utf8.encode s).flatMap encodeByte

/-- The bytes that a written byte sequence stands for. -/
def decodeBytes : List UInt8 → List UInt8
  | [] => []
  | [a] => [a]
  | [a, b] => [a, b]
  | a :: b :: c :: rest =>
      if a = 0x25 then
        match hexValue? b, hexValue? c with
        | some high, some low => (high * 16 + low) :: decodeBytes rest
        | _, _ => a :: decodeBytes (b :: c :: rest)
      else a :: decodeBytes (b :: c :: rest)

/-- The text a written text stands for, if its bytes are UTF-8. -/
def decode? (s : List Char) : Option (List Char) :=
  Utf8.decode? (decodeBytes (Utf8.encode s))

/-- A text with every `+` turned into a space. -/
def plusToSpace (s : List Char) : List Char :=
  s.map fun c => if c = '+' then ' ' else c

/-- A form value, whatever bytes it holds. -/
def decodeForm (s : List Char) : List Char :=
  Utf8.decodeLossy (decodeBytes (Utf8.encode (plusToSpace s)))

end FindingsBrowser.Text.Percent
