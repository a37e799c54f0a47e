import FindingsBrowser.Json.Parser
import FindingsBrowser.Json.Printer

/-! # JSON strings — a quoted text is read back

    The reader works in two passes: it first takes a text apart into characters and
    `\u` units up to the closing quote, and then puts the units together.  The writer
    escapes character by character, so each character comes back as one piece, and only
    the control characters without a letter of their own as a unit. -/

namespace FindingsBrowser.Json

/-- The element that a character is written as. -/
def pieceOf (c : Char) : Piece :=
  if c.toNat < 0x20 ∧ c ≠ '\x08' ∧ c ≠ '\x0c' ∧ c ≠ '\n' ∧ c ≠ '\r' ∧ c ≠ '\t'
  then .unit c.toNat else .char c

/-- A hexadecimal digit is read as its value. -/
theorem hexValue?_hexDigit : ∀ d < 16, hexValue? (hexDigit d) = some d := by
  decide

/-- A letter behind a backslash is one character. -/
theorem readPieces_escaped {letter c : Char} (hletter : letter ≠ 'u')
    (h : unescape? letter = some c) (s : List Char) :
    readPieces .plain ('\\' :: letter :: s)
      = (readPieces .plain s).map fun (ps, rest) => (.char c :: ps, rest) := by
  rw [readPieces, if_neg (by decide), if_pos rfl, readPieces, if_neg hletter, h]

/-- Four hexadecimal digits behind `\u` are one unit. -/
theorem readPieces_unit {n : Nat} (h : n < 0x20) (s : List Char) :
    readPieces .plain ('\\' :: 'u' :: '0' :: '0' :: hexDigit (n / 16) :: hexDigit (n % 16) :: s)
      = (readPieces .plain s).map fun (ps, rest) => (.unit n :: ps, rest) := by
  have hhigh := hexValue?_hexDigit (n / 16) (by omega)
  have hlow := hexValue?_hexDigit (n % 16) (by omega)
  have hzero : hexValue? '0' = some 0 := rfl
  have hvalue : (((0 * 16 + 0) * 16 + 0) * 16 + n / 16) * 16 + n % 16 = n := by omega
  rw [readPieces, if_neg (by decide), if_pos rfl, readPieces, if_pos rfl]
  simp only [readPieces, hzero, hhigh, hlow, hvalue]

/-- **ONE CHARACTER** is read as the element that it is written as. -/
theorem readPieces_escape (c : Char) (s : List Char) :
    readPieces .plain (escape c ++ s)
      = (readPieces .plain s).map fun (ps, rest) => (pieceOf c :: ps, rest) := by
  rw [escape]
  -- seven characters have a letter of their own
  split
  · case _ h => subst h; exact readPieces_escaped (by decide) rfl s
  split
  · case _ h => subst h; exact readPieces_escaped (by decide) rfl s
  split
  · case _ h => subst h; exact readPieces_escaped (by decide) rfl s
  split
  · case _ h => subst h; exact readPieces_escaped (by decide) rfl s
  split
  · case _ h => subst h; exact readPieces_escaped (by decide) rfl s
  split
  · case _ h => subst h; exact readPieces_escaped (by decide) rfl s
  split
  · case _ h => subst h; exact readPieces_escaped (by decide) rfl s
  split
  · case _ hquote hslash hb hf hn hr ht hcontrol =>
      rw [pieceOf, if_pos ⟨hcontrol, hb, hf, hn, hr, ht⟩]
      exact readPieces_unit hcontrol s
  · case _ hquote hslash hb hf hn hr ht hcontrol =>
      rw [pieceOf, if_neg (fun h => hcontrol h.1), List.singleton_append, readPieces,
        if_neg hquote, if_neg hslash, if_neg hcontrol]

/-- All characters up to the closing quote are read. -/
theorem readPieces_quoted (s rest : List Char) :
    readPieces .plain (s.flatMap escape ++ '"' :: rest) = some (s.map pieceOf, rest) := by
  induction s with
  | nil => rfl
  | cons c s ih =>
      rw [List.flatMap_cons, List.append_assoc, readPieces_escape, ih]
      rfl

/-- A unit that is no surrogate stands for a character, whatever follows. -/
theorem joinPieces_unit {n : Nat} (h : n < 0xD800) (ps : List Piece) :
    joinPieces (.unit n :: ps) = (joinPieces ps).map (Char.ofNat n :: ·) := by
  have hlow : n < 0xD800 ∨ 0xDFFF < n := Or.inl h
  cases ps with
  | nil => exact if_pos hlow
  | cons piece ps =>
      cases piece with
      | char c => exact if_pos hlow
      | unit m => exact if_pos hlow

/-- The elements of a text stand for the text: no unit among them is a surrogate. -/
theorem joinPieces_map_pieceOf (s : List Char) : joinPieces (s.map pieceOf) = some s := by
  induction s with
  | nil => rfl
  | cons c s ih =>
      rw [List.map_cons, pieceOf]
      split
      · case _ hcontrol =>
          rw [joinPieces_unit (by omega), ih, Char.ofNat_toNat]
          rfl
      · rw [joinPieces, ih]
        rfl

/-- **QUOTED TEXTS** are read back, whatever follows. -/
theorem readString_quoted (s : String) (rest : List Char) :
    readString (s.toList.flatMap escape ++ '"' :: rest) = some (some s, rest) := by
  rw [readString, readPieces_quoted]
  dsimp only [Option.map_some]
  rw [joinPieces_map_pieceOf]
  dsimp only [Option.map_some]
  rw [String.ofList_toList]

end FindingsBrowser.Json
