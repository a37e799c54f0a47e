import FindingsBrowser.Text.Percent
import FindingsBrowser.Proofs.Text.Utf8

/-! # Percent-encoding — any text survives, and no delimiter is written

    * `decodeBytes_encodeByte` reads one written byte back, whatever follows;
    * `decode?_encode` is the round trip of whole texts;
    * `not_mem_encode` keeps every delimiter of a URL out of what is written, so
      a written value can be cut out of its surroundings again. -/

namespace FindingsBrowser.Text.Percent

/-! ## One byte -/

/-- The number of an ASCII character. -/
theorem toNat_ofNat_ascii {n : Nat} (h : n ≤ 0x7f) : (Char.ofNat n).toNat = n := by
  have hvalid : n.isValidChar := Or.inl (by omega)
  rw [Char.ofNat, dif_pos hvalid]
  rfl

/-- An ASCII character is written as one byte. -/
theorem encode_ascii_cons {c : Char} (h : c.toNat ≤ 0x7f) (s : List Char) :
    Utf8.encode (c :: s) = UInt8.ofNat c.toNat :: Utf8.encode s := by
  have hc : String.utf8EncodeChar c = [UInt8.ofNat c.toNat] := by
    rw [String.utf8EncodeChar]
    exact if_pos h
  rw [Utf8.encode_cons, hc, List.singleton_append]

theorem toNat_hexDigit_le : ∀ n < 16, (hexDigit n).toNat ≤ 0x7f := by decide

/-- Hexadecimal digits are read back. -/
theorem hexValue?_hexDigit : ∀ n < 16,
    hexValue? (UInt8.ofNat (hexDigit n).toNat) = some (UInt8.ofNat n) := by
  decide

/-- A byte is made of its two hexadecimal digits. -/
theorem hexDigits_byte (b : UInt8) :
    UInt8.ofNat (b.toNat / 16) * 16 + UInt8.ofNat (b.toNat % 16) = b := by
  have hb : b.toNat < 256 := b.toNat_lt
  rw [← UInt8.toNat_inj, UInt8.toNat_add, UInt8.toNat_mul,
    Utf8.toNat_byte (show b.toNat / 16 < 256 by omega),
    Utf8.toNat_byte (show b.toNat % 16 < 256 by omega)]
  show (b.toNat / 16 * 16 % 256 + b.toNat % 16) % 256 = b.toNat
  omega

/-- A byte other than `%` stands for itself. -/
theorem decodeBytes_cons_of_ne {b : UInt8} (h : b ≠ 0x25) (rest : List UInt8) :
    decodeBytes (b :: rest) = b :: decodeBytes rest := by
  match rest with
  | [] => rfl
  | [_] => rfl
  | _ :: _ :: _ => rw [decodeBytes, if_neg h]

/-- An escape stands for its byte. -/
theorem decodeBytes_escape (b : UInt8) (rest : List UInt8) :
    decodeBytes (0x25 :: UInt8.ofNat (hexDigit (b.toNat / 16)).toNat
        :: UInt8.ofNat (hexDigit (b.toNat % 16)).toNat :: rest)
      = b :: decodeBytes rest := by
  have hb : b.toNat < 256 := b.toNat_lt
  rw [decodeBytes, if_pos rfl, hexValue?_hexDigit _ (by omega),
    hexValue?_hexDigit _ (by omega)]
  dsimp only
  rw [hexDigits_byte]

/-- Bytes that stand for themselves are ASCII, and `%` is not among them. -/
theorem isPlain_bounds {b : UInt8} (h : isPlain b = true) :
    b.toNat ≤ 0x7f ∧ b ≠ 0x25 := by
  have hall : ∀ n < 256, isPlain (UInt8.ofNat n) = true →
      n ≤ 0x7f ∧ UInt8.ofNat n ≠ 0x25 := by
    decide +kernel
  have hb := hall b.toNat b.toNat_lt
  rw [UInt8.ofNat_toNat] at hb
  exact hb h

/-- **One written byte** is read back, whatever follows. -/
theorem decodeBytes_encodeByte (b : UInt8) (rest : List UInt8) :
    decodeBytes (Utf8.encode (encodeByte b) ++ rest) = b :: decodeBytes rest := by
  have hb : b.toNat < 256 := b.toNat_lt
  rw [encodeByte]
  by_cases h : isPlain b = true
  · obtain ⟨hascii, hne⟩ := isPlain_bounds h
    have hchar := toNat_ofNat_ascii hascii
    rw [if_pos h, encode_ascii_cons (by rw [hchar]; exact hascii), hchar,
      UInt8.ofNat_toNat]
    exact decodeBytes_cons_of_ne hne rest
  · rw [if_neg h, encode_ascii_cons (by decide),
      encode_ascii_cons (toNat_hexDigit_le _ (by omega)),
      encode_ascii_cons (toNat_hexDigit_le _ (by omega))]
    exact decodeBytes_escape b rest

/-! ## Whole texts -/

/-- Written bytes are read back, whatever follows. -/
theorem decodeBytes_encodeBytes_append (bs rest : List UInt8) :
    decodeBytes (Utf8.encode (bs.flatMap encodeByte) ++ rest) = bs ++ decodeBytes rest := by
  induction bs with
  | nil => rfl
  | cons b bs ih =>
      rw [List.flatMap_cons, Utf8.encode_append, List.append_assoc, decodeBytes_encodeByte, ih,
        List.cons_append]

/-- Written bytes are read back. -/
theorem decodeBytes_encodeBytes (bs : List UInt8) :
    decodeBytes (Utf8.encode (bs.flatMap encodeByte)) = bs := by
  have happend := decodeBytes_encodeBytes_append bs []
  rw [List.append_nil] at happend
  exact happend.trans (List.append_nil bs)

/-- **Decoding inverts encoding.** -/
theorem decode?_encode (s : List Char) : decode? (encode s) = some s := by
  rw [decode?, encode, decodeBytes_encodeBytes, Utf8.decode?_encode]

/-! ## Delimiters -/

/-- The characters that delimit the parts of a URL and of its values. -/
def delimiters : List Char := ['&', '=', '?', '#', '+', ',', ':', '/']

/-- A property of the characters of a list is decided along the list. -/
theorem forall_mem_of_all {p : Char → Prop} [DecidablePred p] {s : List Char}
    (h : (s.all fun c => decide (p c)) = true) : ∀ c ∈ s, p c :=
  fun c hc => of_decide_eq_true (List.all_eq_true.mp h c hc)

/-- What is true of every byte as it is written is true of every text. -/
theorem all_encode {p : Char → Bool}
    (h : ∀ n < 256, (encodeByte (UInt8.ofNat n)).all p = true) (s : List Char) :
    (encode s).all p = true := by
  rw [encode, List.all_eq_true]
  intro c hc
  obtain ⟨b, -, hmem⟩ := List.mem_flatMap.mp hc
  have hb := h b.toNat b.toNat_lt
  rw [UInt8.ofNat_toNat] at hb
  exact List.all_eq_true.mp hb c hmem

/-- **No text is written with a delimiter.** -/
theorem not_mem_encode {c : Char} (hc : c ∈ delimiters) (s : List Char) :
    c ∉ encode s := by
  have hall : ∀ n < 256,
      (encodeByte (UInt8.ofNat n)).all (fun c => decide (c ∉ delimiters)) = true := by
    decide +kernel
  intro hmem
  exact of_decide_eq_true (List.all_eq_true.mp (all_encode hall s) c hmem) hc

/-- Without a `+` there is nothing to turn into a space. -/
theorem plusToSpace_of_not_mem {s : List Char} (h : '+' ∉ s) :
    plusToSpace s = s := by
  rw [plusToSpace]
  refine (List.map_congr_left fun c hc => ?_).trans (List.map_id s)
  have hne : c ≠ '+' := fun heq => h (heq ▸ hc)
  exact if_neg hne

end FindingsBrowser.Text.Percent
