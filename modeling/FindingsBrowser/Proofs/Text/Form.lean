import FindingsBrowser.Proofs.Text.Percent

/-! # Form values — what a value spells that is written in parts

    A value is written as encoded texts with characters between them that stand for
    themselves.  `Spells` relates what is written to the text it stands for, whatever
    follows it, so the parts of a value can be put together.

    * `spells_encode` and `spells_literal`: the two kinds of parts;
    * `Spells.append`, `spells_intercalate`: their joints;
    * `Spells.decodeForm` and `Spells.decode?`: a reader gets the text. -/

namespace FindingsBrowser.Text

/-- Lenient decoding inverts encoding. -/
theorem Utf8.decodeLossy_encode (s : List Char) : Utf8.decodeLossy (Utf8.encode s) = s := by
  rw [decodeLossy, scan_encode, List.map_map]
  exact List.map_id s

namespace Percent

/-- A written text stands for another one, whatever bytes follow it. -/
structure Spells (written plain : List Char) : Prop where
  plus_not_mem : '+' ∉ written
  decodeBytes_append : ∀ rest,
    decodeBytes (Utf8.encode written ++ rest) = Utf8.encode plain ++ decodeBytes rest

theorem spells_nil : Spells [] [] :=
  { plus_not_mem := List.not_mem_nil
    decodeBytes_append := fun _ => rfl }

/-- **PARTS** are put together. -/
theorem Spells.append {a b x y : List Char} (h : Spells a x) (h' : Spells b y) :
    Spells (a ++ b) (x ++ y) where
  plus_not_mem := by
    rw [List.mem_append, not_or]
    exact ⟨h.plus_not_mem, h'.plus_not_mem⟩
  decodeBytes_append := by
    intro rest
    rw [Utf8.encode, List.flatMap_append, List.append_assoc]
    show decodeBytes (Utf8.encode a ++ (Utf8.encode b ++ rest)) = _
    rw [h.decodeBytes_append, h'.decodeBytes_append, ← List.append_assoc]
    rw [Utf8.encode, Utf8.encode, Utf8.encode, List.flatMap_append]

/-- **ENCODED TEXTS** spell what they encode. -/
theorem spells_encode (s : List Char) : Spells (encode s) s where
  plus_not_mem := not_mem_encode (by decide) s
  decodeBytes_append := decodeBytes_encodeBytes_append (Utf8.encode s)

/-- Whether a character stands for itself: it is ASCII, and neither escapes nor means
    a space. -/
def isLiteral (c : Char) : Bool :=
  c.toNat ≤ 0x7f && c != '%' && c != '+'

/-- **LITERAL TEXTS** spell themselves. -/
theorem spells_literal {s : List Char} (h : s.all isLiteral = true) : Spells s s := by
  induction s with
  | nil => exact spells_nil
  | cons c cs ih =>
      rw [List.all_cons, Bool.and_eq_true] at h
      obtain ⟨hc, hcs⟩ := h
      simp only [isLiteral, Bool.and_eq_true, decide_eq_true_eq, bne_iff_ne] at hc
      obtain ⟨⟨hascii, hpercent⟩, hplus⟩ := hc
      have hbyte : UInt8.ofNat c.toNat ≠ 0x25 := by
        intro heq
        have hvalue : c.toNat = 0x25 := by
          rw [← Utf8.toNat_byte (show c.toNat < 256 by omega), heq]
          rfl
        exact hpercent (Char.toNat_inj.mp hvalue)
      refine (Spells.append (a := [c]) (x := [c]) ?_ (ih hcs))
      refine { plus_not_mem := ?_, decodeBytes_append := ?_ }
      · rw [List.mem_singleton]
        exact hplus.symm
      · intro rest
        rw [encode_ascii_cons hascii]
        exact decodeBytes_cons_of_ne hbyte rest

/-- Parts with literal joints are put together. -/
theorem spells_intercalate {joint : Char} (hjoint : isLiteral joint = true) {α : Type}
    {written plain : α → List Char} (h : ∀ a, Spells (written a) (plain a)) (as : List α) :
    Spells (List.intercalate [joint] (as.map written))
      (List.intercalate [joint] (as.map plain)) := by
  have hone : Spells [joint] [joint] :=
    spells_literal (by rw [List.all_cons, hjoint]; rfl)
  induction as with
  | nil => exact spells_nil
  | cons a rest ih =>
      cases rest with
      | nil =>
          rw [List.map_singleton, List.map_singleton, List.intercalate_singleton,
            List.intercalate_singleton]
          exact h a
      | cons next rest =>
          rw [List.map_cons, List.map_cons, List.map_cons, List.map_cons,
            List.intercalate_cons_cons, List.intercalate_cons_cons]
          exact ((h a).append hone).append ih

/-- **A FORM VALUE** is read as what it spells. -/
theorem Spells.decodeForm {written plain : List Char} (h : Spells written plain) :
    decodeForm written = plain := by
  have hbytes := h.decodeBytes_append []
  rw [List.append_nil] at hbytes
  rw [Percent.decodeForm, plusToSpace_of_not_mem h.plus_not_mem, hbytes]
  show Utf8.decodeLossy (Utf8.encode plain ++ []) = plain
  rw [List.append_nil, Utf8.decodeLossy_encode]

/-- So is a text that has to be UTF-8. -/
theorem Spells.decode? {written plain : List Char} (h : Spells written plain) :
    decode? written = some plain := by
  have hbytes := h.decodeBytes_append []
  rw [List.append_nil] at hbytes
  rw [Percent.decode?, hbytes]
  show Utf8.decode? (Utf8.encode plain ++ []) = some plain
  rw [List.append_nil, Utf8.decode?_encode]

end Percent

end FindingsBrowser.Text
