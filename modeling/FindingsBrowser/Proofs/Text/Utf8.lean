import FindingsBrowser.Text.Utf8

/-! # UTF-8 — the scanner reads back what is written

    * `lead_one` to `lead_four` and `feed_more`, `feed_last` describe one byte
      at a time, by its value as a number;
    * `scan_encodeChar` puts them together for one character of any length;
    * `decode?_encode` is the round trip of whole texts;
    * `between?_append` cuts a part out of a text at the places where it is joined. -/

namespace FindingsBrowser.Text.Utf8

/-! ## One byte -/

/-- The byte of a number that fits. -/
theorem toNat_byte {n : Nat} (h : n < 256) : (UInt8.ofNat n).toNat = n := by
  rw [UInt8.toNat_ofNat']
  exact Nat.mod_eq_of_lt h

/-- A byte with a value below that of another is below it. -/
private theorem byte_lt {n : Nat} (b : UInt8) (hn : n < 256) (h : n < b.toNat) :
    UInt8.ofNat n < b := by
  rw [UInt8.lt_iff_toNat_lt, toNat_byte hn]
  exact h

private theorem not_byte_lt {n : Nat} (b : UInt8) (hn : n < 256)
    (h : b.toNat ≤ n) : ¬UInt8.ofNat n < b := by
  rw [UInt8.lt_iff_toNat_lt, toNat_byte hn]
  exact Nat.not_lt.mpr h

private theorem byte_eq {n : Nat} {b : UInt8} (hn : n < 256) :
    UInt8.ofNat n = b ↔ n = b.toNat := by
  rw [← UInt8.toNat_inj, toNat_byte hn]

/-- A byte below 0x80 is a character. -/
theorem lead_one {n : Nat} (h : n < 0x80) :
    lead (UInt8.ofNat n) = ([some (Char.ofNat n)], .start) := by
  have hn : n < 256 := by omega
  rw [lead, if_pos (byte_lt 0x80 hn h), toNat_byte hn]

/-- A byte that begins a character of two bytes. -/
theorem lead_two {n : Nat} (hlow : 0xC2 ≤ n) (hhigh : n < 0xE0) :
    lead (UInt8.ofNat n) = ([], .inside 0 0x80 0xBF (n - 0xC0)) := by
  have hn : n < 256 := by omega
  rw [lead, if_neg (not_byte_lt 0x80 hn (show 0x80 ≤ n by omega)),
    if_neg (not_byte_lt 0xC2 hn hlow), if_pos (byte_lt 0xE0 hn hhigh), toNat_byte hn]

/-- A byte that begins a character of three bytes. -/
theorem lead_three {n : Nat} (hlow : 0xE0 ≤ n) (hhigh : n < 0xF0) :
    lead (UInt8.ofNat n)
      = ([], .inside 1 (if n = 0xE0 then 0xA0 else 0x80)
          (if n = 0xED then 0x9F else 0xBF) (n - 0xE0)) := by
  have hn : n < 256 := by omega
  have hfirst : UInt8.ofNat n = 0xE0 ↔ n = 0xE0 := byte_eq hn
  have hsurrogate : UInt8.ofNat n = 0xED ↔ n = 0xED := byte_eq hn
  rw [lead, if_neg (not_byte_lt 0x80 hn (show 0x80 ≤ n by omega)),
    if_neg (not_byte_lt 0xC2 hn (show 0xC2 ≤ n by omega)),
    if_neg (not_byte_lt 0xE0 hn hlow), if_pos (byte_lt 0xF0 hn hhigh), toNat_byte hn]
  simp only [hfirst, hsurrogate]

/-- A byte that begins a character of four bytes. -/
theorem lead_four {n : Nat} (hlow : 0xF0 ≤ n) (hhigh : n < 0xF5) :
    lead (UInt8.ofNat n)
      = ([], .inside 2 (if n = 0xF0 then 0x90 else 0x80)
          (if n = 0xF4 then 0x8F else 0xBF) (n - 0xF0)) := by
  have hn : n < 256 := by omega
  have hfirst : UInt8.ofNat n = 0xF0 ↔ n = 0xF0 := byte_eq hn
  have hlast : UInt8.ofNat n = 0xF4 ↔ n = 0xF4 := byte_eq hn
  rw [lead, if_neg (not_byte_lt 0x80 hn (show 0x80 ≤ n by omega)),
    if_neg (not_byte_lt 0xC2 hn (show 0xC2 ≤ n by omega)),
    if_neg (not_byte_lt 0xE0 hn (show 0xE0 ≤ n by omega)),
    if_neg (not_byte_lt 0xF0 hn hlow), if_pos (byte_lt 0xF5 hn hhigh), toNat_byte hn]
  simp only [hfirst, hlast]

/-- A byte within the bounds continues a character. -/
theorem feed_more {n value owed : Nat} {low high : UInt8} (hn : n < 256)
    (hlow : low.toNat ≤ n) (hhigh : n ≤ high.toNat) :
    feed (.inside (owed + 1) low high value) (UInt8.ofNat n)
      = ([], .inside owed 0x80 0xBF (value * 64 + (n - 0x80))) := by
  have hin : low ≤ UInt8.ofNat n ∧ UInt8.ofNat n ≤ high := by
    rw [UInt8.le_iff_toNat_le, UInt8.le_iff_toNat_le, toNat_byte hn]
    exact ⟨hlow, hhigh⟩
  rw [feed, if_pos hin, toNat_byte hn]

/-- The last byte within the bounds completes a character. -/
theorem feed_last {n value : Nat} {low high : UInt8} (hn : n < 256)
    (hlow : low.toNat ≤ n) (hhigh : n ≤ high.toNat) :
    feed (.inside 0 low high value) (UInt8.ofNat n)
      = ([some (Char.ofNat (value * 64 + (n - 0x80)))], .start) := by
  have hin : low ≤ UInt8.ofNat n ∧ UInt8.ofNat n ≤ high := by
    rw [UInt8.le_iff_toNat_le, UInt8.le_iff_toNat_le, toNat_byte hn]
    exact ⟨hlow, hhigh⟩
  rw [feed, if_pos hin, toNat_byte hn]

/-! ## One character -/

private theorem scan_cons_start (b : UInt8) (bs : List UInt8) :
    scan .start (b :: bs) = (lead b).1 ++ scan (lead b).2 bs := rfl

private theorem scan_cons_inside (owed value : Nat) (low high b : UInt8)
    (bs : List UInt8) :
    scan (.inside owed low high value) (b :: bs)
      = (feed (.inside owed low high value) b).1
        ++ scan (feed (.inside owed low high value) b).2 bs := rfl

/-- Three bytes whose bounds hold are one character. -/
private theorem scan_tail_three {n m value : Nat} {low high : UInt8}
    (hn : n < 256) (hlow : low.toNat ≤ n) (hhigh : n ≤ high.toNat)
    (hm : 0x80 ≤ m) (hm' : m ≤ 0xBF) (rest : List UInt8) :
    scan (.inside 1 low high value) (UInt8.ofNat n :: UInt8.ofNat m :: rest)
      = some (Char.ofNat ((value * 64 + (n - 0x80)) * 64 + (m - 0x80)))
        :: scan .start rest := by
  rw [scan_cons_inside, feed_more hn hlow hhigh, List.nil_append, scan_cons_inside,
    feed_last (by omega) hm hm', List.singleton_append]

/-- A character of two bytes. -/
private theorem scan_two {v : Nat} (hlow : 0x7f < v) (hhigh : v ≤ 0x7ff)
    (rest : List UInt8) :
    scan .start (UInt8.ofNat (v / 64 % 0x20 + 0xc0) :: UInt8.ofNat (v % 0x40 + 0x80) :: rest)
      = some (Char.ofNat v) :: scan .start rest := by
  have hsum : (v / 64 % 0x20 + 0xc0 - 0xC0) * 64 + (v % 0x40 + 0x80 - 0x80) = v := by
    omega
  rw [scan_cons_start, lead_two (by omega) (by omega), List.nil_append, scan_cons_inside,
    feed_last (by omega) (show 0x80 ≤ _ by omega) (show _ ≤ 0xBF by omega),
    List.singleton_append, hsum]

/-- A character of three bytes; neither an overlong form nor a surrogate is
    written. -/
private theorem scan_three {v : Nat} (hlow : 0x7ff < v) (hhigh : v ≤ 0xffff)
    (hvalid : v < 0xD800 ∨ 0xDFFF < v) (rest : List UInt8) :
    scan .start (UInt8.ofNat (v / 4096 % 0x10 + 0xe0)
        :: UInt8.ofNat (v / 64 % 0x40 + 0x80) :: UInt8.ofNat (v % 0x40 + 0x80) :: rest)
      = some (Char.ofNat v) :: scan .start rest := by
  have hfirst : (if v / 4096 % 0x10 + 0xe0 = 0xE0 then 0xA0 else 0x80 : UInt8).toNat
      ≤ v / 64 % 0x40 + 0x80 := by
    split
    · show 0xA0 ≤ _
      omega
    · show 0x80 ≤ _
      omega
  have hlast : v / 64 % 0x40 + 0x80
      ≤ (if v / 4096 % 0x10 + 0xe0 = 0xED then 0x9F else 0xBF : UInt8).toNat := by
    split
    · show _ ≤ 0x9F
      omega
    · show _ ≤ 0xBF
      omega
  have hsum : ((v / 4096 % 0x10 + 0xe0 - 0xE0) * 64 + (v / 64 % 0x40 + 0x80 - 0x80)) * 64
      + (v % 0x40 + 0x80 - 0x80) = v := by
    omega
  rw [scan_cons_start, lead_three (by omega) (by omega), List.nil_append,
    scan_tail_three (by omega) hfirst hlast (by omega) (by omega), hsum]

/-- A character of four bytes; neither an overlong form nor a value past the last
    code point is written. -/
private theorem scan_four {v : Nat} (hlow : 0xffff < v) (hhigh : v < 0x110000)
    (rest : List UInt8) :
    scan .start (UInt8.ofNat (v / 262144 % 0x08 + 0xf0)
        :: UInt8.ofNat (v / 4096 % 0x40 + 0x80) :: UInt8.ofNat (v / 64 % 0x40 + 0x80)
        :: UInt8.ofNat (v % 0x40 + 0x80) :: rest)
      = some (Char.ofNat v) :: scan .start rest := by
  have hfirst : (if v / 262144 % 0x08 + 0xf0 = 0xF0 then 0x90 else 0x80 : UInt8).toNat
      ≤ v / 4096 % 0x40 + 0x80 := by
    split
    · show 0x90 ≤ _
      omega
    · show 0x80 ≤ _
      omega
  have hlast : v / 4096 % 0x40 + 0x80
      ≤ (if v / 262144 % 0x08 + 0xf0 = 0xF4 then 0x8F else 0xBF : UInt8).toNat := by
    split
    · show _ ≤ 0x8F
      omega
    · show _ ≤ 0xBF
      omega
  have hsum : (((v / 262144 % 0x08 + 0xf0 - 0xF0) * 64
        + (v / 4096 % 0x40 + 0x80 - 0x80)) * 64 + (v / 64 % 0x40 + 0x80 - 0x80)) * 64
      + (v % 0x40 + 0x80 - 0x80) = v := by
    omega
  rw [scan_cons_start, lead_four (by omega) (by omega), List.nil_append,
    scan_cons_inside, feed_more (by omega) hfirst hlast, List.nil_append,
    scan_tail_three (by omega) (show 0x80 ≤ _ by omega) (show _ ≤ 0xBF by omega)
      (by omega) (by omega), hsum]

/-- **One character** is read back, and the scan goes on behind it. -/
theorem scan_encodeChar (c : Char) (rest : List UInt8) :
    scan .start (String.utf8EncodeChar c ++ rest) = some c :: scan .start rest := by
  have hback : Char.ofNat c.val.toNat = c := Char.ofNat_toNat c
  have hvalid : c.val.toNat < 0xD800 ∨ 0xDFFF < c.val.toNat ∧ c.val.toNat < 0x110000 :=
    c.valid
  rw [String.utf8EncodeChar]
  generalize c.val.toNat = v at hback hvalid
  rw [← hback]
  by_cases h1 : v ≤ 0x7f
  · rw [if_pos h1, List.singleton_append, scan_cons_start, lead_one (by omega)]
    rfl
  by_cases h2 : v ≤ 0x7ff
  · rw [if_neg h1, if_pos h2]
    exact scan_two (by omega) h2 rest
  by_cases h3 : v ≤ 0xffff
  · rw [if_neg h1, if_neg h2, if_pos h3]
    exact scan_three (by omega) h3 (by omega) rest
  · rw [if_neg h1, if_neg h2, if_neg h3]
    exact scan_four (by omega) (by omega) rest

/-- The byte of a character of one byte is that character; of any other character every
    byte has its first bit set. -/
theorem toNat_of_mem_encodeChar {c : Char} {b : UInt8} (h : b ∈ String.utf8EncodeChar c) :
    b.toNat = c.toNat ∨ 0x80 ≤ b.toNat := by
  have hlimit : c.val.toNat < 0x110000 := by
    rcases c.valid with hvalid | hvalid <;> omega
  rw [String.utf8EncodeChar] at h
  show b.toNat = c.val.toNat ∨ _
  generalize c.val.toNat = v at h hlimit
  split at h
  · left
    rw [List.mem_singleton.mp h]
    exact toNat_byte (by omega)
  · right
    split at h
    · simp only [List.mem_cons, List.not_mem_nil, or_false] at h
      rcases h with rfl | rfl <;> (rw [toNat_byte (by omega)]; omega)
    · split at h <;> simp only [List.mem_cons, List.not_mem_nil, or_false] at h
      · rcases h with rfl | rfl | rfl <;> (rw [toNat_byte (by omega)]; omega)
      · rcases h with rfl | rfl | rfl | rfl <;> (rw [toNat_byte (by omega)]; omega)

/-! ## Whole texts -/

theorem encode_cons (c : Char) (cs : List Char) :
    encode (c :: cs) = String.utf8EncodeChar c ++ encode cs :=
  List.flatMap_cons

/-- Scanning a written text reports its characters. -/
theorem scan_encode (s : List Char) : scan .start (encode s) = s.map some := by
  induction s with
  | nil => rfl
  | cons c cs ih => rw [encode_cons, scan_encodeChar, ih, List.map_cons]

/-- **Decoding inverts encoding.** -/
theorem decode?_encode (s : List Char) : decode? (encode s) = some s := by
  rw [decode?, scan_encode]
  induction s with
  | nil => rfl
  | cons c cs ih =>
      rw [List.map_cons, List.mapM_cons, ih]
      rfl

/-! ## Places -/

theorem encode_append (a b : List Char) : encode (a ++ b) = encode a ++ encode b :=
  List.flatMap_append

/-- The bytes of a text are counted by its size. -/
theorem length_encode (s : List Char) : (encode s).length = (String.ofList s).utf8ByteSize := by
  rw [← String.size_toByteArray, String.toByteArray_ofList, List.utf8Encode, List.size_toByteArray,
    encode]

/-- A text is joined at a boundary of characters. -/
theorem isValid_append (a b : String) :
    String.Pos.Raw.IsValid (a ++ b) ⟨a.utf8ByteSize⟩ :=
  String.Pos.Raw.isValid_iff_exists_append.mpr ⟨a, b, rfl, rfl⟩

/-- **A PART OF A TEXT** is cut out at the places where it starts and ends. -/
theorem between?_append (a b c : String) :
    between? (a ++ b ++ c) a.utf8ByteSize (a ++ b).utf8ByteSize = some b := by
  have hstart : String.Pos.Raw.IsValid (a ++ b ++ c) ⟨a.utf8ByteSize⟩ := by
    rw [String.append_assoc]
    exact isValid_append a (b ++ c)
  have hle : a.utf8ByteSize ≤ (a ++ b).utf8ByteSize := by
    rw [String.utf8ByteSize_append]
    exact Nat.le_add_right _ _
  have hsize : (a ++ b).utf8ByteSize = a.toByteArray.size + b.toByteArray.size :=
    String.utf8ByteSize_append
  have hbytes : (a ++ b ++ c).toByteArray = a.toByteArray ++ (b.toByteArray ++ c.toByteArray) := by
    rw [String.append_assoc, String.toByteArray_append, String.toByteArray_append]
  rw [between?, dif_pos ⟨hstart, isValid_append (a ++ b) c, hle⟩, Option.some_inj,
    ← String.toByteArray_inj, String.toByteArray_extract, hbytes]
  dsimp only
  rw [hsize]
  exact (ByteArray.extract_append_size_add (i := 0)).trans (ByteArray.extract_append_eq_left rfl)

/-- A part is only cut out in range and at boundaries of characters. -/
theorem bounds_of_between? {text part : String} {start stop : Nat}
    (h : between? text start stop = some part) :
    String.Pos.Raw.IsValid text ⟨start⟩ ∧ String.Pos.Raw.IsValid text ⟨stop⟩ ∧ start ≤ stop := by
  rw [between?] at h
  split at h
  · assumption
  · exact nomatch h

end FindingsBrowser.Text.Utf8
