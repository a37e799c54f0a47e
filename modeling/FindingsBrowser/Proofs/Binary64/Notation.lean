import FindingsBrowser.Binary64.Notation
import FindingsBrowser.Proofs.Binary64.Shortest
import FindingsBrowser.Proofs.Text.Natural

/-! # Plain notation — a finite number is read back from its text

    A numeral is a sign, digits and perhaps more digits behind a point; `read`
    takes it apart the way `joinPoint` and `withSign` put it together.  The
    digits name a decimal in the number's interval, so the number comes back
    bit for bit, `-0` included. -/

namespace FindingsBrowser.Binary64

open Text

/-! ## Numerals -/

/-- A text of digits only. -/
def AllDigits (s : List Char) : Prop := ∀ c ∈ s, c.isDigit = true

theorem allDigits_nil : AllDigits [] := fun _ hc => absurd hc List.not_mem_nil

theorem AllDigits.append {s t : List Char} (hs : AllDigits s) (ht : AllDigits t) :
    AllDigits (s ++ t) := by
  intro c hc
  rcases List.mem_append.mp hc with h | h
  · exact hs c h
  · exact ht c h

theorem allDigits_zeros (k : Nat) : AllDigits (List.replicate k '0') := by
  intro c hc
  rw [List.eq_of_mem_replicate hc]
  rfl

/-- The characters of a numeral without its sign. -/
theorem mem_joinPoint {whole fraction : List Char} (hw : AllDigits whole)
    (hf : AllDigits fraction) {c : Char} (hc : c ∈ joinPoint whole fraction) :
    c.isDigit = true ∨ c = '.' := by
  rw [joinPoint] at hc
  split at hc
  · exact Or.inl (hw c hc)
  · rcases List.mem_append.mp hc with h | h
    · exact Or.inl (hw c h)
    · rcases List.mem_cons.mp h with rfl | h
      · exact Or.inr rfl
      · exact Or.inl (hf c h)

/-- A numeral starts with the first digit of its whole part. -/
theorem joinPoint_cons (d : Char) (whole fraction : List Char) :
    ∃ rest, joinPoint (d :: whole) fraction = d :: rest := by
  rw [joinPoint]
  split
  · exact ⟨whole, rfl⟩
  · exact ⟨whole ++ '.' :: fraction, rfl⟩

/-- The sign of a text that starts with a digit. -/
theorem readSign_withSign (negative : Bool) {d : Char} (hd : d.isDigit = true)
    (rest : List Char) :
    readSign (withSign negative (d :: rest)) = (negative, d :: rest) := by
  cases negative with
  | true => rfl
  | false =>
      show readSign (d :: rest) = _
      unfold readSign
      split
      · case _ h =>
          obtain ⟨rfl, -⟩ := List.cons.inj h
          exact absurd hd (by decide)
      · case _ h =>
          obtain ⟨rfl, -⟩ := List.cons.inj h
          exact absurd hd (by decide)
      · rfl

/-- A text without `e` has no exponent. -/
theorem cutExponent_eq {s : List Char} (h : ∀ c ∈ s, c.isDigit = true ∨ c = '.') :
    cutExponent s = (s, none) := by
  induction s with
  | nil => rfl
  | cons c cs ih =>
      have hc : ¬ (c = 'e' ∨ c = 'E') := by
        rcases h c List.mem_cons_self with hd | rfl
        · rintro (rfl | rfl)
          · exact absurd hd (by decide)
          · exact absurd hd (by decide)
        · decide
      rw [cutExponent, if_neg hc, ih (fun c hc => h c (List.mem_cons_of_mem _ hc))]

/-- The point of a numeral separates its digits again. -/
theorem cutFirst_joinPoint {whole : List Char} (hw : AllDigits whole)
    (fraction : List Char) :
    (cutFirst '.' (joinPoint whole fraction)).getD (joinPoint whole fraction, [])
      = (whole, fraction) := by
  have hpoint : '.' ∉ whole := fun h => absurd (hw '.' h) (by decide)
  rw [joinPoint]
  cases fraction with
  | nil =>
      show (cutFirst '.' whole).getD (whole, []) = _
      rw [cutFirst_eq_none hpoint]
      rfl
  | cons d ds =>
      show (cutFirst '.' (whole ++ '.' :: d :: ds)).getD _ = _
      rw [cutFirst_append hpoint]
      rfl

/-- A digit names nothing but itself in lower case. -/
theorem toLower_of_isDigit {c : Char} (h : c.isDigit = true) : c.toLower = c := by
  simp only [Char.isDigit, Bool.and_eq_true, decide_eq_true_eq] at h
  refine dif_neg ?_
  rintro ⟨hA, -⟩
  exact absurd (UInt32.le_trans hA h.2) (by decide)

/-- A text that starts with a digit is none of the special names. -/
theorem name_ne {d : Char} (hd : d.isDigit = true) (rest : List Char) {c : Char}
    (hc : c.isDigit = false) (name : List Char) :
    String.ofList ((d :: rest).map Char.toLower) ≠ String.ofList (c :: name) := by
  intro h
  have hlist := String.ofList_injective h
  rw [List.map_cons, toLower_of_isDigit hd] at hlist
  obtain ⟨rfl, -⟩ := List.cons.inj hlist
  rw [hd] at hc
  exact nomatch hc

/-- **NUMERALS ARE READ** as the decimal their digits write, shifted by the digits
    behind the point. -/
theorem read_numeral (negative : Bool) {whole fraction : List Char} (hne : whole ≠ [])
    (hw : AllDigits whole) (hf : AllDigits fraction) {n : Nat}
    (hn : readDigits 0 (whole ++ fraction) = some n) :
    read (withSign negative (joinPoint whole fraction))
      = some (ofDecimal negative n (-(fraction.length : Int))) := by
  obtain ⟨d, ds, rfl⟩ := List.exists_cons_of_ne_nil hne
  have hd : d.isDigit = true := hw d List.mem_cons_self
  obtain ⟨rest, hrest⟩ := joinPoint_cons d ds fraction
  have hexp := cutExponent_eq (fun c hc => mem_joinPoint hw hf (c := c) hc)
  have hcut := cutFirst_joinPoint hw fraction
  rw [hrest] at hexp hcut ⊢
  -- the first character tells a numeral from the special names
  have hinf : String.ofList ((d :: rest).map Char.toLower) ≠ "inf" :=
    name_ne hd rest (by decide : 'i'.isDigit = false) ['n', 'f']
  have hinfinity : String.ofList ((d :: rest).map Char.toLower) ≠ "infinity" :=
    name_ne hd rest (by decide : 'i'.isDigit = false) ['n', 'f', 'i', 'n', 'i', 't', 'y']
  have hnan : String.ofList ((d :: rest).map Char.toLower) ≠ "nan" :=
    name_ne hd rest (by decide : 'n'.isDigit = false) ['a', 'n']
  rw [read, readSign_withSign negative hd rest]
  dsimp only
  rw [if_neg (not_or.mpr ⟨hinf, hinfinity⟩), if_neg hnan, readUnsigned, hexp]
  dsimp only
  rw [readMantissa, hcut]
  dsimp only
  rw [hn]
  simp

/-! ## Positional notation -/

/-- Both parts are digits, and the whole part has at least one. -/
theorem positional_digits (d : Decimal) :
    (positional d).1 ≠ [] ∧ AllDigits (positional d).1 ∧ AllDigits (positional d).2 := by
  have hdigits : AllDigits d.digits := fun c hc =>
    Nat.isDigit_of_mem_toDigits (by decide) (by decide) hc
  have hne : d.digits ≠ [] := Nat.toDigits_ne_nil
  rw [positional]
  dsimp only
  split
  · refine ⟨?_, hdigits.append (allDigits_zeros _), allDigits_nil⟩
    exact List.append_ne_nil_of_left_ne_nil hne _
  · split
    · case _ hplaces =>
        refine ⟨?_, fun c hc => hdigits c (List.mem_of_mem_take hc),
          fun c hc => hdigits c (List.mem_of_mem_drop hc)⟩
        rw [← List.length_pos_iff, List.length_take]
        omega
    · exact ⟨List.cons_ne_nil _ _, allDigits_zeros 1, (allDigits_zeros _).append hdigits⟩

/-- **POSITIONAL NOTATION** writes the decimal's value: its digits read as one
    number, shifted by the digits behind the point. -/
theorem readDigits_positional (d : Decimal) :
    ∃ n : Nat, readDigits 0 ((positional d).1 ++ (positional d).2) = some n
      ∧ (n : ℚ) * 10 ^ (-((positional d).2.length : Int))
          = d.significand * 10 ^ d.exponent := by
  have hread : readDigits 0 d.digits = some d.significand := by
    rw [Decimal.digits, readDigits_toDigits, Nat.zero_mul, Nat.zero_add]
  rw [positional]
  dsimp only
  split
  · case _ hexp =>
      obtain ⟨k, hk⟩ := Int.eq_ofNat_of_zero_le hexp
      refine ⟨d.significand * 10 ^ k, ?_, ?_⟩
      · rw [hk, Int.toNat_natCast, List.append_nil, readDigits_append, hread,
          Option.bind_some, readDigits_zeros]
      · rw [hk]
        simp
  · case _ hexp =>
      obtain ⟨places, hplaces⟩ : ∃ places : Nat, d.exponent = -(places : Int) :=
        ⟨(-d.exponent).toNat, by omega⟩
      have htoNat : (-d.exponent).toNat = places := by omega
      rw [htoNat, hplaces]
      refine ⟨d.significand, ?_, ?_⟩
      · split
        · rw [List.take_append_drop, hread]
        · rw [List.cons_append, List.nil_append, ← List.cons_append, ← List.replicate_succ,
            readDigits_append, readDigits_zeros, Option.bind_some, Nat.zero_mul, hread]
      · split
        · rw [List.length_drop]
          congr 3
          omega
        · rw [List.length_append, List.length_replicate]
          congr 3
          omega

/-! ## Finite numbers -/

theorem plain_zero {x : Binary64} (h : x.magnitude = 0) :
    x.plain = withSign x.negative (joinPoint ['0'] []) := by
  have hfin : x.isFinite = true := by
    rw [isFinite, h]
    rfl
  have hzero : x.isZero = true := by
    rw [isZero, h]
    rfl
  rw [plain, hfin, hzero]
  rfl

theorem plain_pos {x : Binary64} (hpos : 0 < x.magnitude) (hfin : x.isFinite = true) :
    x.plain = withSign x.negative
      (joinPoint (positional (x.shortest .upward)).1 (positional (x.shortest .upward)).2) := by
  have hzero : x.isZero = false := by
    rw [isZero, beq_eq_false_iff_ne]
    omega
  rw [plain, hfin, hzero]
  rfl

/-- **PLAIN NOTATION ROUND TRIP**: every finite number, of either sign and zero
    included, is read back from its plain notation. -/
theorem read_plain {x : Binary64} (hfin : x.isFinite = true) : read x.plain = some x := by
  rcases Nat.eq_zero_or_pos x.magnitude with hzero | hpos
  · have hw : AllDigits ['0'] := allDigits_zeros 1
    rw [plain_zero hzero, read_numeral x.negative (List.cons_ne_nil _ _) hw
      allDigits_nil (n := 0) rfl]
    show some (⟨x.negative, 0⟩ : Binary64) = some x
    rw [← hzero]
  · have hlt : x.magnitude < infinite := of_decide_eq_true hfin
    obtain ⟨hne, hw, hf⟩ := positional_digits (x.shortest .upward)
    obtain ⟨n, hn, hvalue⟩ := readDigits_positional (x.shortest .upward)
    have hround := roundsTo_shortest .upward (parts hpos hlt)
    rw [← hvalue] at hround
    rw [plain_pos hpos hfin, read_numeral x.negative hne hw hf hn,
      ofDecimal_of_roundsTo hpos hlt x.negative hround]

/-- The characters of plain notation: digits, a point and a minus sign. -/
theorem mem_plain {x : Binary64} (hfin : x.isFinite = true) {c : Char} (hc : c ∈ x.plain) :
    c.isDigit = true ∨ c = '.' ∨ c = '-' := by
  have hsigned : ∀ {whole fraction : List Char}, AllDigits whole → AllDigits fraction →
      c ∈ withSign x.negative (joinPoint whole fraction) →
      c.isDigit = true ∨ c = '.' ∨ c = '-' := by
    intro whole fraction hw hf hc
    cases hneg : x.negative with
    | true =>
        rw [hneg] at hc
        rcases List.mem_cons.mp hc with rfl | h
        · exact Or.inr (Or.inr rfl)
        · exact (mem_joinPoint hw hf h).imp_right Or.inl
    | false =>
        rw [hneg] at hc
        exact (mem_joinPoint hw hf hc).imp_right Or.inl
  rcases Nat.eq_zero_or_pos x.magnitude with hzero | hpos
  · rw [plain_zero hzero] at hc
    exact hsigned (allDigits_zeros 1) allDigits_nil hc
  · obtain ⟨-, hw, hf⟩ := positional_digits (x.shortest .upward)
    rw [plain_pos hpos hfin] at hc
    exact hsigned hw hf hc

end FindingsBrowser.Binary64
