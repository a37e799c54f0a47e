import FindingsBrowser.Json.Parser
import FindingsBrowser.Json.Printer
import FindingsBrowser.Proofs.Binary64.Exact
import FindingsBrowser.Proofs.Binary64.Notation

/-! # JSON numbers — literals are read back, and words have values

    The reader takes as many digits as there are, so a literal comes back only where
    what follows cannot go on with it: behind a value stand a comma, a closing bracket or
    nothing.  Every natural number of 64 bits keeps all its digits on the way to a
    binary64 value. -/

namespace FindingsBrowser.Json

open Text Binary64

/-! ## What follows -/

/-- A text that does not start with a digit. -/
def NoDigit (s : List Char) : Prop := ∀ c ∈ s.head?, digitValue? c = none

/-- What may stand behind a value. -/
def Follows (rest : List Char) : Prop := ∀ c ∈ rest.head?, c = ',' ∨ c = ']' ∨ c = '}'

theorem follows_nil : Follows [] := fun _ hc => nomatch hc

theorem follows_cons {c : Char} (h : c = ',' ∨ c = ']' ∨ c = '}') (s : List Char) :
    Follows (c :: s) := by
  intro d hd
  obtain rfl := Option.mem_some.mp hd
  exact h

theorem noDigit_cons {c : Char} (h : digitValue? c = none) (s : List Char) : NoDigit (c :: s) := by
  intro d hd
  obtain rfl := Option.mem_some.mp hd
  exact h

theorem Follows.noDigit {rest : List Char} (h : Follows rest) : NoDigit rest := by
  intro c hc
  rcases h c hc with rfl | rfl | rfl <;> rfl

/-! ## Digits -/

theorem isSome_digitValue? {c : Char} (h : c.isDigit = true) : (digitValue? c).isSome = true := by
  rw [Char.isDigit, Bool.and_eq_true, decide_eq_true_eq, decide_eq_true_eq] at h
  rw [digitValue?, if_pos ⟨h.1, h.2⟩]
  rfl

/-- The digits in front of another text are taken, and no more. -/
theorem spanDigits_append {digits rest : List Char} (hdigits : AllDigits digits)
    (hrest : NoDigit rest) : spanDigits (digits ++ rest) = (digits, rest) := by
  have hall : ∀ c ∈ digits, (digitValue? c).isSome = true :=
    fun c hc => isSome_digitValue? (hdigits c hc)
  have hstop : rest.takeWhile (fun c => (digitValue? c).isSome) = []
      ∧ rest.dropWhile (fun c => (digitValue? c).isSome) = rest := by
    cases rest with
    | nil => exact ⟨rfl, rfl⟩
    | cons c s =>
        have hc : (digitValue? c).isSome ≠ true := by
          rw [hrest c rfl]
          decide
        exact ⟨List.takeWhile_cons_of_neg hc, List.dropWhile_cons_of_neg hc⟩
  rw [spanDigits, List.span_eq_takeWhile_dropWhile, List.takeWhile_append_of_pos hall,
    List.dropWhile_append_of_pos hall, hstop.1, hstop.2, List.append_nil]

theorem allDigits_writeNatural (n : Nat) : AllDigits (writeNatural n) :=
  fun _ hc => isDigit_of_mem_writeNatural hc

theorem readDigits_writeNatural (n : Nat) : readDigits 0 (writeNatural n) = some n := by
  rw [writeNatural, readDigits_toDigits, Nat.zero_mul, Nat.zero_add]

/-- A number has a first digit. -/
theorem writeNatural_cons (n : Nat) : ∃ d ds, writeNatural n = d :: ds ∧ d.isDigit = true := by
  obtain ⟨d, ds, hcons⟩ := List.exists_cons_of_ne_nil (Nat.toDigits_ne_nil (b := 10) (n := n))
  have hwrite : writeNatural n = d :: ds := hcons
  exact ⟨d, ds, hwrite, isDigit_of_mem_writeNatural (hwrite ▸ List.mem_cons_self)⟩

/-- A positive number is written without leading zeros. -/
theorem head?_writeNatural {n : Nat} (h : 0 < n) : (writeNatural n).head? ≠ some '0' := by
  induction n using Nat.strongRecOn with
  | ind n ih =>
      rw [writeNatural]
      by_cases hlt : n < 10
      · have hdigit : ∀ d < 10, 0 < d → [d.digitChar].head? ≠ some '0' := by decide
        rw [Nat.toDigits_of_lt_base hlt]
        exact hdigit n hlt h
      · -- the first digit is that of `n / 10`, which is positive too
        rw [Nat.toDigits_of_base_le (by decide) (by omega),
          List.head?_append_of_ne_nil _ Nat.toDigits_ne_nil]
        exact ih (n / 10) (by omega) (by omega)

/-! ## Literals -/

/-- A literal as it can be written: there are digits only behind the point. -/
def Number.WellFormed (n : Number) : Prop := AllDigits n.fraction

/-- The exponent of a literal, or nothing. -/
def exponentText : Option Int → List Char
  | some e => writeExponent e
  | none => []

theorem write_eq (n : Number) :
    n.write = withSign n.negative
      (joinPoint (writeNatural n.whole) n.fraction ++ exponentText n.exponent) := by
  rw [Number.write]
  cases n.exponent with
  | none => rfl
  | some e => rfl

/-- Behind its digits, a literal goes on with an exponent or ends. -/
theorem exponentText_head {rest : List Char} (h : Follows rest) (exponent : Option Int) {c : Char}
    (hc : c ∈ (exponentText exponent ++ rest).head?) : c ≠ '.' ∧ digitValue? c = none := by
  cases exponent with
  | none =>
      rcases h c hc with rfl | rfl | rfl
      · exact ⟨by decide, rfl⟩
      · exact ⟨by decide, rfl⟩
      · exact ⟨by decide, rfl⟩
  | some e =>
      obtain rfl := Option.mem_some.mp hc
      exact ⟨by decide, rfl⟩

/-- The exponent is read back. -/
theorem readExponent_exponentText {rest : List Char} (h : Follows rest) (exponent : Option Int) :
    readExponent (exponentText exponent ++ rest) = some (exponent, rest) := by
  cases exponent with
  | none =>
      cases rest with
      | nil => rfl
      | cons c s =>
          have hc : ¬ (c = 'e' ∨ c = 'E') := by
            rcases h c rfl with rfl | rfl | rfl <;> decide
          exact if_neg hc
  | some e =>
      have hspan := spanDigits_append (allDigits_writeNatural e.natAbs) h.noDigit
      have hempty : (writeNatural e.natAbs).isEmpty = false :=
        List.isEmpty_eq_false_iff.mpr Nat.toDigits_ne_nil
      rw [exponentText, writeExponent, List.cons_append, List.cons_append, readExponent,
        if_pos (Or.inl rfl)]
      by_cases hneg : e < 0
      · have hvalue : -|e| = e := by rw [abs_of_neg hneg, neg_neg]
        simp [hneg, readSign, hspan, hempty, readDigits_writeNatural, hvalue]
      · simp [hneg, readSign, hspan, hempty, readDigits_writeNatural]
        omega

/-- The digits behind the point are read back, or none if there are none. -/
theorem readFraction_append {fraction t : List Char} (hf : AllDigits fraction)
    (ht : ∀ c ∈ t.head?, c ≠ '.' ∧ digitValue? c = none) :
    readFraction ((if fraction.isEmpty then [] else '.' :: fraction) ++ t)
      = some (fraction, t) := by
  cases fraction with
  | nil =>
      cases t with
      | nil => rfl
      | cons c s =>
          show readFraction (c :: s) = _
          rw [readFraction]
          rintro s' heq
          exact (ht c rfl).1 (List.cons.inj heq).1
  | cons d ds =>
      show readFraction ('.' :: (d :: ds ++ t)) = _
      rw [readFraction, spanDigits_append hf fun c hc => (ht c hc).2]
      rfl

/-- A literal of more than one digit does not start with zero. -/
theorem writeNatural_no_leading_zero (n : Nat) :
    ((writeNatural n).head? == some '0' && (writeNatural n).length != 1) = false := by
  rcases Nat.eq_zero_or_pos n with rfl | hpos
  · rfl
  · rw [beq_eq_false_iff_ne.mpr (head?_writeNatural hpos)]
    rfl

/-- A literal without its sign is read back. -/
theorem readUnsigned_append (negative : Bool) (whole : Nat) {fraction rest : List Char}
    (hf : AllDigits fraction) (exponent : Option Int) (h : Follows rest) :
    readUnsigned negative (joinPoint (writeNatural whole) fraction ++ exponentText exponent ++ rest)
      = some (⟨negative, whole, fraction, exponent⟩, rest) := by
  have hhead : ∀ c ∈ (exponentText exponent ++ rest).head?, c ≠ '.' ∧ digitValue? c = none :=
    fun c hc => exponentText_head h exponent hc
  have hfraction := readFraction_append hf hhead
  have hexponent := readExponent_exponentText h exponent
  generalize exponentText exponent = e at hhead hfraction hexponent ⊢
  -- behind the whole part stands the point with its digits, or what follows them
  obtain ⟨u, hu⟩ : ∃ u, u = (if fraction.isEmpty then [] else '.' :: fraction) ++ (e ++ rest) :=
    ⟨_, rfl⟩
  have htext : joinPoint (writeNatural whole) fraction ++ e ++ rest = writeNatural whole ++ u := by
    rw [hu, joinPoint]
    split <;> simp
  have hnodigit : NoDigit u := by
    rw [hu]
    split
    · exact fun c hc => (hhead c hc).2
    · exact noDigit_cons rfl _
  rw [← hu] at hfraction
  have hempty : (writeNatural whole).isEmpty = false :=
    List.isEmpty_eq_false_iff.mpr Nat.toDigits_ne_nil
  rw [htext, readUnsigned, spanDigits_append (allDigits_writeNatural whole) hnodigit]
  simp [hempty, writeNatural_no_leading_zero, readDigits_writeNatural, hfraction, hexponent]

/-- The sign of a literal is read back. -/
theorem readNumber_withSign (negative : Bool) {c : Char} (hc : c.isDigit = true) (s : List Char) :
    readNumber (withSign negative (c :: s)) = readUnsigned negative (c :: s) := by
  cases negative with
  | true => rfl
  | false =>
      show readNumber (c :: s) = _
      rw [readNumber]
      rintro s' heq
      rw [(List.cons.inj heq).1] at hc
      exact nomatch hc

theorem withSign_append (negative : Bool) (s rest : List Char) :
    withSign negative s ++ rest = withSign negative (s ++ rest) := by
  cases negative with
  | true => rfl
  | false => rfl

/-- **LITERALS** are read back where nothing goes on with them. -/
theorem readNumber_write {n : Number} (hn : n.WellFormed) {rest : List Char} (h : Follows rest) :
    readNumber (n.write ++ rest) = some (n, rest) := by
  have hunsigned := readUnsigned_append n.negative n.whole hn n.exponent h
  obtain ⟨d, ds, hcons, hd⟩ := writeNatural_cons n.whole
  obtain ⟨ds', hjoin⟩ := joinPoint_cons d ds n.fraction
  rw [hcons, hjoin, List.cons_append, List.cons_append] at hunsigned
  rw [write_eq, withSign_append, hcons, hjoin, List.cons_append, List.cons_append,
    readNumber_withSign n.negative hd, hunsigned]

/-! ## Natural numbers -/

theorem wellFormed_ofNat (n : Nat) : (Number.ofNat n).WellFormed := allDigits_nil

/-- Digits only add to what was read before them. -/
theorem le_of_readDigits {s : List Char} :
    ∀ {acc n : Nat}, readDigits acc s = some n → acc ≤ n := by
  induction s with
  | nil => intro acc n h; exact (Option.some.inj h).le
  | cons c s ih =>
      intro acc n h
      rw [readDigits] at h
      split at h
      · have hle := ih h
        omega
      · cases h

/-- The digits of a number of 64 bits all fit in. -/
theorem absorb_of_readDigits {s : List Char} {n : Nat} (hn : n < wordLimit) :
    ∀ {acc : Nat}, readDigits acc s = some n → Number.absorb acc s = (n, []) := by
  induction s with
  | nil =>
      intro acc h
      rw [Number.absorb, Option.some.inj h]
  | cons c s ih =>
      intro acc h
      rw [readDigits] at h
      split at h
      · case _ d hd =>
          have hfits : acc * 10 + d < wordLimit := lt_of_le_of_lt (le_of_readDigits h) hn
          rw [Number.absorb, hd]
          dsimp only [Option.getD_some]
          rw [if_pos hfits, ih h]
      · cases h

/-- **WORDS HAVE VALUES**: a natural number of 64 bits stands for the nearest binary64
    number. -/
theorem toBinary64?_ofNat {n : Nat} (h : n < wordLimit) :
    (Number.ofNat n).toBinary64? = some (Binary64.ofNat n) := by
  have hfin := isFinite_ofNat h
  have habsorb : Number.absorb 0 (writeNatural n) = (n, []) :=
    absorb_of_readDigits h (readDigits_writeNatural n)
  have hscale : Number.scale (Binary64.ofNat n) 0 = some (Binary64.ofNat n) := by
    rw [Number.scale, if_neg (by decide), if_neg (by decide), if_pos (by decide)]
    dsimp only [Int.toNat_zero]
    rw [mul_powerOfTen_zero hfin, hfin, if_pos rfl]
  rw [Number.toBinary64?, Number.ofNat, habsorb]
  show (Number.scale (Binary64.ofNat n) 0).map _ = _
  rw [hscale]
  rfl

/-- The literal of a number of 64 bits gives the number back. -/
theorem natural?_ofNat {limit n : Nat} (h : n < limit) :
    (Number.ofNat n).natural? limit = some n :=
  if_pos h

/-! ## Binary64 numbers -/

/-- A finite number that reading its literal gives back. -/
def ReadsBack (x : Binary64) : Prop :=
  x.isFinite = true ∧ (Number.ofBinary64 x).toBinary64? = some x

/-- Numbers are written with digits behind the point. -/
theorem wellFormed_ofBinary64 (x : Binary64) : (Number.ofBinary64 x).WellFormed := by
  have hdigits : ∀ d : Decimal, AllDigits d.digits :=
    fun d c hc => Nat.isDigit_of_mem_toDigits (by decide) (by decide) hc
  have hzero : AllDigits ['0'] := allDigits_zeros 1
  rw [Number.WellFormed, Number.ofBinary64]
  dsimp only
  split
  · exact hzero
  · rw [Number.ofShortest]
    split
    · dsimp only
      split
      · exact hzero
      · exact (positional_digits _).2.2
    · exact fun c hc => hdigits _ c (List.mem_of_mem_drop hc)

end FindingsBrowser.Json
