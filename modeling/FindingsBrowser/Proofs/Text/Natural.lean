import FindingsBrowser.Text.Natural
import Mathlib.Algebra.Group.Nat.Defs

/-! # Decimal natural numbers — digits written are digits read

    `readDigits` carries what it has read so far, so each law is stated for any
    number read before: behind `acc`, the digits of `n` read as
    `acc * 10 ^ length + n`. -/

namespace FindingsBrowser.Text

/-- A decimal digit is read as its value. -/
theorem digitValue?_digitChar : ∀ d < 10, digitValue? d.digitChar = some d := by
  decide

/-- The numbers of the digits. -/
theorem toNat_of_isDigit {c : Char} (h : c.isDigit = true) : 48 ≤ c.toNat ∧ c.toNat ≤ 57 := by
  rw [Char.isDigit, Bool.and_eq_true, decide_eq_true_eq, decide_eq_true_eq] at h
  exact ⟨UInt32.le_iff_toNat_le.mp h.1, UInt32.le_iff_toNat_le.mp h.2⟩

/-- Reading goes through a text part by part. -/
theorem readDigits_append (s t : List Char) :
    ∀ acc, readDigits acc (s ++ t) = (readDigits acc s).bind (readDigits · t) := by
  induction s with
  | nil => intro acc; rfl
  | cons c cs ih =>
      intro acc
      rw [List.cons_append, readDigits, readDigits]
      cases digitValue? c with
      | none => rfl
      | some d => exact ih (acc * 10 + d)

theorem readDigits_digitChar (acc : Nat) {d : Nat} (h : d < 10) :
    readDigits acc [d.digitChar] = some (acc * 10 + d) := by
  rw [readDigits, digitValue?_digitChar d h]
  rfl

/-- Zeros behind a number shift it. -/
theorem readDigits_zeros (k : Nat) :
    ∀ acc, readDigits acc (List.replicate k '0') = some (acc * 10 ^ k) := by
  induction k with
  | zero =>
      intro acc
      rw [Nat.pow_zero, Nat.mul_one]
      rfl
  | succ k ih =>
      intro acc
      have hzero : digitValue? '0' = some 0 := rfl
      rw [List.replicate_succ, readDigits, hzero]
      dsimp only
      rw [ih, Nat.add_zero, Nat.mul_assoc, Nat.mul_comm 10, ← Nat.pow_succ]

/-- **The digits of a number are read as the number.** -/
theorem readDigits_toDigits (n : Nat) :
    ∀ acc, readDigits acc (Nat.toDigits 10 n)
      = some (acc * 10 ^ (Nat.toDigits 10 n).length + n) := by
  induction n using Nat.strongRecOn with
  | ind n ih =>
      intro acc
      by_cases h : n < 10
      · rw [Nat.toDigits_of_lt_base h, readDigits_digitChar acc h,
          List.length_singleton, Nat.pow_one]
      · -- all digits but the last are those of `n / 10`
        have hmod : n % 10 < 10 := Nat.mod_lt n (by decide)
        rw [Nat.toDigits_of_base_le (by decide) (by omega), readDigits_append,
          ih (n / 10) (by omega), Option.bind_some, readDigits_digitChar _ hmod,
          List.length_append, List.length_singleton, Nat.pow_succ, ← Nat.mul_assoc]
        congr 1
        omega

/-- Numbers are written with digits only. -/
theorem isDigit_of_mem_writeNatural {n : Nat} {c : Char}
    (h : c ∈ writeNatural n) : c.isDigit = true :=
  Nat.isDigit_of_mem_toDigits (by decide) (by decide) h

/-- What is true of digits is true of the characters of a number. -/
theorem all_writeNatural {p : Char → Bool} (hdigit : ∀ c, c.isDigit = true → p c = true)
    (n : Nat) : (writeNatural n).all p = true :=
  List.all_eq_true.mpr fun c hc => hdigit c (isDigit_of_mem_writeNatural hc)

/-- **A number below the limit is read back.** -/
theorem readNatural_writeNatural {limit n : Nat} (h : n < limit) :
    readNatural limit (writeNatural n) = some n := by
  have hplus : ∀ rest, writeNatural n = '+' :: rest → False := by
    intro rest heq
    have hmem : '+' ∈ writeNatural n := heq ▸ List.mem_cons_self
    exact absurd (isDigit_of_mem_writeNatural hmem) (by decide)
  have hempty : (writeNatural n).isEmpty = false :=
    List.isEmpty_eq_false_iff.mpr Nat.toDigits_ne_nil
  have hread : readDigits 0 (writeNatural n) = some n := by
    rw [writeNatural, readDigits_toDigits, Nat.zero_mul, Nat.zero_add]
  rw [readNatural]
  · rw [hread, hempty]
    exact if_pos (decide_eq_true h)
  · exact hplus

/-- Only numbers below the limit are read. -/
theorem lt_of_readNatural {limit n : Nat} {s : List Char} (h : readNatural limit s = some n) :
    n < limit := by
  -- with or without a sign in front, the digits are read in the same way
  have hdigits : ∀ digits : List Char,
      (if digits.isEmpty = true then none
        else (readDigits 0 digits).filter fun n => decide (n < limit)) = some n → n < limit := by
    intro digits hread
    split at hread
    · exact nomatch hread
    · exact of_decide_eq_true (Option.filter_eq_some_iff.mp hread).2
  exact hdigits _ h

end FindingsBrowser.Text
