import FindingsBrowser.Binary64.Basic
import Mathlib.Algebra.Order.Field.Basic
import Mathlib.Algebra.Order.Field.Rat
import Mathlib.Data.Rat.Cast.Order
import Mathlib.Tactic.FieldSimp
import Mathlib.Tactic.Linarith
import Mathlib.Tactic.Ring

/-! # Exact scales — the powers behind quotients of naturals

    A factor `b ^ e` of an exact quotient is held as two naturals, `power b e`
    above the line and `power b (-e)` below it.  Here the pair is one power with
    an integer exponent in `ℚ`, and powers of ten are bounded by powers of two
    from their exponents alone, since `10 ^ 3 ≤ 2 ^ 10` and
    `2 ^ 93 ≤ 10 ^ 28`. -/

namespace FindingsBrowser.Binary64

/-- Both halves of a scale are positive. -/
theorem power_pos {b : Nat} (hb : 0 < b) (e : Int) : 0 < power b e :=
  Nat.pow_pos hb

/-- **ONE POWER**: the half above the line is the power times the half below. -/
theorem cast_power {b : Nat} (hb : 0 < b) (e : Int) :
    (power b e : ℚ) = (b : ℚ) ^ e * power b (-e) := by
  have hne : (b : ℚ) ≠ 0 := Nat.cast_ne_zero.mpr (Nat.pos_iff_ne_zero.mp hb)
  cases le_total 0 e with
  | inl h =>
      obtain ⟨n, rfl⟩ := Int.eq_ofNat_of_zero_le h
      have hzero : (-(n : Int)).toNat = 0 := by omega
      simp [power, hzero]
  | inr h =>
      obtain ⟨n, rfl⟩ : ∃ n : Nat, e = -n := ⟨(-e).toNat, by omega⟩
      have hzero : (-(n : Int)).toNat = 0 := by omega
      simp [power, hzero, hne]

/-- A scaled quotient of naturals, in `ℚ`. -/
theorem cast_scaled {b : Nat} (hb : 0 < b) (num den : Nat) (e : Int) :
    ((num * power b e : Nat) : ℚ) / (den * power b (-e) : Nat)
      = num / den * (b : ℚ) ^ e := by
  have hpos : (power b (-e) : ℚ) ≠ 0 :=
    Nat.cast_ne_zero.mpr (Nat.pos_iff_ne_zero.mp (power_pos hb (-e)))
  rw [Nat.cast_mul, Nat.cast_mul, cast_power hb e, ← mul_assoc,
    mul_div_mul_right _ _ hpos, mul_div_right_comm]

/-! ## Powers of ten between powers of two -/

theorem two_zpow_pos (e : Int) : (0 : ℚ) < 2 ^ e :=
  zpow_pos two_pos e

/-- A power of ten with a large exponent is settled by `10 ^ 3 ≤ 2 ^ 10`, one
    with a small exponent by `2 ^ 93 ≤ 10 ^ 28`. -/
theorem ten_zpow_le_two_zpow {a b : Int} (hlarge : 10 * a ≤ 3 * b)
    (hsmall : 93 * a ≤ 28 * b) : (10 : ℚ) ^ a ≤ 2 ^ b := by
  have hten : (0 : ℚ) ≤ 10 ^ a := (zpow_pos (by norm_num) a).le
  have htwo : (0 : ℚ) ≤ 2 ^ b := (two_zpow_pos b).le
  rcases le_total 0 a with ha | ha
  · -- cubes on both sides turn `3 * b` into an exponent
    refine (pow_le_pow_iff_left₀ hten htwo (by decide : 3 ≠ 0)).mp ?_
    calc ((10 : ℚ) ^ a) ^ 3
        = (10 ^ 3) ^ a := by rw [← zpow_natCast, zpow_comm, zpow_natCast]
      _ ≤ (2 ^ 10) ^ a := zpow_le_zpow_left₀ ha (by norm_num) (by norm_num)
      _ = 2 ^ (10 * a) := by rw [zpow_mul]; norm_num
      _ ≤ 2 ^ (b * 3) := zpow_le_zpow_right₀ (by norm_num) (by omega)
      _ = (2 ^ b) ^ 3 := by rw [zpow_mul]; norm_cast
  · -- a negative exponent turns the comparison of the bases around
    refine (pow_le_pow_iff_left₀ hten htwo (by decide : 28 ≠ 0)).mp ?_
    have hbase : (2 : ℚ) ^ 93 ≤ 10 ^ 28 := by norm_num
    calc ((10 : ℚ) ^ a) ^ 28
        = ((10 ^ 28) ^ (-a))⁻¹ := by
          rw [zpow_neg, inv_inv, ← zpow_natCast, zpow_comm, zpow_natCast]
      _ ≤ ((2 ^ 93) ^ (-a))⁻¹ :=
          inv_anti₀ (zpow_pos (by norm_num) _)
            (zpow_le_zpow_left₀ (by omega) (by norm_num) hbase)
      _ = 2 ^ (93 * a) := by rw [zpow_neg, inv_inv, zpow_mul]; norm_cast
      _ ≤ 2 ^ (b * 28) := zpow_le_zpow_right₀ (by norm_num) (by omega)
      _ = (2 ^ b) ^ 28 := by rw [zpow_mul]; norm_cast

/-- A power of two below a power of ten, by `2 ^ 93 ≤ 10 ^ 28` alone. -/
theorem two_zpow_le_ten_zpow {a b : Int} (ha : 0 ≤ a) (h : 28 * b ≤ 93 * a) :
    (2 : ℚ) ^ b ≤ 10 ^ a := by
  have hten : (0 : ℚ) ≤ 10 ^ a := (zpow_pos (by norm_num) a).le
  refine (pow_le_pow_iff_left₀ (two_zpow_pos b).le hten (by decide : 28 ≠ 0)).mp ?_
  have hbase : (2 : ℚ) ^ 93 ≤ 10 ^ 28 := by norm_num
  calc ((2 : ℚ) ^ b) ^ 28
      = 2 ^ (b * 28) := by rw [zpow_mul]; norm_cast
    _ ≤ 2 ^ (93 * a) := zpow_le_zpow_right₀ (by norm_num) (by omega)
    _ = (2 ^ 93) ^ a := by rw [zpow_mul]; norm_cast
    _ ≤ (10 ^ 28) ^ a := zpow_le_zpow_left₀ ha (by norm_num) hbase
    _ = (10 ^ a) ^ 28 := by rw [← zpow_natCast, zpow_comm, zpow_natCast]

end FindingsBrowser.Binary64
