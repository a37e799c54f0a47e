import FindingsBrowser.Proofs.Binary64.Rounding
import FindingsBrowser.Text.Natural

/-! # Exact values — a number is the nearest to its own value

    The value of a finite number lies in the middle of its interval, so it rounds to the
    number again, and a factor of one changes nothing.  A quotient far below the largest
    number rounds to a finite one; among them are all natural numbers of 64 bits. -/

namespace FindingsBrowser

/-- A quotient below a natural number rounds to that number at most. -/
theorem divNearest_le {a b n : Nat} (h : a < n * b) : divNearest a b ≤ n := by
  have hquot : a / b < n := Nat.div_lt_of_lt_mul (by rwa [Nat.mul_comm])
  rw [divNearest]
  split <;> omega

namespace Binary64

/-! ## The value of a number -/

/-- The value of a number is its significand at its place. -/
theorem ratio_eq (x : Binary64) :
    (x.ratio.1 / x.ratio.2 : ℚ) = x.significand * 2 ^ x.exponent := by
  have h := cast_scaled two_pos x.significand 1 x.exponent
  rwa [Nat.one_mul, Nat.cast_one, div_one, Nat.cast_ofNat] at h

theorem ratio_pos (x : Binary64) : 0 < x.ratio.2 := power_pos two_pos _

/-- **OWN VALUE**: a positive finite number's value lies inside its interval. -/
theorem roundsTo_ratio {x : Binary64} (hx : Parts x) :
    x.RoundsTo (x.ratio.1 / x.ratio.2) := by
  have hm := hx.significand_pos
  have hquarter := two_zpow_pos (x.exponent - 2)
  have hvalue : (x.ratio.1 / x.ratio.2 : ℚ) = (4 * x.significand : Nat) * 2 ^ (x.exponent - 2) := by
    have hplace := two_zpow_eq_quarters x 0
    rw [Nat.cast_zero, add_zero] at hplace
    rw [ratio_eq, hplace]
    push_cast
    ring
  have hlow : (x.interval 1).low < 4 * x.significand := by
    rw [low_interval]
    split <;> omega
  have hhigh : 4 * x.significand < (x.interval 1).high := by
    rw [high_interval]
    omega
  have hbelow := mul_lt_mul_of_pos_right (Nat.cast_lt (α := ℚ).mpr hlow) hquarter
  have habove := mul_lt_mul_of_pos_right (Nat.cast_lt (α := ℚ).mpr hhigh) hquarter
  rw [hvalue]
  exact ⟨hbelow.le, habove.le, fun _ => ⟨hbelow, habove⟩⟩

/-- A quotient that is the value of a finite number rounds to that number. -/
theorem nearestMagnitude_of_eq_ratio {x : Binary64} (hfin : x.isFinite = true) {num den : Nat}
    (hden : 0 < den) (h : (num / den : ℚ) = x.ratio.1 / x.ratio.2) :
    nearestMagnitude num den = x.magnitude := by
  rcases Nat.eq_zero_or_pos x.magnitude with hzero | hpos
  · have hsig : x.significand = 0 := by
      rw [significand, hzero]
      rfl
    rw [ratio_eq, hsig, Nat.cast_zero, zero_mul, div_eq_zero_iff, Nat.cast_eq_zero,
      Nat.cast_eq_zero] at h
    obtain rfl := h.resolve_right (Nat.pos_iff_ne_zero.mp hden)
    rw [hzero]
    rfl
  · have hlt : x.magnitude < infinite := of_decide_eq_true hfin
    exact nearestMagnitude_of_roundsTo hpos hlt hden (h ▸ roundsTo_ratio (parts hpos hlt))

/-- **TIMES ONE**: the zeroth power of ten changes no finite number. -/
theorem mul_powerOfTen_zero {x : Binary64} (hfin : x.isFinite = true) :
    x.mul (powerOfTen 0) = x := by
  have hone : powerOfTen 0 = ⟨false, 0x3FF0000000000000⟩ := by decide
  have hlt : x.magnitude < infinite := of_decide_eq_true hfin
  have hnan : x.isNaN = false := decide_eq_false (Nat.not_lt.mpr hlt.le)
  have hunit : (⟨false, 0x3FF0000000000000⟩ : Binary64).ratio = (leadingBit, leadingBit) := by
    decide
  have hbit : 0 < leadingBit := by decide
  have hquot : ((x.ratio.1 * leadingBit : Nat) / (x.ratio.2 * leadingBit : Nat) : ℚ)
      = x.ratio.1 / x.ratio.2 := by
    rw [Nat.cast_mul, Nat.cast_mul]
    exact mul_div_mul_right _ _ (Nat.cast_ne_zero.mpr (Nat.pos_iff_ne_zero.mp hbit))
  have hround := nearestMagnitude_of_eq_ratio hfin (Nat.mul_pos (ratio_pos x) hbit) hquot
  rw [hone, mul, hnan, hfin, hunit]
  show nearest (x.negative != false) _ _ = x
  rw [nearest, hround, Bool.bne_false]

/-! ## Staying finite -/

/-- **NO OVERFLOW**: a quotient below `2 ^ 1022` rounds to a finite number. -/
theorem nearestMagnitude_lt_infinite {num den : Nat} (hden : 0 < den)
    (h : (num / den : ℚ) < 2 ^ (1022 : Int)) : nearestMagnitude num den < infinite := by
  rw [nearestMagnitude]
  split
  · decide
  · case _ hnum =>
      obtain ⟨hlow, hhigh⟩ := binaryExponent_spec (Nat.pos_of_ne_zero hnum) hden
      have hexp : binaryExponent num den < 1022 :=
        (zpow_lt_zpow_iff_right₀ one_lt_two).mp (lt_of_le_of_lt hlow h)
      generalize binaryExponent num den = e at hlow hhigh hexp ⊢
      obtain ⟨q, hq⟩ : ∃ q : Int, q = max (e - 52) (-1074) := ⟨_, rfl⟩
      rw [← hq]
      dsimp only
      -- at place `q` the quotient has at most 53 bits
      have hbits : divNearest (num * power 2 (-q)) (den * power 2 q) ≤ 2 * leadingBit := by
        refine divNearest_le ?_
        have hpos : (0 : ℚ) < (den * power 2 q : Nat) :=
          Nat.cast_pos.mpr (Nat.mul_pos hden (power_pos two_pos q))
        have hscaled := cast_scaled two_pos num den (-q)
        rw [neg_neg, Nat.cast_ofNat] at hscaled
        rw [← Nat.cast_lt (α := ℚ), Nat.cast_mul (2 * leadingBit), ← div_lt_iff₀ hpos, hscaled]
        calc (num / den : ℚ) * 2 ^ (-q)
            < 2 ^ (e + 1) * 2 ^ (-q) := mul_lt_mul_of_pos_right hhigh (two_zpow_pos _)
          _ = 2 ^ (e + 1 - q) := by rw [← zpow_add₀ two_ne_zero, sub_eq_add_neg]
          _ ≤ 2 ^ (53 : Int) := zpow_le_zpow_right₀ one_le_two (by omega)
          _ = (2 * leadingBit : Nat) := by norm_num [leadingBit]
      refine lt_of_le_of_lt (min_le_left _ _) ?_
      have hplace : (q + 1074).toNat ≤ 2043 := by omega
      simp only [leadingBit, infinite] at hbits ⊢
      omega

/-- Every natural number of 64 bits is nearest to a finite number. -/
theorem isFinite_ofNat {n : Nat} (h : n < Text.wordLimit) : (ofNat n).isFinite = true := by
  refine decide_eq_true (nearestMagnitude_lt_infinite one_pos ?_)
  rw [Nat.cast_one, div_one]
  calc (n : ℚ)
      < (Text.wordLimit : Nat) := Nat.cast_lt.mpr h
    _ = 2 ^ (64 : Int) := by norm_num [Text.wordLimit]
    _ ≤ 2 ^ (1022 : Int) := zpow_le_zpow_right₀ one_le_two (by decide)

end Binary64

end FindingsBrowser
