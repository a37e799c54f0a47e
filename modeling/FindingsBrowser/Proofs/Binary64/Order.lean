import FindingsBrowser.Proofs.Binary64.Exact

/-! # Order — rounding keeps it, and stays close to what it rounds

    A quotient has a place, the weight of its last significant bit, and rounds to a whole
    number of places.  A larger quotient has a larger place or more of them, so rounding
    keeps the order (`nearestMagnitude_mono`); it moves a quotient by half a place at most,
    which is a `2 ^ 53`rd part of it (`value_nearest_bounds`). -/

namespace FindingsBrowser

/-! ## The nearest integer -/

/-- A quotient that reaches a natural number rounds to that number at least. -/
theorem le_divNearest {a b n : Nat} (hb : 0 < b) (h : n * b ≤ a) : n ≤ divNearest a b := by
  have hquot : n ≤ a / b := (Nat.le_div_iff_mul_le hb).mpr h
  rw [divNearest]
  split <;> omega

/-- The nearest integer is at most a half away. -/
theorem divNearest_near {a b : Nat} (hb : 0 < b) :
    2 * a ≤ 2 * (divNearest a b * b) + b ∧ 2 * (divNearest a b * b) ≤ 2 * a + b := by
  have hsplit : a / b * b + a % b = a := by
    rw [Nat.mul_comm]
    exact Nat.div_add_mod a b
  have hrem : a % b < b := Nat.mod_lt a hb
  rw [divNearest]
  split
  · rw [Nat.succ_mul (a / b)]
    omega
  · omega

/-- A larger quotient rounds to a larger integer, or to the same. -/
theorem divNearest_mono {a b c d : Nat} (hb : 0 < b) (hd : 0 < d) (h : a * d ≤ c * b) :
    divNearest a b ≤ divNearest c d := by
  have hfloor : a / b ≤ c / d := by
    rw [Nat.le_div_iff_mul_le hd]
    refine Nat.le_of_mul_le_mul_right ?_ hb
    calc a / b * d * b
        = a / b * b * d := Nat.mul_right_comm ..
      _ ≤ a * d := Nat.mul_le_mul_right d (Nat.div_mul_le_self a b)
      _ ≤ c * b := h
  rcases Nat.lt_or_eq_of_le hfloor with hlt | heq
  · rw [divNearest, divNearest]
    split <;> split <;> omega
  · -- the whole parts are the same, so the rests are in order
    have hrest : a % b * d ≤ c % d * b := by
      have ha : a * d = a / b * b * d + a % b * d := by
        rw [← Nat.add_mul, Nat.mul_comm (a / b), Nat.div_add_mod]
      have hc : c * b = a / b * b * d + c % d * b := by
        rw [heq, Nat.mul_right_comm, ← Nat.add_mul, Nat.mul_comm (c / d), Nat.div_add_mod]
      omega
    have hhalf : b ≤ 2 * (a % b) → d ≤ 2 * (c % d) := by
      intro hle
      refine Nat.le_of_mul_le_mul_right ?_ hb
      calc d * b
          ≤ 2 * (a % b) * d := by rw [Nat.mul_comm d]; exact Nat.mul_le_mul_right d hle
        _ ≤ 2 * (c % d) * b := by rw [Nat.mul_assoc, Nat.mul_assoc]; omega
    have hmore : b < 2 * (a % b) → d < 2 * (c % d) := by
      intro hlt
      refine Nat.lt_of_mul_lt_mul_right (a := b) ?_
      calc d * b
          < 2 * (a % b) * d := by rw [Nat.mul_comm d]; exact Nat.mul_lt_mul_of_pos_right hlt hd
        _ ≤ 2 * (c % d) * b := by rw [Nat.mul_assoc, Nat.mul_assoc]; omega
    rw [divNearest, divNearest, heq]
    split
    · case _ hup =>
        rw [if_pos]
        rcases hup with hlt | ⟨hhalf', hodd⟩
        · exact Or.inl (hmore hlt)
        · have hle := hhalf (Nat.le_of_eq hhalf')
          omega
    · split <;> omega

namespace Binary64

/-! ## Places -/

/-- The exponent of a quotient's place: of the weight of its last significant bit. -/
def place (num den : Nat) : Int := max (binaryExponent num den - 52) (-1074)

/-- A quotient in places, rounded. -/
def inPlaces (num den : Nat) : Nat :=
  divNearest (num * power 2 (-place num den)) (den * power 2 (place num den))

theorem nearestMagnitude_eq {num : Nat} (hnum : num ≠ 0) (den : Nat) :
    nearestMagnitude num den
      = min ((place num den + 1074).toNat * leadingBit + inPlaces num den) infinite := by
  rw [nearestMagnitude, if_neg hnum]
  rfl

theorem least_place (num den : Nat) : -1074 ≤ place num den := le_max_right _ _

/-- A quotient has 53 bits at its place, but for the least place, where it may have
    fewer. -/
theorem place_spec {num den : Nat} (hnum : 0 < num) (hden : 0 < den) :
    (num / den : ℚ) < 2 ^ (place num den + 53)
      ∧ (-1074 < place num den → (2 : ℚ) ^ (place num den + 52) ≤ num / den) := by
  obtain ⟨hlow, hhigh⟩ := binaryExponent_spec hnum hden
  rw [place]
  constructor
  · exact lt_of_lt_of_le hhigh (zpow_le_zpow_right₀ one_le_two (by omega))
  · intro hleast
    have heq : max (binaryExponent num den - 52) (-1074) + 52 = binaryExponent num den := by
      omega
    rwa [heq]

/-- A comparison with a number of places is one of naturals. -/
theorem le_quotient_iff {num den : Nat} (hden : 0 < den) (n : Nat) (q : Int) :
    n * (2 : ℚ) ^ q ≤ num / den ↔ n * (den * power 2 q) ≤ num * power 2 (-q) := by
  have hscaled : (0 : ℚ) < (den * power 2 q : Nat) :=
    Nat.cast_pos.mpr (Nat.mul_pos hden (power_pos two_pos q))
  have hquot := cast_scaled two_pos num den (-q)
  rw [neg_neg, Nat.cast_ofNat, zpow_neg, ← div_eq_mul_inv] at hquot
  rw [← le_div_iff₀ (two_zpow_pos q), ← hquot, le_div_iff₀ hscaled]
  exact_mod_cast Iff.rfl

theorem inPlaces_le {num den : Nat} (hnum : 0 < num) (hden : 0 < den) :
    inPlaces num den ≤ 2 * leadingBit := by
  refine divNearest_le (Nat.not_le.mp fun hle => ?_)
  have hreach := (le_quotient_iff hden (2 * leadingBit) (place num den)).mpr hle
  have hbits : ((2 * leadingBit : Nat) : ℚ) = 2 ^ (53 : Int) := by norm_num [leadingBit]
  rw [hbits, ← zpow_add₀ two_ne_zero, add_comm] at hreach
  exact absurd hreach (not_le.mpr (place_spec hnum hden).1)

theorem le_inPlaces {num den : Nat} (hnum : 0 < num) (hden : 0 < den)
    (hleast : -1074 < place num den) : leadingBit ≤ inPlaces num den := by
  refine le_divNearest (Nat.mul_pos hden (power_pos two_pos _)) ?_
  rw [← le_quotient_iff hden]
  have hbit : ((leadingBit : Nat) : ℚ) = 2 ^ (52 : Int) := by norm_num [leadingBit]
  rw [hbit, ← zpow_add₀ two_ne_zero, add_comm]
  exact (place_spec hnum hden).2 hleast

/-- The rounded quotient is at most half a place away. -/
theorem inPlaces_near {num den : Nat} (hden : 0 < den) :
    (num / den : ℚ) ≤ (inPlaces num den + 1 / 2) * 2 ^ place num den
      ∧ (inPlaces num den - 1 / 2 : ℚ) * 2 ^ place num den ≤ num / den := by
  have hpos : 0 < den * power 2 (place num den) := Nat.mul_pos hden (power_pos two_pos _)
  have hposQ : (0 : ℚ) < (den * power 2 (place num den) : Nat) := Nat.cast_pos.mpr hpos
  have hquot := cast_scaled two_pos num den (-place num den)
  rw [neg_neg, Nat.cast_ofNat, zpow_neg, ← div_eq_mul_inv] at hquot
  obtain ⟨habove, hbelow⟩ := divNearest_near (a := num * power 2 (-place num den)) hpos
  have haboveQ := Nat.cast_le (α := ℚ).mpr habove
  have hbelowQ := Nat.cast_le (α := ℚ).mpr hbelow
  rw [inPlaces]
  generalize divNearest _ _ = m at haboveQ hbelowQ ⊢
  generalize num * power 2 (-place num den) = a at hquot haboveQ hbelowQ
  generalize den * power 2 (place num den) = b at hquot hposQ haboveQ hbelowQ
  push_cast at haboveQ hbelowQ
  rw [← div_le_iff₀ (two_zpow_pos _), ← le_div_iff₀ (two_zpow_pos _), ← hquot,
    div_le_iff₀ hposQ, le_div_iff₀ hposQ]
  constructor <;> linarith

/-- A larger quotient has a larger place, or the same. -/
theorem place_mono {a b c d : Nat} (ha : 0 < a) (hb : 0 < b) (hc : 0 < c) (hd : 0 < d)
    (h : (a / b : ℚ) ≤ c / d) : place a b ≤ place c d := by
  have hlt := lt_of_le_of_lt ((binaryExponent_spec ha hb).1.trans h) (binaryExponent_spec hc hd).2
  have hexp := (zpow_lt_zpow_iff_right₀ one_lt_two).mp hlt
  rw [place, place]
  omega

/-- **ROUNDING KEEPS THE ORDER.** -/
theorem nearestMagnitude_mono {a b c d : Nat} (hb : 0 < b) (hd : 0 < d)
    (h : (a / b : ℚ) ≤ c / d) : nearestMagnitude a b ≤ nearestMagnitude c d := by
  rcases Nat.eq_zero_or_pos a with rfl | ha
  · exact Nat.zero_le _
  have hc : 0 < c := by
    rw [Nat.pos_iff_ne_zero]
    rintro rfl
    rw [Nat.cast_zero, zero_div] at h
    exact absurd h (not_le.mpr (div_pos (Nat.cast_pos.mpr ha) (Nat.cast_pos.mpr hb)))
  have hplace : place a b ≤ place c d := place_mono ha hb hc hd h
  have hleast := least_place a b
  rw [nearestMagnitude_eq (Nat.pos_iff_ne_zero.mp ha),
    nearestMagnitude_eq (Nat.pos_iff_ne_zero.mp hc)]
  refine min_le_min_right infinite ?_
  rcases lt_or_eq_of_le hplace with hlt | heq
  · -- at the larger place the quotient fills all bits
    have hfew := inPlaces_le ha hb
    have hfull := le_inPlaces hc hd (by omega)
    have hsucc : (place a b + 1074).toNat + 1 ≤ (place c d + 1074).toNat := by omega
    have hstep := Nat.mul_le_mul_right leadingBit hsucc
    rw [Nat.add_mul] at hstep
    omega
  · rw [heq]
    refine Nat.add_le_add_left ?_ _
    rw [inPlaces, inPlaces, heq]
    refine divNearest_mono (Nat.mul_pos hb (power_pos two_pos _))
      (Nat.mul_pos hd (power_pos two_pos _)) ?_
    rw [div_le_div_iff₀ (Nat.cast_pos.mpr hb) (Nat.cast_pos.mpr hd)] at h
    have hnat : a * d ≤ c * b := by exact_mod_cast h
    calc a * power 2 (-place c d) * (d * power 2 (place c d))
        = a * d * (power 2 (-place c d) * power 2 (place c d)) := by ring
      _ ≤ c * b * (power 2 (-place c d) * power 2 (place c d)) := Nat.mul_le_mul_right _ hnat
      _ = c * power 2 (-place c d) * (b * power 2 (place c d)) := by ring

/-- A quotient rounds by its value, whatever fraction it is written as. -/
theorem nearestMagnitude_congr {a b c d : Nat} (hb : 0 < b) (hd : 0 < d)
    (h : (a / b : ℚ) = c / d) : nearestMagnitude a b = nearestMagnitude c d :=
  le_antisymm (nearestMagnitude_mono hb hd h.le) (nearestMagnitude_mono hd hb h.ge)

/-! ## Values -/

/-- The absolute value of a finite number. -/
def value (x : Binary64) : ℚ := x.significand * 2 ^ x.exponent

theorem value_eq_ratio (x : Binary64) : x.value = x.ratio.1 / x.ratio.2 := (ratio_eq x).symm

theorem value_nonneg (x : Binary64) : 0 ≤ x.value :=
  mul_nonneg (Nat.cast_nonneg _) (two_zpow_pos _).le

/-- A significand at a place, put together as a magnitude; it may carry. -/
theorem value_ofPlaces (negative : Bool) {q : Int} {m : Nat} (hq : -1074 ≤ q)
    (hm : m ≤ 2 * leadingBit) (hfull : -1074 < q → leadingBit ≤ m) :
    value ⟨negative, (q + 1074).toNat * leadingBit + m⟩ = m * 2 ^ q := by
  obtain ⟨p, rfl⟩ : ∃ p : Nat, q = p - 1074 := ⟨(q + 1074).toNat, by omega⟩
  have hp : ((p : Int) - 1074 + 1074).toNat = p := by omega
  have hbit : 0 < leadingBit := by decide
  rw [hp, value]
  rcases Nat.lt_or_ge m leadingBit with hless | hmore
  · -- a significand that is not full goes with the least place
    obtain rfl : p = 0 := by
      by_contra hne
      have := hfull (by omega)
      omega
    have hmag : (⟨negative, 0 * leadingBit + m⟩ : Binary64).magnitude < leadingBit := by
      rw [Nat.zero_mul, Nat.zero_add]
      exact hless
    rw [significand, exponent, if_pos hmag, if_pos hmag, Nat.zero_mul, Nat.zero_add]
    rfl
  · have hnot : ¬(⟨negative, p * leadingBit + m⟩ : Binary64).magnitude < leadingBit :=
      Nat.not_lt.mpr (le_trans hmore (Nat.le_add_left ..))
    rw [significand, exponent, if_neg hnot, if_neg hnot]
    dsimp only
    rcases Nat.lt_or_eq_of_le hm with hlt | rfl
    · obtain ⟨r, rfl⟩ := Nat.exists_eq_add_of_le hmore
      have hr : r < leadingBit := by omega
      have hmag : p * leadingBit + (leadingBit + r) = leadingBit * (p + 1) + r := by ring
      rw [hmag, Nat.mul_add_mod, Nat.mod_eq_of_lt hr, Nat.mul_add_div hbit,
        Nat.div_eq_of_lt hr, Nat.add_zero]
      congr 2
      push_cast
      ring
    · -- the carry
      have hmag : p * leadingBit + 2 * leadingBit = leadingBit * (p + 2) := by ring
      rw [hmag, Nat.mul_mod_right, Nat.mul_div_cancel_left _ hbit]
      have hexp : ((p + 2 : Nat) : Int) - 1075 = p - 1074 + 1 := by
        push_cast
        ring
      rw [hexp, zpow_add_one₀ two_ne_zero]
      push_cast
      ring

/-- A larger magnitude has a larger exponent, or the same. -/
theorem exponent_mono {x y : Binary64} (hpos : 0 < x.magnitude)
    (h : x.magnitude ≤ y.magnitude) (hy : y.magnitude < infinite) :
    x.exponent ≤ y.exponent := by
  have hpx := parts hpos (lt_of_le_of_lt h hy)
  have hpy := parts (lt_of_lt_of_le hpos h) hy
  have hleast := hpy.least
  rw [magnitude_eq x, magnitude_eq y] at h
  by_contra hlt
  -- the larger exponent alone outweighs any significand
  have hsucc : (y.exponent + 1074).toNat + 1 ≤ (x.exponent + 1074).toNat := by omega
  have hstep := Nat.mul_le_mul_right leadingBit hsucc
  rw [Nat.add_mul] at hstep
  have hfull := hpx.full (by omega)
  have hless := hpy.significand_lt
  omega

/-- Larger magnitudes are larger values, up to the largest finite number. -/
theorem value_mono {x y : Binary64} (h : x.magnitude ≤ y.magnitude)
    (hy : y.magnitude < infinite) : x.value ≤ y.value := by
  rcases Nat.eq_zero_or_pos x.magnitude with hzero | hpos
  · have hsig : x.significand = 0 := by
      rw [significand, hzero]
      rfl
    rw [value, hsig, Nat.cast_zero, zero_mul]
    exact y.value_nonneg
  have hpx := parts hpos (lt_of_le_of_lt h hy)
  have hpy := parts (lt_of_lt_of_le hpos h) hy
  have hx := hpx.least
  have hltx := hpx.significand_lt
  have hexp : x.exponent ≤ y.exponent := exponent_mono hpos h hy
  rw [magnitude_eq x, magnitude_eq y] at h
  rw [value, value]
  rcases lt_or_eq_of_le hexp with hlt | heq
  · have hfull := hpy.full (by omega)
    calc (x.significand : ℚ) * 2 ^ x.exponent
        ≤ (2 * leadingBit : Nat) * 2 ^ x.exponent :=
          mul_le_mul_of_nonneg_right (Nat.cast_le.mpr hltx.le) (two_zpow_pos _).le
      _ = leadingBit * 2 ^ (x.exponent + 1) := by
          rw [zpow_add_one₀ two_ne_zero]
          push_cast
          ring
      _ ≤ y.significand * 2 ^ y.exponent :=
          mul_le_mul (Nat.cast_le.mpr hfull) (zpow_le_zpow_right₀ one_le_two (by omega))
            (two_zpow_pos _).le (Nat.cast_nonneg _)
  · rw [heq] at h ⊢
    exact mul_le_mul_of_nonneg_right (Nat.cast_le.mpr (by omega)) (two_zpow_pos _).le

/-- A rounded quotient is a whole number of places. -/
theorem value_nearest (negative : Bool) {num den : Nat} (hnum : 0 < num) (hden : 0 < den)
    (h : (num / den : ℚ) < 2 ^ (1022 : Int)) :
    (nearest negative num den).value = inPlaces num den * 2 ^ place num den := by
  have hfinite := nearestMagnitude_lt_infinite hden h
  have hmag : nearestMagnitude num den
      = (place num den + 1074).toNat * leadingBit + inPlaces num den := by
    rw [nearestMagnitude_eq (Nat.pos_iff_ne_zero.mp hnum)] at hfinite ⊢
    omega
  rw [nearest, hmag]
  exact value_ofPlaces negative (least_place num den) (inPlaces_le hnum hden)
    (le_inPlaces hnum hden)

/-- **ROUNDING STAYS CLOSE**: it changes a quotient that is neither very small nor very
    large by a `2 ^ 53`rd part at most. -/
theorem value_nearest_bounds (negative : Bool) {num den : Nat} (hnum : 0 < num) (hden : 0 < den)
    (hlow : (2 : ℚ) ^ (-1021 : Int) ≤ num / den) (hhigh : (num / den : ℚ) < 2 ^ (1022 : Int)) :
    (nearest negative num den).value ≤ (num / den : ℚ) * (1 + 1 / 2 ^ 53)
      ∧ (num / den : ℚ) * (1 - 1 / 2 ^ 53) ≤ (nearest negative num den).value := by
  obtain ⟨hbelow, hfull⟩ := place_spec hnum hden
  have hleast : -1074 < place num den := by
    have hlt := (zpow_lt_zpow_iff_right₀ one_lt_two).mp (lt_of_le_of_lt hlow hbelow)
    omega
  have hreach := hfull hleast
  obtain ⟨habove, hnear⟩ : _ ∧ (inPlaces num den - 1 / 2 : ℚ) * _ ≤ _ := inPlaces_near hden
  rw [value_nearest negative hnum hden hhigh]
  have hsplit : (2 : ℚ) ^ (place num den + 52) = 2 ^ 52 * 2 ^ place num den := by
    rw [add_comm, zpow_add₀ two_ne_zero]
    norm_num
  rw [hsplit] at hreach
  generalize (2 : ℚ) ^ place num den = u at hreach habove hnear ⊢
  generalize (num / den : ℚ) = r at hreach habove hnear ⊢
  constructor <;> linarith

/-- A natural number of 53 bits is a value as it is. -/
theorem value_ofNat {n : Nat} (h : n < 2 ^ 53) : (ofNat n).value = n := by
  rcases Nat.eq_zero_or_pos n with rfl | hpos
  · have hzero : (ofNat 0).significand = 0 := by decide
    rw [value, hzero, Nat.cast_zero, zero_mul]
  have hsmall : ((n : ℚ) / (1 : Nat)) < 2 ^ (53 : Int) := by
    rw [Nat.cast_one, div_one]
    exact_mod_cast h
  have hexp : binaryExponent n 1 < 53 :=
    (zpow_lt_zpow_iff_right₀ one_lt_two).mp
      (lt_of_le_of_lt (binaryExponent_spec hpos one_pos).1 hsmall)
  -- its last bit weighs at most one, so it is a whole number of places
  have hplace : place n 1 ≤ 0 := by
    rw [place]
    omega
  have hone : power 2 (place n 1) = 1 := by
    rw [power, Int.toNat_of_nonpos hplace]
  have hwhole : inPlaces n 1 = n * power 2 (-place n 1) := by
    rw [inPlaces, hone, divNearest]
    simp [Nat.mod_one]
  have hcast := cast_power two_pos (-place n 1)
  rw [neg_neg, hone, Nat.cast_one, mul_one, Nat.cast_ofNat] at hcast
  rw [ofNat, value_nearest false hpos one_pos (lt_of_lt_of_le hsmall
    (zpow_le_zpow_right₀ one_le_two (by decide))), hwhole, Nat.cast_mul, hcast, mul_assoc,
    ← zpow_add₀ two_ne_zero, neg_add_cancel, zpow_zero, mul_one]

/-- Only zero has the magnitude zero. -/
theorem magnitude_pos_of_value {x : Binary64} (h : 0 < x.value) : 0 < x.magnitude := by
  rw [Nat.pos_iff_ne_zero]
  intro hzero
  have hsig : x.significand = 0 := by
    rw [significand, hzero]
    rfl
  rw [value, hsig, Nat.cast_zero, zero_mul] at h
  exact lt_irrefl _ h

/-! ## Products and quotients -/

/-- The product of finite numbers is the rounded product of their values. -/
theorem exists_mul_eq {x y : Binary64} (hx : x.magnitude < infinite)
    (hy : y.magnitude < infinite) :
    ∃ num den : Nat, 0 < den ∧ (num / den : ℚ) = x.value * y.value
      ∧ x.mul y = nearest (x.negative != y.negative) num den := by
  have hxnan : x.isNaN = false := decide_eq_false (Nat.not_lt.mpr hx.le)
  have hynan : y.isNaN = false := decide_eq_false (Nat.not_lt.mpr hy.le)
  have hxfin : x.isFinite = true := decide_eq_true hx
  have hyfin : y.isFinite = true := decide_eq_true hy
  refine ⟨x.ratio.1 * y.ratio.1, x.ratio.2 * y.ratio.2,
    Nat.mul_pos (ratio_pos x) (ratio_pos y), ?_, ?_⟩
  · rw [value_eq_ratio, value_eq_ratio, Nat.cast_mul, Nat.cast_mul, mul_div_mul_comm]
  · rw [mul, hxnan, hynan, hxfin, hyfin]
    rfl

/-- The quotient of finite numbers is the rounded quotient of their values. -/
theorem exists_div_eq {x y : Binary64} (hx : x.magnitude < infinite)
    (hy : y.magnitude < infinite) (hpos : 0 < y.value) :
    ∃ num den : Nat, 0 < den ∧ (num / den : ℚ) = x.value / y.value
      ∧ x.div y = nearest (x.negative != y.negative) num den := by
  have hxnan : x.isNaN = false := decide_eq_false (Nat.not_lt.mpr hx.le)
  have hynan : y.isNaN = false := decide_eq_false (Nat.not_lt.mpr hy.le)
  have hxfin : x.isFinite = true := decide_eq_true hx
  have hyfin : y.isFinite = true := decide_eq_true hy
  have hyzero : y.isZero = false :=
    beq_eq_false_iff_ne.mpr (Nat.pos_iff_ne_zero.mp (magnitude_pos_of_value hpos))
  have hratio : 0 < y.ratio.1 := by
    rw [Nat.pos_iff_ne_zero]
    intro hzero
    rw [value_eq_ratio, hzero, Nat.cast_zero, zero_div] at hpos
    exact lt_irrefl _ hpos
  refine ⟨x.ratio.1 * y.ratio.2, x.ratio.2 * y.ratio.1,
    Nat.mul_pos (ratio_pos x) hratio, ?_, ?_⟩
  · rw [value_eq_ratio, value_eq_ratio, Nat.cast_mul, Nat.cast_mul, div_div_div_eq]
  · rw [div, hxnan, hynan, hxfin, hyfin, hyzero]
    rfl

/-! ## Whole parts -/

theorem floorWithin_le (limit : Nat) (x : Binary64) : x.floorWithin limit ≤ limit := by
  rw [floorWithin]
  split
  · exact Nat.zero_le _
  · split
    · exact min_le_right _ _
    · exact le_refl _

/-- **WHOLE PART**: a natural number is reached by the whole part of a number exactly if it
    is reached by the number. -/
theorem le_floorWithin_iff {x : Binary64} (hsign : x.negative = false)
    (hfin : x.magnitude < infinite) {k limit : Nat} (hk : k ≤ limit) :
    k ≤ x.floorWithin limit ↔ (k : ℚ) ≤ x.value := by
  have hnan : x.isNaN = false := decide_eq_false (Nat.not_lt.mpr hfin.le)
  have hfinite : x.isFinite = true := decide_eq_true hfin
  rw [floorWithin, hnan, hsign, hfinite, value_eq_ratio,
    le_div_iff₀ (Nat.cast_pos.mpr (ratio_pos x))]
  simp only [Bool.or_self, Bool.false_eq_true, if_false, if_true]
  rw [le_min_iff, and_iff_left hk, Nat.le_div_iff_mul_le (ratio_pos x)]
  exact_mod_cast Iff.rfl

end Binary64

end FindingsBrowser
