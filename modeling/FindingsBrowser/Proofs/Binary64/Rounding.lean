import FindingsBrowser.Binary64.Rounding
import FindingsBrowser.Binary64.Shortest
import FindingsBrowser.Proofs.Binary64.Scale

/-! # Rounding — every point of a number's interval rounds to that number

    `interval` is the shortest printer's idea of what rounds to a number, and
    `nearestMagnitude` is the reader's.  They agree: from the last place of the
    number, or from the place below it where the interval crosses a power of
    two, the nearest integer is the significand again. -/

namespace FindingsBrowser

/-- **NEAREST INTEGER**: within half of `n`, and strictly within if `n` is odd,
    a quotient rounds to `n`. -/
theorem divNearest_eq {a b n : Nat} (hb : 0 < b) (low : 2 * (n * b) ≤ 2 * a + b)
    (high : 2 * a ≤ 2 * (n * b) + b)
    (odd : n % 2 = 1 → 2 * (n * b) < 2 * a + b ∧ 2 * a < 2 * (n * b) + b) :
    divNearest a b = n := by
  have hsplit : a / b * b + a % b = a := by
    rw [Nat.mul_comm]
    exact Nat.div_add_mod a b
  have hrem : a % b < b := Nat.mod_lt a hb
  -- `n` is the quotient or its successor
  have hle : a / b ≤ n := by
    by_contra hlt
    have hmul : (n + 1) * b ≤ a / b * b := Nat.mul_le_mul_right b (by omega)
    rw [Nat.succ_mul] at hmul
    omega
  have hge : n ≤ a / b + 1 := by
    by_contra hlt
    have hmul : (a / b + 1 + 1) * b ≤ n * b := Nat.mul_le_mul_right b (by omega)
    rw [Nat.succ_mul, Nat.succ_mul] at hmul
    omega
  rw [divNearest]
  rcases Nat.lt_or_ge (a / b) n with hlt | hge'
  · obtain rfl : n = a / b + 1 := by omega
    rw [Nat.succ_mul (a / b)] at low high odd
    rw [if_pos]
    by_cases hparity : (a / b + 1) % 2 = 1
    · have hstrict := (odd hparity).1
      exact Or.inl (by omega)
    · rcases Nat.lt_or_ge b (2 * (a % b)) with hmore | hhalf
      · exact Or.inl hmore
      · exact Or.inr (by omega)
  · obtain rfl : n = a / b := by omega
    rw [if_neg]
    rintro (hmore | ⟨hhalf, hparity⟩)
    · omega
    · have hstrict := (odd hparity).2
      omega

namespace Binary64

/-! ## The parts of a finite number -/

/-- A magnitude is its exponent's place times `2 ^ 52`, plus the significand. -/
theorem magnitude_eq (x : Binary64) :
    x.magnitude = (x.exponent + 1074).toNat * leadingBit + x.significand := by
  by_cases h : x.magnitude < leadingBit
  · have hleast : (-1074 + 1074 : Int).toNat = 0 := rfl
    rw [exponent, significand, if_pos h, if_pos h, hleast, Nat.zero_mul, Nat.zero_add]
  · have hplace : 1 ≤ x.magnitude / leadingBit :=
      (Nat.one_le_div_iff (by decide)).mpr (by omega)
    have hsplit := Nat.div_add_mod x.magnitude leadingBit
    rw [exponent, significand, if_neg h, if_neg h]
    have htoNat : (((x.magnitude / leadingBit : Nat) : Int) - 1075 + 1074).toNat
        = x.magnitude / leadingBit - 1 := by omega
    rw [htoNat]
    simp only [leadingBit] at hsplit hplace ⊢
    omega

/-- What the parts of a positive finite number can be. -/
structure Parts (x : Binary64) : Prop where
  significand_pos : 0 < x.significand
  significand_lt : x.significand < 2 * leadingBit
  least : -1074 ≤ x.exponent
  greatest : x.exponent ≤ 971
  /-- Only the least exponent goes with a significand that is not full. -/
  full : -1074 < x.exponent → leadingBit ≤ x.significand

/-- The parts of a positive finite number. -/
theorem parts {x : Binary64} (hpos : 0 < x.magnitude) (hfin : x.magnitude < infinite) :
    Parts x := by
  have hmod : x.magnitude % leadingBit < leadingBit := Nat.mod_lt _ (by decide)
  by_cases h : x.magnitude < leadingBit
  · have hq : x.exponent = -1074 := if_pos h
    have hm : x.significand = x.magnitude := if_pos h
    constructor <;> omega
  · have hq : x.exponent = (x.magnitude / leadingBit : Nat) - 1075 := if_neg h
    have hm : x.significand = leadingBit + x.magnitude % leadingBit := if_neg h
    have hbit : 0 < leadingBit := by decide
    have hlow : 1 ≤ x.magnitude / leadingBit :=
      (Nat.one_le_div_iff (by decide)).mpr (by omega)
    -- the place 2047 is that of infinity
    have hhigh : x.magnitude / leadingBit < 2047 :=
      Nat.div_lt_of_lt_mul hfin
    constructor <;> omega

/-- The gap below is half as wide exactly at a full power of two above the least
    exponent. -/
theorem narrow_iff (x : Binary64) :
    2 * leadingBit ≤ x.magnitude ↔ -1074 < x.exponent := by
  by_cases h : x.magnitude < leadingBit
  · have hq : x.exponent = -1074 := if_pos h
    simp only [leadingBit] at h ⊢
    omega
  · have hq : x.exponent = (x.magnitude / leadingBit : Nat) - 1075 := if_neg h
    have hplace : 2 ≤ x.magnitude / leadingBit ↔ 2 * leadingBit ≤ x.magnitude :=
      Nat.le_div_iff_mul_le (by decide)
    omega

/-! ## The interval of a number -/

/-- A rational number lies in the interval of a positive finite number, whose
    ends belong to it exactly if it is closed.  The unit is a quarter of the
    number's last place. -/
def RoundsTo (x : Binary64) (r : ℚ) : Prop :=
  let quarter := (2 : ℚ) ^ (x.exponent - 2)
  let i := x.interval 1
  i.low * quarter ≤ r ∧ r ≤ i.high * quarter ∧
    (i.closed = false → i.low * quarter < r ∧ r < i.high * quarter)

/-- The lower end, at a power of two and elsewhere. -/
theorem low_interval (x : Binary64) :
    (x.interval 1).low
      = if x.significand = leadingBit ∧ -1074 < x.exponent then 4 * x.significand - 1
        else 4 * x.significand - 2 := by
  simp only [← narrow_iff x]
  by_cases h : x.significand = leadingBit ∧ 2 * leadingBit ≤ x.magnitude
  · simp [interval, h]
  · rw [if_neg h]
    simp only [interval, Nat.mul_one]
    rw [if_neg]
    simpa using h

theorem high_interval (x : Binary64) :
    (x.interval 1).high = 4 * x.significand + 2 :=
  Nat.mul_one _

/-- The ends belong to the interval exactly if the significand is even. -/
theorem closed_interval_eq_false (x : Binary64) :
    (x.interval 1).closed = false ↔ x.significand % 2 = 1 := by
  simp [interval]

/-! ## The reader's rounding -/

/-- A test of scaled naturals is a test of the quotient. -/
theorem scaled_lt_iff {num den : Nat} (hden : 0 < den) (e : Int) :
    num * power 2 (-e) < den * power 2 e ↔ (num / den : ℚ) < 2 ^ e := by
  have hscaled : (0 : ℚ) < (den * power 2 e : Nat) :=
    Nat.cast_pos.mpr (Nat.mul_pos hden (power_pos two_pos e))
  have hquot := cast_scaled two_pos num den (-e)
  rw [neg_neg, zpow_neg, ← div_eq_mul_inv] at hquot
  rw [← Nat.cast_lt (α := ℚ), ← div_lt_one hscaled, hquot,
    Nat.cast_ofNat, div_lt_one (two_zpow_pos e)]

/-- A positive quotient lies in the two binades around the difference of the
    logarithms. -/
theorem log2_quotient {num den : Nat} (hnum : 0 < num) (hden : 0 < den) {e : Int}
    (he : e = num.log2 - den.log2) :
    (2 : ℚ) ^ (e - 1) ≤ num / den ∧ (num / den : ℚ) < 2 ^ (e + 1) := by
  have hdenQ : (0 : ℚ) < den := Nat.cast_pos.mpr hden
  have hlow : ((2 ^ num.log2 : Nat) : ℚ) ≤ num :=
    Nat.cast_le.mpr (Nat.log2_self_le (by omega))
  have hhigh : (num : ℚ) < (2 ^ (num.log2 + 1) : Nat) :=
    Nat.cast_lt.mpr Nat.lt_log2_self
  have hdlow : ((2 ^ den.log2 : Nat) : ℚ) ≤ den :=
    Nat.cast_le.mpr (Nat.log2_self_le (by omega))
  have hdhigh : (den : ℚ) < (2 ^ (den.log2 + 1) : Nat) :=
    Nat.cast_lt.mpr Nat.lt_log2_self
  push_cast at hlow hhigh hdlow hdhigh
  constructor
  · rw [le_div_iff₀ hdenQ]
    calc (2 : ℚ) ^ (e - 1) * den
        ≤ 2 ^ (e - 1) * 2 ^ (den.log2 + 1) :=
          mul_le_mul_of_nonneg_left hdhigh.le (two_zpow_pos _).le
      _ = 2 ^ num.log2 := by
          rw [← zpow_natCast, ← zpow_add₀ two_ne_zero, ← zpow_natCast]
          congr 1
          push_cast
          omega
      _ ≤ num := hlow
  · rw [div_lt_iff₀ hdenQ]
    calc (num : ℚ)
        < 2 ^ (num.log2 + 1) := hhigh
      _ = 2 ^ (e + 1) * 2 ^ den.log2 := by
          rw [← zpow_natCast, ← zpow_natCast, ← zpow_add₀ two_ne_zero]
          congr 1
          push_cast
          omega
      _ ≤ 2 ^ (e + 1) * den := mul_le_mul_of_nonneg_left hdlow (two_zpow_pos _).le

/-- **BINARY EXPONENT**: a positive quotient lies in the binade that is computed
    for it. -/
theorem binaryExponent_spec {num den : Nat} (hnum : 0 < num) (hden : 0 < den) :
    (2 : ℚ) ^ binaryExponent num den ≤ num / den
      ∧ (num / den : ℚ) < 2 ^ (binaryExponent num den + 1) := by
  obtain ⟨e, he⟩ : ∃ e : Int, e = num.log2 - den.log2 := ⟨_, rfl⟩
  obtain ⟨hbelow, habove⟩ := log2_quotient hnum hden he
  rw [binaryExponent, ← he]
  -- the test decides between the two binades
  by_cases htest : num * power 2 (-e) < den * power 2 e
  · rw [if_pos htest, sub_add_cancel]
    exact ⟨hbelow, (scaled_lt_iff hden e).mp htest⟩
  · rw [if_neg htest]
    exact ⟨not_lt.mp (mt (scaled_lt_iff hden e).mpr htest), habove⟩

/-- A quotient in quarters of a place. -/
theorem quotient_eq_quarters (num den : Nat) (q : Int) :
    (num / den : ℚ) = 4 * (num * power 2 (-q) : Nat) / (den * power 2 q : Nat)
      * 2 ^ (q - 2) := by
  have hquot := cast_scaled two_pos num den (-q)
  rw [neg_neg] at hquot
  have hcancel : (2 : ℚ) ^ (-q) * (4 * 2 ^ (q - 2)) = 1 := by
    have hfour : (4 : ℚ) = 2 ^ (2 : Int) := by norm_num
    rw [hfour, ← zpow_add₀ two_ne_zero, ← zpow_add₀ two_ne_zero]
    ring_nf
    rfl
  rw [mul_div_assoc, hquot, mul_comm (4 : ℚ), mul_assoc, mul_assoc, Nat.cast_ofNat,
    hcancel, mul_one]

/-- Within half a place of `n · 2 ^ q`, and strictly within if `n` is odd, a
    quotient has `n` as its significand at `2 ^ q`. -/
theorem divNearest_scaled {num den n : Nat} {q : Int} (hden : 0 < den)
    (low : (4 * n - 2) * (2 : ℚ) ^ (q - 2) ≤ num / den)
    (high : (num / den : ℚ) ≤ (4 * n + 2) * 2 ^ (q - 2))
    (odd : n % 2 = 1 → (4 * n - 2) * (2 : ℚ) ^ (q - 2) < num / den
      ∧ (num / den : ℚ) < (4 * n + 2) * 2 ^ (q - 2)) :
    divNearest (num * power 2 (-q)) (den * power 2 q) = n := by
  have hplace := quotient_eq_quarters num den q
  have hpos : 0 < den * power 2 q := Nat.mul_pos hden (power_pos two_pos q)
  generalize num * power 2 (-q) = a at hplace ⊢
  generalize den * power 2 q = b at hplace hpos ⊢
  have hposQ : (0 : ℚ) < b := Nat.cast_pos.mpr hpos
  have hquarter := two_zpow_pos (q - 2)
  rw [hplace] at low high odd
  rw [mul_le_mul_iff_left₀ hquarter, le_div_iff₀ hposQ] at low
  rw [mul_le_mul_iff_left₀ hquarter, div_le_iff₀ hposQ] at high
  rw [mul_lt_mul_iff_left₀ hquarter, lt_div_iff₀ hposQ, mul_lt_mul_iff_left₀ hquarter,
    div_lt_iff₀ hposQ] at odd
  refine divNearest_eq hpos ?_ ?_ ?_
  · have hgoal : ((2 * (n * b) : Nat) : ℚ) ≤ (2 * a + b : Nat) := by
      push_cast
      linarith
    exact Nat.cast_le.mp hgoal
  · have hgoal : ((2 * a : Nat) : ℚ) ≤ (2 * (n * b) + b : Nat) := by
      push_cast
      linarith
    exact Nat.cast_le.mp hgoal
  · intro hodd
    obtain ⟨hlow, hhigh⟩ := odd hodd
    constructor
    · have hgoal : ((2 * (n * b) : Nat) : ℚ) < (2 * a + b : Nat) := by
        push_cast
        linarith
      exact Nat.cast_lt.mp hgoal
    · have hgoal : ((2 * a : Nat) : ℚ) < (2 * (n * b) + b : Nat) := by
        push_cast
        linarith
      exact Nat.cast_lt.mp hgoal

/-! ## Points of the interval -/

/-- A power of two, in quarters of a number's last place. -/
theorem two_zpow_eq_quarters (x : Binary64) (k : Nat) :
    (2 : ℚ) ^ (x.exponent + k) = 2 ^ (k + 2) * 2 ^ (x.exponent - 2) := by
  rw [← zpow_natCast, ← zpow_add₀ two_ne_zero]
  congr 1
  push_cast
  ring

/-- The lower end is at most two quarters below the number. -/
theorem le_low_interval (x : Binary64) :
    4 * x.significand - 2 ≤ (x.interval 1).low := by
  rw [low_interval]
  split <;> omega

/-- A point of the interval lies below the next binade. -/
theorem RoundsTo.lt_binade {x : Binary64} (hx : Parts x) {r : ℚ} (h : x.RoundsTo r) :
    r < 2 ^ (x.exponent + 53) := by
  have hm : x.significand + 1 ≤ 2 * leadingBit := hx.significand_lt
  have hbound : ((4 * x.significand + 2 : Nat) : ℚ) < 2 ^ 55 := by
    have hnat : 4 * x.significand + 2 < 2 ^ 55 := by
      simp only [leadingBit] at hm
      omega
    exact_mod_cast hnat
  have htop := two_zpow_eq_quarters x 53
  rw [Nat.cast_ofNat] at htop
  rw [htop]
  refine lt_of_le_of_lt h.2.1 ?_
  rw [high_interval]
  exact mul_lt_mul_of_pos_right hbound (two_zpow_pos _)

/-- A point of the interval is positive. -/
theorem RoundsTo.pos {x : Binary64} (hx : Parts x) {r : ℚ} (h : x.RoundsTo r) : 0 < r := by
  have hlow : 0 < (x.interval 1).low := by
    have hm := hx.significand_pos
    have hle := le_low_interval x
    omega
  exact lt_of_lt_of_le (mul_pos (Nat.cast_pos.mpr hlow) (two_zpow_pos _)) h.1

/-- A point of the interval is within half a place, and strictly within if the
    significand is odd. -/
theorem RoundsTo.half_place {x : Binary64} (hx : Parts x) {r : ℚ} (h : x.RoundsTo r) :
    (4 * x.significand - 2) * (2 : ℚ) ^ (x.exponent - 2) ≤ r
      ∧ r ≤ (4 * x.significand + 2) * 2 ^ (x.exponent - 2)
      ∧ (x.significand % 2 = 1 →
          (4 * x.significand - 2) * (2 : ℚ) ^ (x.exponent - 2) < r
            ∧ r < (4 * x.significand + 2) * 2 ^ (x.exponent - 2)) := by
  have hquarter := two_zpow_pos (x.exponent - 2)
  have hlow : (4 * x.significand - 2 : ℚ) ≤ ((x.interval 1).low : ℚ) := by
    have hle := le_low_interval x
    have hm := hx.significand_pos
    have hnat : 4 * x.significand ≤ (x.interval 1).low + 2 := by omega
    have hcast : ((4 * x.significand : Nat) : ℚ) ≤ ((x.interval 1).low + 2 : Nat) :=
      Nat.cast_le.mpr hnat
    push_cast at hcast
    linarith
  have hhigh : (((x.interval 1).high : Nat) : ℚ) = 4 * x.significand + 2 := by
    rw [high_interval]
    push_cast
    rfl
  have hstep := mul_le_mul_of_nonneg_right hlow hquarter.le
  obtain ⟨hl, hh, hopen⟩ := h
  rw [hhigh] at hh hopen
  refine ⟨hstep.trans hl, hh, fun hodd => ?_⟩
  obtain ⟨hl', hh'⟩ := hopen ((closed_interval_eq_false x).mpr hodd)
  exact ⟨lt_of_le_of_lt hstep hl', hh'⟩

/-- Below its own binade, a point of the interval belongs to a full power of two
    and is at most one quarter away. -/
theorem RoundsTo.narrow {x : Binary64} (hx : Parts x) {r : ℚ} (h : x.RoundsTo r)
    (hq : -1074 < x.exponent) (hr : r < 2 ^ (x.exponent + 52)) :
    x.significand = leadingBit
      ∧ (4 * leadingBit - 1) * (2 : ℚ) ^ (x.exponent - 2) ≤ r := by
  have htop := two_zpow_eq_quarters x 52
  rw [Nat.cast_ofNat] at htop
  have hquarter := two_zpow_pos (x.exponent - 2)
  have hfull := hx.full hq
  have hlt : ((x.interval 1).low : ℚ) < 2 ^ 54 :=
    lt_of_mul_lt_mul_right (lt_of_le_of_lt h.1 (htop ▸ hr)) hquarter.le
  have hltNat : (x.interval 1).low < 2 ^ 54 := by exact_mod_cast hlt
  have hm : x.significand = leadingBit := by
    have hle := le_low_interval x
    simp only [leadingBit] at hfull ⊢
    omega
  refine ⟨hm, ?_⟩
  have hlow : (x.interval 1).low = 4 * leadingBit - 1 := by
    rw [low_interval, if_pos ⟨hm, hq⟩, hm]
  have hcast : ((4 * leadingBit - 1 : Nat) : ℚ) = 4 * leadingBit - 1 := by
    rw [Nat.cast_sub (by decide), Nat.cast_mul]
    rfl
  have hl := h.1
  rwa [hlow, hcast] at hl

/-- Below its own binade, a point of the interval lies in the binade before. -/
theorem RoundsTo.narrow_binade {x : Binary64} (hx : Parts x) {r : ℚ} (h : x.RoundsTo r)
    (hq : -1074 < x.exponent) (hr : r < 2 ^ (x.exponent + 52)) :
    2 ^ (x.exponent + 51) ≤ r := by
  have hbottom := two_zpow_eq_quarters x 51
  rw [Nat.cast_ofNat] at hbottom
  rw [hbottom]
  refine le_trans (mul_le_mul_of_nonneg_right ?_ (two_zpow_pos _).le) (h.narrow hx hq hr).2
  norm_num [leadingBit]

/-- Below its own binade, a point of the interval has the significand `2 ^ 53` at
    half the place. -/
theorem RoundsTo.narrow_divNearest {x : Binary64} (hx : Parts x) {num den : Nat}
    (hden : 0 < den) (h : x.RoundsTo (num / den)) (hq : -1074 < x.exponent)
    (hr : (num / den : ℚ) < 2 ^ (x.exponent + 52)) :
    divNearest (num * power 2 (-(x.exponent - 1))) (den * power 2 (x.exponent - 1))
      = 2 * leadingBit := by
  have hl := (h.narrow hx hq hr).2
  have htop := two_zpow_eq_quarters x 52
  rw [Nat.cast_ofNat] at htop
  rw [htop] at hr
  have hbit : (leadingBit : ℚ) = 2 ^ 52 := by norm_num [leadingBit]
  have hquarter := two_zpow_pos (x.exponent - 2)
  have heighth : (2 : ℚ) ^ (x.exponent - 1 - 2) = 2 ^ (x.exponent - 2) / 2 := by
    have hpred : x.exponent - 1 - 2 = x.exponent - 2 - 1 := by ring
    rw [hpred, zpow_sub_one₀ two_ne_zero, div_eq_mul_inv]
  refine divNearest_scaled hden ?_ ?_ (fun hodd => ?_)
  · rw [heighth]
    push_cast
    linarith
  · rw [heighth]
    push_cast
    rw [hbit]
    linarith
  · exact absurd hodd (by decide)

/-- **POINTS ROUND BACK**: a quotient in the interval of a positive finite number
    has that number's magnitude as its nearest. -/
theorem nearestMagnitude_of_roundsTo {x : Binary64} (hpos : 0 < x.magnitude)
    (hfin : x.magnitude < infinite) {num den : Nat} (hden : 0 < den)
    (h : x.RoundsTo (num / den)) : nearestMagnitude num den = x.magnitude := by
  have hx := parts hpos hfin
  have hnum : 0 < num := by
    rw [Nat.pos_iff_ne_zero]
    rintro rfl
    have hr := h.pos hx
    rw [Nat.cast_zero, zero_div] at hr
    exact lt_irrefl _ hr
  obtain ⟨hlow, hhigh⟩ := binaryExponent_spec hnum hden
  have hbinade : binaryExponent num den ≤ x.exponent + 52 := by
    have hlt := (zpow_lt_zpow_iff_right₀ one_lt_two).mp (lt_of_le_of_lt hlow (h.lt_binade hx))
    omega
  have hleast := hx.least
  rw [nearestMagnitude, if_neg (Nat.pos_iff_ne_zero.mp hnum)]
  by_cases hplace : max (binaryExponent num den - 52) (-1074) = x.exponent
  · obtain ⟨hl, hh, hodd⟩ := h.half_place hx
    rw [hplace]
    dsimp only
    rw [divNearest_scaled hden hl hh hodd, ← magnitude_eq x]
    exact min_eq_left hfin.le
  · -- the point lies below the power of two that the number is
    have hq : -1074 < x.exponent := by omega
    have hbelow : (num / den : ℚ) < 2 ^ (x.exponent + 52) :=
      lt_of_lt_of_le hhigh (zpow_le_zpow_right₀ one_le_two (by omega))
    have hexp : x.exponent + 51 < binaryExponent num den + 1 :=
      (zpow_lt_zpow_iff_right₀ one_lt_two).mp
        (lt_of_le_of_lt (h.narrow_binade hx hq hbelow) hhigh)
    have hplace' : max (binaryExponent num den - 52) (-1074) = x.exponent - 1 := by omega
    have hsum : (x.exponent - 1 + 1074).toNat * leadingBit + 2 * leadingBit
        = x.magnitude := by
      have hsucc : (x.exponent + 1074).toNat = (x.exponent - 1 + 1074).toNat + 1 := by omega
      rw [magnitude_eq x, (h.narrow hx hq hbelow).1, hsucc,
        Nat.succ_mul (x.exponent - 1 + 1074).toNat]
      omega
    rw [hplace']
    dsimp only
    rw [h.narrow_divNearest hx hden hq hbelow, hsum]
    exact min_eq_left hfin.le

/-! ## Decimals -/

/-- The number of digits places a positive number between powers of ten. -/
theorem digits_bounds {n : Nat} (hn : n ≠ 0) :
    10 ^ ((Nat.toDigits 10 n).length - 1) ≤ n
      ∧ n < 10 ^ (Nat.toDigits 10 n).length := by
  have hlen : 0 < (Nat.toDigits 10 n).length :=
    List.length_pos_iff.mpr Nat.toDigits_ne_nil
  constructor
  · by_contra hlt
    rcases Nat.eq_zero_or_pos ((Nat.toDigits 10 n).length - 1) with hzero | hpos
    · rw [hzero] at hlt
      omega
    · have hle := (Nat.length_toDigits_le_iff (by decide) hpos).mpr (not_le.mp hlt)
      omega
  · exact (Nat.length_toDigits_le_iff (by decide) hlen).mp (le_refl _)

/-- No point of an interval is smaller than half the least positive number. -/
theorem RoundsTo.two_zpow_le {x : Binary64} (hx : Parts x) {r : ℚ} (h : x.RoundsTo r) :
    2 ^ (-1075 : Int) ≤ r := by
  have htwo : (2 : ℚ) ≤ ((x.interval 1).low : ℚ) := by
    have hle := le_low_interval x
    have hm := hx.significand_pos
    have hnat : 2 ≤ (x.interval 1).low := by omega
    exact_mod_cast hnat
  have hleast := hx.least
  calc (2 : ℚ) ^ (-1075 : Int)
      = 2 * 2 ^ (-1076 : Int) := by rw [← zpow_one_add₀ two_ne_zero]; rfl
    _ ≤ (x.interval 1).low * 2 ^ (x.exponent - 2) :=
        mul_le_mul htwo (zpow_le_zpow_right₀ one_le_two (by omega)) (two_zpow_pos _).le
          (Nat.cast_nonneg _)
    _ ≤ r := h.1

/-- No point of an interval reaches `2 ^ 1024`. -/
theorem RoundsTo.lt_two_zpow {x : Binary64} (hx : Parts x) {r : ℚ} (h : x.RoundsTo r) :
    r < 2 ^ (1024 : Int) := by
  have hgreatest := hx.greatest
  exact lt_of_lt_of_le (h.lt_binade hx) (zpow_le_zpow_right₀ one_le_two (by omega))

/-- A positive decimal lies between the powers of ten of its first digit. -/
theorem decimal_bounds {p : Nat} (hp : p ≠ 0) (k : Int) :
    (10 : ℚ) ^ (((Nat.toDigits 10 p).length : Int) - 1 + k) ≤ p * 10 ^ k
      ∧ (p : ℚ) * 10 ^ k < 10 ^ (((Nat.toDigits 10 p).length : Int) + k) := by
  have hscale : (0 : ℚ) < 10 ^ k := zpow_pos (by norm_num) k
  have hten : (10 : ℚ) ≠ 0 := by norm_num
  obtain ⟨hlow, hhigh⟩ := digits_bounds hp
  have hlowQ : (10 : ℚ) ^ ((Nat.toDigits 10 p).length - 1) ≤ p := by exact_mod_cast hlow
  have hhighQ : (p : ℚ) < 10 ^ (Nat.toDigits 10 p).length := by exact_mod_cast hhigh
  have hlen : 0 < (Nat.toDigits 10 p).length := List.length_pos_iff.mpr Nat.toDigits_ne_nil
  have hpred : ((Nat.toDigits 10 p).length : Int) - 1
      = ((Nat.toDigits 10 p).length - 1 : Nat) := by omega
  rw [zpow_add₀ hten, zpow_add₀ hten, hpred, zpow_natCast, zpow_natCast]
  exact ⟨mul_le_mul_of_nonneg_right hlowQ hscale.le, mul_lt_mul_of_pos_right hhighQ hscale⟩

/-- A point of the interval is large enough and small enough to be rounded with
    its power of ten written out. -/
theorem RoundsTo.top_bounds {x : Binary64} (hx : Parts x) {p : Nat} (hp : p ≠ 0) {k : Int}
    (h : x.RoundsTo (p * 10 ^ k)) :
    -330 ≤ ((Nat.toDigits 10 p).length : Int) + k
      ∧ ((Nat.toDigits 10 p).length : Int) + k ≤ 310 := by
  obtain ⟨hlow, hhigh⟩ := decimal_bounds hp k
  generalize ((Nat.toDigits 10 p).length : Int) = len at hlow hhigh ⊢
  constructor
  · by_contra hsmall
    have hcompare : (10 : ℚ) ^ (len + k) ≤ 2 ^ (-1075 : Int) :=
      ten_zpow_le_two_zpow (by omega) (by omega)
    exact absurd (h.two_zpow_le hx) (not_le.mpr (lt_of_lt_of_le hhigh hcompare))
  · by_contra hlarge
    have hcompare : (2 : ℚ) ^ (1024 : Int) ≤ 10 ^ (len - 1 + k) :=
      two_zpow_le_ten_zpow (by omega) (by omega)
    exact absurd (lt_of_lt_of_le (h.lt_two_zpow hx) hcompare) (not_lt.mpr hlow)

/-- **DECIMALS ROUND BACK**: a decimal in the interval of a positive finite number
    is read as that number, under either sign. -/
theorem ofDecimal_of_roundsTo {x : Binary64} (hpos : 0 < x.magnitude)
    (hfin : x.magnitude < infinite) (negative : Bool) {p : Nat} {k : Int}
    (h : x.RoundsTo (p * 10 ^ k)) : ofDecimal negative p k = ⟨negative, x.magnitude⟩ := by
  have hx := parts hpos hfin
  have hp : p ≠ 0 := by
    rintro rfl
    have hr := h.pos hx
    rw [Nat.cast_zero, zero_mul] at hr
    exact lt_irrefl _ hr
  obtain ⟨hlow, hhigh⟩ := h.top_bounds hx hp
  -- the quotient that is rounded is the decimal itself
  have hquot := cast_scaled (by decide : 0 < 10) p 1 k
  rw [Nat.one_mul, Nat.cast_one, div_one, Nat.cast_ofNat] at hquot
  rw [← hquot] at h
  rw [ofDecimal]
  rw [if_neg (not_or.mpr ⟨hp, not_lt.mpr hlow⟩), if_neg (not_lt.mpr hhigh), nearest,
    nearestMagnitude_of_roundsTo hpos hfin (power_pos (by decide) _) h]

end Binary64

end FindingsBrowser
