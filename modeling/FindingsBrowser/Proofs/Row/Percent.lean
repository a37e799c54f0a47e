import FindingsBrowser.Proofs.Binary64.Order
import FindingsBrowser.Terminal.Table

/-! # Percentages — the whole part of a ratio that was rounded twice

    The percentage of a fraction is computed in two roundings: of the quotient, and of a
    hundred times that.  Both keep the order, so a percentage lies between those of the
    hundredths around its fraction, and these are found by computing all of them: each
    hundredth gives its own percentage, but for three that lose one.  Away from the
    hundredths a fraction of moderate size is out of reach of both roundings.

    * `timesHundred` is the product, `percentOf` its whole part.
    * `percentOf_mono` compares fractions, `percentOf_hundredths` has the hundredths.
    * `timesHundred_bounds` says how far the roundings reach. -/

namespace FindingsBrowser.Qualifier

open Binary64

/-! ## The two roundings -/

/-- A hundred times a fraction: the rounded product of the rounded quotient. -/
def timesHundred (n d : Nat) : Binary64 := (nearest false n d).mul (.ofNat 100)

/-- The percentage that is computed for a fraction. -/
def percentOf (n d : Nat) : Nat := (timesHundred n d).floorWithin (Text.wordLimit - 1)

theorem quotient_le_one {n d : Nat} (hle : n ≤ d) (hpos : 0 < d) : (n / d : ℚ) ≤ 1 :=
  (div_le_one (Nat.cast_pos.mpr hpos)).mpr (Nat.cast_le.mpr hle)

theorem exactPercent_le {n d : Nat} (hle : n ≤ d) : 100 * n / d ≤ 100 :=
  Nat.div_le_of_le_mul ((Nat.mul_le_mul_left 100 hle).trans_eq (Nat.mul_comm 100 d))

theorem one_lt_two_zpow : (1 : ℚ) < 2 ^ (1022 : Int) :=
  one_lt_zpow₀ one_lt_two (by decide)

theorem quotient_finite {n d : Nat} (hle : n ≤ d) (hpos : 0 < d) :
    nearestMagnitude n d < infinite :=
  nearestMagnitude_lt_infinite hpos (lt_of_le_of_lt (quotient_le_one hle hpos) one_lt_two_zpow)

/-- A larger fraction has a larger quotient, or the same. -/
theorem value_quotient_mono {n d n' d' : Nat} (hpos : 0 < d) (hle' : n' ≤ d') (hpos' : 0 < d')
    (h : (n / d : ℚ) ≤ n' / d') : (nearest false n d).value ≤ (nearest false n' d').value :=
  value_mono (nearestMagnitude_mono hpos hpos' h) (quotient_finite hle' hpos')

theorem value_quotient_le_one {n d : Nat} (hle : n ≤ d) (hpos : 0 < d) :
    (nearest false n d).value ≤ 1 := by
  have hone : (nearest false 1 1).value = 1 := value_ofNat (by decide : 1 < 2 ^ 53)
  rw [← hone]
  refine value_quotient_mono hpos (le_refl 1) one_pos ?_
  rw [Nat.cast_one, div_one]
  exact quotient_le_one hle hpos

/-- The product is a rounded quotient itself, of a hundred times the first one. -/
theorem exists_timesHundred_eq {n d : Nat} (hle : n ≤ d) (hpos : 0 < d) :
    ∃ num den : Nat, 0 < den ∧ (num / den : ℚ) = 100 * (nearest false n d).value
      ∧ timesHundred n d = nearest false num den := by
  have hundred : (ofNat 100).magnitude < infinite := by decide
  obtain ⟨num, den, hden, hquot, hmul⟩ :=
    exists_mul_eq (x := nearest false n d) (quotient_finite hle hpos) hundred
  have hvalue : (ofNat 100).value = 100 := value_ofNat (by decide)
  rw [hvalue, mul_comm] at hquot
  exact ⟨num, den, hden, hquot, hmul⟩

theorem product_lt_two_zpow {n d : Nat} (hle : n ≤ d) (hpos : 0 < d) :
    100 * (nearest false n d).value < 2 ^ (1022 : Int) := by
  calc 100 * (nearest false n d).value
      ≤ 100 := by linarith [value_quotient_le_one hle hpos]
    _ < 2 ^ (7 : Int) := by norm_num
    _ ≤ 2 ^ (1022 : Int) := zpow_le_zpow_right₀ one_le_two (by decide)

theorem timesHundred_finite {n d : Nat} (hle : n ≤ d) (hpos : 0 < d) :
    (timesHundred n d).negative = false ∧ (timesHundred n d).magnitude < infinite := by
  obtain ⟨num, den, hden, hquot, heq⟩ := exists_timesHundred_eq hle hpos
  rw [heq]
  exact ⟨rfl, nearestMagnitude_lt_infinite hden (hquot ▸ product_lt_two_zpow hle hpos)⟩

/-- A percentage is reached exactly if the product reaches it. -/
theorem le_percentOf_iff {n d k : Nat} (hle : n ≤ d) (hpos : 0 < d)
    (hk : k ≤ Text.wordLimit - 1) : k ≤ percentOf n d ↔ (k : ℚ) ≤ (timesHundred n d).value := by
  obtain ⟨hsign, hfin⟩ := timesHundred_finite hle hpos
  exact le_floorWithin_iff hsign hfin hk

/-- What a qualifier of two natural numbers shows is that percentage. -/
theorem percent?_ofFraction {n d : Nat} (hle : n ≤ d) (hpos : 0 < d) (hexact : d < 2 ^ 53) :
    (ofFraction (.ofNat n) (.ofNat d)).percent? = some (percentOf n d) := by
  have hword : ∀ m ≤ d, (ofNat m).magnitude < infinite := fun m hm =>
    of_decide_eq_true (isFinite_ofNat (lt_of_le_of_lt hm (hexact.trans (by decide))))
  have hd : (ofNat d).value = d := value_ofNat hexact
  have hn : (ofNat n).value = n := value_ofNat (lt_of_le_of_lt hle hexact)
  have hdpos : 0 < (ofNat d).value := by
    rw [hd]
    exact Nat.cast_pos.mpr hpos
  have hmag := magnitude_pos_of_value hdpos
  -- the denominator counts as positive
  have hless : less zero (.ofNat d) = true := by
    have hnan : (ofNat d).isNaN = false := decide_eq_false (Nat.not_lt.mpr (hword d le_rfl).le)
    have hzero : (ofNat d).isZero = false := beq_eq_false_iff_ne.mpr (Nat.pos_iff_ne_zero.mp hmag)
    have hrank : zero.rank < (ofNat d).rank := by
      show (0 : Int) < ((ofNat d).magnitude : Int)
      exact Int.natCast_pos.mpr hmag
    rw [less, hnan, hzero, decide_eq_true hrank]
    rfl
  have hdiv : (ofNat n).div (.ofNat d) = nearest false n d := by
    obtain ⟨num, den, hden, hquot, heq⟩ := exists_div_eq (hword n hle) (hword d le_rfl) hdpos
    rw [hn, hd] at hquot
    rw [heq, nearest, nearest, nearestMagnitude_congr hden hpos hquot]
    rfl
  rw [ofFraction, if_pos hless, percent?, hdiv]
  rfl

/-! ## Between the hundredths -/

/-- **PERCENTAGES KEEP THE ORDER** of the fractions. -/
theorem percentOf_mono {n d n' d' : Nat} (hle : n ≤ d) (hpos : 0 < d) (hle' : n' ≤ d')
    (hpos' : 0 < d') (h : (n / d : ℚ) ≤ n' / d') : percentOf n d ≤ percentOf n' d' := by
  have hlimit : percentOf n d ≤ Text.wordLimit - 1 := floorWithin_le _ _
  rw [le_percentOf_iff hle' hpos' hlimit]
  refine ((le_percentOf_iff hle hpos hlimit).mp le_rfl).trans ?_
  obtain ⟨num, den, hden, hquot, heq⟩ := exists_timesHundred_eq hle hpos
  obtain ⟨num', den', hden', hquot', heq'⟩ := exists_timesHundred_eq hle' hpos'
  have hfin' := (timesHundred_finite hle' hpos').2
  rw [heq'] at hfin' ⊢
  rw [heq]
  refine value_mono (nearestMagnitude_mono hden hden' ?_) hfin'
  rw [hquot, hquot']
  linarith [value_quotient_mono hpos hle' hpos' h]

/-- Equal fractions have equal percentages. -/
theorem percentOf_congr {n d n' d' : Nat} (hle : n ≤ d) (hpos : 0 < d) (hle' : n' ≤ d')
    (hpos' : 0 < d') (h : (n / d : ℚ) = n' / d') : percentOf n d = percentOf n' d' :=
  le_antisymm (percentOf_mono hle hpos hle' hpos' h.le) (percentOf_mono hle' hpos' hle hpos h.ge)

/-- The hundredths that lose a percent. -/
def lossy : List Nat := [29, 57, 58]

/-- The percentage that is shown of a number of hundredths. -/
def shownHundredths (k : Nat) : Nat := if k ∈ lossy then k - 1 else k

theorem shownHundredths_le (k : Nat) : shownHundredths k ≤ k := by
  rw [shownHundredths]
  split <;> omega

/-- **THE HUNDREDTHS**, all of them computed: three lose a percent. -/
theorem percentOf_hundredths : ∀ k < 101, percentOf k 100 = shownHundredths k := by
  decide +kernel

/-- A hundredth is a fraction that divides a hundred numerators. -/
theorem quotient_eq_hundredth {n d k : Nat} (hpos : 0 < d) (h : 100 * n = k * d) :
    (n / d : ℚ) = k / (100 : Nat) := by
  rw [div_eq_div_iff (Nat.cast_ne_zero.mpr (Nat.pos_iff_ne_zero.mp hpos)) (by norm_num)]
  have hcast : ((100 * n : Nat) : ℚ) = (k * d : Nat) := congrArg Nat.cast h
  push_cast at hcast ⊢
  linarith

/-- A percentage is at most one more than the exact one, and at most one less; less it is
    only at a lossy hundredth or right above one. -/
theorem percentOf_near {n d : Nat} (hle : n ≤ d) (hpos : 0 < d) :
    percentOf n d ≤ 100 ∧ percentOf n d ≤ 100 * n / d + 1
      ∧ shownHundredths (100 * n / d) ≤ percentOf n d := by
  have hk : 100 * n / d ≤ 100 := exactPercent_le hle
  have hbelow : 100 * n / d * d ≤ 100 * n := Nat.div_mul_le_self _ _
  have habove : 100 * n < (100 * n / d + 1) * d := by
    rw [Nat.mul_comm (100 * n / d + 1)]
    exact Nat.lt_mul_div_succ _ hpos
  generalize 100 * n / d = k at hk hbelow habove ⊢
  have hdQ : (0 : ℚ) < d := Nat.cast_pos.mpr hpos
  have hfull : percentOf n d ≤ percentOf 100 100 := by
    refine percentOf_mono hle hpos le_rfl (by decide) ?_
    rw [div_self (by norm_num)]
    exact quotient_le_one hle hpos
  rw [percentOf_hundredths 100 (by decide)] at hfull
  refine ⟨hfull, ?_, ?_⟩
  · -- the next hundredth above, if there is one
    rcases Nat.lt_or_eq_of_le hk with hlt | rfl
    · have hnext : percentOf n d ≤ percentOf (k + 1) 100 := by
        refine percentOf_mono hle hpos hlt (by decide) ?_
        rw [div_le_div_iff₀ hdQ (by norm_num)]
        have hcast := Nat.cast_lt (α := ℚ).mpr habove
        push_cast at hcast ⊢
        linarith
      rw [percentOf_hundredths (k + 1) (by omega)] at hnext
      exact hnext.trans (shownHundredths_le (k + 1))
    · exact hfull.trans (by decide)
  · -- the hundredth below
    have hprev : percentOf k 100 ≤ percentOf n d := by
      refine percentOf_mono hk (by decide) hle hpos ?_
      rw [div_le_div_iff₀ (by norm_num) hdQ]
      have hcast := Nat.cast_le (α := ℚ).mpr hbelow
      push_cast at hcast ⊢
      linarith
    rwa [percentOf_hundredths k (by omega)] at hprev

/-! ## Away from the hundredths -/

theorem two_zpow_le_quotient {n d : Nat} (hn : 0 < n) (hpos : 0 < d) (hexact : d < 2 ^ 53) :
    (2 : ℚ) ^ (-53 : Int) ≤ n / d := by
  rw [le_div_iff₀ (Nat.cast_pos.mpr hpos)]
  have hone : (1 : ℚ) ≤ n := by exact_mod_cast hn
  have hd : (d : ℚ) ≤ 2 ^ 53 := by exact_mod_cast hexact.le
  calc (2 : ℚ) ^ (-53 : Int) * d
      ≤ 2 ^ (-53 : Int) * 2 ^ 53 := mul_le_mul_of_nonneg_left hd (two_zpow_pos _).le
    _ = 1 := by norm_num
    _ ≤ n := hone

/-- The first rounding changes the quotient by a `2 ^ 53`rd part at most. -/
theorem value_quotient_bounds {n d : Nat} (hle : n ≤ d) (hn : 0 < n) (hexact : d < 2 ^ 53) :
    (nearest false n d).value ≤ (n / d : ℚ) * (1 + 1 / 2 ^ 53)
      ∧ (n / d : ℚ) * (1 - 1 / 2 ^ 53) ≤ (nearest false n d).value := by
  have hpos : 0 < d := lt_of_lt_of_le hn hle
  have hleast : (2 : ℚ) ^ (-1021 : Int) ≤ n / d :=
    (zpow_le_zpow_right₀ one_le_two (by decide)).trans (two_zpow_le_quotient hn hpos hexact)
  exact value_nearest_bounds false hn hpos hleast
    (lt_of_le_of_lt (quotient_le_one hle hpos) one_lt_two_zpow)

/-- It leaves half of the quotient at least. -/
theorem two_zpow_le_value_quotient {n d : Nat} (hle : n ≤ d) (hn : 0 < n) (hexact : d < 2 ^ 53) :
    (2 : ℚ) ^ (-54 : Int) ≤ (nearest false n d).value := by
  have hsmall := two_zpow_le_quotient hn (lt_of_lt_of_le hn hle) hexact
  have hhalf : (2 : ℚ) ^ (-54 : Int) = 2 ^ (-53 : Int) * (1 / 2) := by norm_num
  refine le_trans ?_ (value_quotient_bounds hle hn hexact).2
  rw [hhalf]
  exact mul_le_mul hsmall (by norm_num) (by norm_num) ((two_zpow_pos _).le.trans hsmall)

/-- The second rounding changes a hundred times that by a `2 ^ 53`rd part at most. -/
theorem value_timesHundred_bounds {n d : Nat} (hle : n ≤ d) (hn : 0 < n) (hexact : d < 2 ^ 53) :
    (timesHundred n d).value ≤ 100 * (nearest false n d).value * (1 + 1 / 2 ^ 53)
      ∧ 100 * (nearest false n d).value * (1 - 1 / 2 ^ 53) ≤ (timesHundred n d).value := by
  have hpos : 0 < d := lt_of_lt_of_le hn hle
  have hvalue := two_zpow_le_value_quotient hle hn hexact
  have hpower := two_zpow_pos (-54)
  obtain ⟨num, den, hden, hquot, heq⟩ := exists_timesHundred_eq hle hpos
  have hnum : 0 < num := by
    rw [Nat.pos_iff_ne_zero]
    rintro rfl
    rw [Nat.cast_zero, zero_div] at hquot
    linarith
  have hleast : (2 : ℚ) ^ (-1021 : Int) ≤ num / den := by
    rw [hquot]
    calc (2 : ℚ) ^ (-1021 : Int)
        ≤ 2 ^ (-54 : Int) := zpow_le_zpow_right₀ one_le_two (by decide)
      _ ≤ 100 * (nearest false n d).value := by linarith
  rw [heq, ← hquot]
  exact value_nearest_bounds false hnum hden hleast (hquot ▸ product_lt_two_zpow hle hpos)

/-- **HOW FAR THE ROUNDINGS REACH**: each changes its quotient by a `2 ^ 53`rd part at
    most. -/
theorem timesHundred_bounds {n d : Nat} (hle : n ≤ d) (hn : 0 < n) (hexact : d < 2 ^ 53) :
    (timesHundred n d).value ≤ 100 * n / d * (1 + 1 / 2 ^ 53) ^ 2
      ∧ (100 * n / d * (1 - 1 / 2 ^ 53) ^ 2 : ℚ) ≤ (timesHundred n d).value := by
  obtain ⟨hup, hdown⟩ := value_quotient_bounds hle hn hexact
  obtain ⟨hup', hdown'⟩ := value_timesHundred_bounds hle hn hexact
  have hsplit : (100 * n / d : ℚ) = 100 * (n / d) := mul_div_assoc _ _ _
  rw [hsplit]
  generalize (nearest false n d).value = r at hup hdown hup' hdown'
  generalize (n / d : ℚ) = x at hup hdown ⊢
  constructor
  · calc (timesHundred n d).value
        ≤ 100 * r * (1 + 1 / 2 ^ 53) := hup'
      _ ≤ 100 * (x * (1 + 1 / 2 ^ 53)) * (1 + 1 / 2 ^ 53) := by linarith
      _ = 100 * x * (1 + 1 / 2 ^ 53) ^ 2 := by ring
  · calc 100 * x * (1 - 1 / 2 ^ 53) ^ 2
        = 100 * (x * (1 - 1 / 2 ^ 53)) * (1 - 1 / 2 ^ 53) := by ring
      _ ≤ 100 * r * (1 - 1 / 2 ^ 53) := by linarith
      _ ≤ (timesHundred n d).value := hdown'

/-- **AWAY FROM THE HUNDREDTHS** a percentage is exact, as long as a hundred numerators are
    less than `2 ^ 52`: the next whole number is then farther away than the roundings
    reach. -/
theorem percentOf_of_not_dvd {n d : Nat} (hle : n ≤ d) (hexact : d < 2 ^ 53)
    (hmoderate : 100 * n < 2 ^ 52) (hdvd : ¬d ∣ 100 * n) : percentOf n d = 100 * n / d := by
  have hn : 0 < n := by
    rw [Nat.pos_iff_ne_zero]
    rintro rfl
    exact hdvd (dvd_zero d)
  have hpos : 0 < d := lt_of_lt_of_le hn hle
  have hdQ : (0 : ℚ) < d := Nat.cast_pos.mpr hpos
  have hsplit := Nat.div_add_mod (100 * n) d
  have hrest : 0 < 100 * n % d := Nat.pos_of_ne_zero fun hzero => hdvd (Nat.dvd_of_mod_eq_zero hzero)
  have hrest' : 100 * n % d < d := Nat.mod_lt _ hpos
  have hk : 100 * n / d ≤ 100 := exactPercent_le hle
  generalize 100 * n / d = k at hk hsplit ⊢
  generalize 100 * n % d = r at hsplit hrest hrest'
  -- the exact product is at least one `d`th away from both whole numbers
  have hbelow : (k * d + 1 : ℚ) ≤ 100 * n := by
    have hnat : k * d + 1 ≤ 100 * n := by rw [Nat.mul_comm k]; omega
    exact_mod_cast hnat
  have habove : (100 * n + 1 : ℚ) ≤ (k + 1) * d := by
    have hnat : 100 * n + 1 ≤ (k + 1) * d := by rw [Nat.add_mul, Nat.mul_comm k]; omega
    exact_mod_cast hnat
  have hsize : (100 * n : ℚ) ≤ 2 ^ 52 - 1 := by
    have hnat : 100 * n + 1 ≤ 2 ^ 52 := hmoderate
    have hcast : ((100 * n + 1 : Nat) : ℚ) ≤ (2 ^ 52 : Nat) := Nat.cast_le.mpr hnat
    push_cast at hcast
    linarith
  obtain ⟨hup, hdown⟩ := timesHundred_bounds hle hn hexact
  have hword : (101 : Nat) ≤ Text.wordLimit - 1 := by decide
  refine Nat.le_antisymm (Nat.le_of_lt_succ (Nat.not_le.mp fun hreach => ?_)) ?_
  · have hvalue := (le_percentOf_iff hle hpos (by omega)).mp hreach
    have hcompare := hvalue.trans hup
    rw [div_mul_eq_mul_div, le_div_iff₀ hdQ] at hcompare
    push_cast at hcompare
    linarith
  · refine (le_percentOf_iff hle hpos (by omega)).mpr (le_trans ?_ hdown)
    rw [div_mul_eq_mul_div, le_div_iff₀ hdQ]
    linarith

/-! ## Percentages of counts -/

/-- **PERCENTAGES OF COUNTS**, for all fractions of natural numbers below `2 ^ 53` that are
    one at most: there is a percentage, and it is the exact one rounded down, but for what
    the roundings do.  A fraction that is a number of hundredths gives that number, or one
    less if it is a lossy one.  Every other fraction gives the exact percentage rounded
    down, as long as a hundred numerators are less than `2 ^ 52`; past that it may give one
    more, or one less above a lossy number of hundredths, and never anything else. -/
theorem percentage_of_counts {n d : Nat} (hle : n ≤ d) (hpos : 0 < d) (hexact : d < 2 ^ 53) :
    ∃ percent, (ofFraction (.ofNat n) (.ofNat d)).percent? = some percent
      ∧ (d ∣ 100 * n → percent = shownHundredths (100 * n / d))
      ∧ (¬d ∣ 100 * n → 100 * n < 2 ^ 52 → percent = 100 * n / d)
      ∧ shownHundredths (100 * n / d) ≤ percent ∧ percent ≤ 100 * n / d + 1 ∧ percent ≤ 100 := by
  obtain ⟨hfull, hmost, hleast⟩ := percentOf_near hle hpos
  refine ⟨percentOf n d, percent?_ofFraction hle hpos hexact, ?_, ?_, hleast, hmost, hfull⟩
  · intro hdvd
    have hcount : 100 * n = 100 * n / d * d := (Nat.div_mul_cancel hdvd).symm
    have hk : 100 * n / d ≤ 100 := exactPercent_le hle
    rw [percentOf_congr hle hpos hk (by decide) (quotient_eq_hundredth hpos hcount)]
    exact percentOf_hundredths _ (by omega)
  · exact fun hdvd hmoderate => percentOf_of_not_dvd hle hexact hmoderate hdvd

/-- A lossy number of hundredths in larger terms, and two thirds. -/
theorem percentage_of_counts_reduced :
    (ofFraction (.ofNat 174) (.ofNat 600)).percent? = some 28
      ∧ (ofFraction (.ofNat 2000000) (.ofNat 3000000)).percent? = some 66 := by
  obtain ⟨p, hp, hhundredths, -⟩ :=
    percentage_of_counts (n := 174) (d := 600) (by decide) (by decide) (by decide)
  obtain ⟨q, hq, -, hbetween, -⟩ :=
    percentage_of_counts (n := 2000000) (d := 3000000) (by decide) (by decide) (by decide)
  refine ⟨hp.trans (congrArg some ?_), hq.trans (congrArg some ?_)⟩
  · exact hhundredths (by decide)
  · exact hbetween (by decide) (by decide)

/-- Twenty-nine of a hundred are shown as twenty-eight percent. -/
theorem percentage_below_its_fraction :
    (ofFraction (.ofNat 29) (.ofNat 100)).percent? = some 28
      ∧ Terminal.formatCell (.qualifier (ofFraction (.ofNat 29) (.ofNat 100))) = "28% (29/100)"
      ∧ 100 * 29 / 100 = 29 := by
  decide +kernel

end FindingsBrowser.Qualifier
