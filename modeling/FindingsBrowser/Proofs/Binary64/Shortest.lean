import FindingsBrowser.Proofs.Binary64.Rounding

/-! # Shortest decimals — the search ends on a point that rounds back

    A grid point that is taken lies in the number's interval, and a grid no
    coarser than a quarter of the last place always has one.  Twenty grids from
    the decimal bound down reach such a grid, so `shortest` never falls through
    to its last resort. -/

namespace FindingsBrowser.Binary64

/-- The unit of the interval in which the grid of multiples of `10 ^ k` is a
    natural number of steps. -/
def gridUnit (x : Binary64) (k : Int) : Nat :=
  power 10 (-k) * power 2 (x.exponent - 2)

/-- One step of the grid, in that unit. -/
def gridStep (x : Binary64) (k : Int) : Nat :=
  power 10 k * power 2 (-(x.exponent - 2))

theorem gridUnit_pos (x : Binary64) (k : Int) : 0 < x.gridUnit k :=
  Nat.mul_pos (power_pos (by decide) _) (power_pos (by decide) _)

theorem gridStep_pos (x : Binary64) (k : Int) : 0 < x.gridStep k :=
  Nat.mul_pos (power_pos (by decide) _) (power_pos (by decide) _)

/-- **ONE SCALE**: in a common measure the unit is a quarter of the last place and
    a step is `10 ^ k`. -/
theorem exists_gridScale (x : Binary64) (k : Int) : ∃ scale : ℚ, 0 < scale
    ∧ (∀ l : Nat, ((l * x.gridUnit k : Nat) : ℚ) = l * 2 ^ (x.exponent - 2) * scale)
    ∧ ∀ p : Nat, ((p * x.gridStep k : Nat) : ℚ) = p * 10 ^ k * scale := by
  have hten := cast_power (by decide : 0 < 10) k
  have htwo := cast_power (by decide : 0 < 2) (x.exponent - 2)
  rw [Nat.cast_ofNat] at hten htwo
  -- what both powers have below the line
  refine ⟨power 10 (-k) * power 2 (-(x.exponent - 2)), ?_, fun l => ?_, fun p => ?_⟩
  · exact mul_pos (Nat.cast_pos.mpr (power_pos (by decide) _))
      (Nat.cast_pos.mpr (power_pos (by decide) _))
  · rw [gridUnit]
    push_cast
    rw [htwo]
    ring
  · rw [gridStep]
    push_cast
    rw [hten]
    ring

/-- Comparing a multiple of the unit with a grid point. -/
theorem unit_le_step_iff (x : Binary64) (k : Int) (l p : Nat) :
    l * x.gridUnit k ≤ p * x.gridStep k
      ↔ (l : ℚ) * 2 ^ (x.exponent - 2) ≤ p * 10 ^ k := by
  obtain ⟨scale, hscale, hunit, hstep⟩ := exists_gridScale x k
  rw [← Nat.cast_le (α := ℚ), hunit, hstep, mul_le_mul_iff_left₀ hscale]

/-- Comparing a grid point with a multiple of the unit. -/
theorem step_le_unit_iff (x : Binary64) (k : Int) (l p : Nat) :
    p * x.gridStep k ≤ l * x.gridUnit k
      ↔ (p : ℚ) * 10 ^ k ≤ l * 2 ^ (x.exponent - 2) := by
  obtain ⟨scale, hscale, hunit, hstep⟩ := exists_gridScale x k
  rw [← Nat.cast_le (α := ℚ), hunit, hstep, mul_le_mul_iff_left₀ hscale]

/-- The interval in another unit. -/
theorem interval_unit (x : Binary64) (unit : Nat) :
    x.interval unit
      = { low := (x.interval 1).low * unit
          value := 4 * x.significand * unit
          high := (x.interval 1).high * unit
          closed := (x.interval 1).closed } := by
  simp [interval]

/-- **GRID POINTS**: the test on a grid point is membership in the interval. -/
theorem contains_grid_iff (x : Binary64) (k : Int) (p : Nat) :
    (x.interval (x.gridUnit k)).contains (p * x.gridStep k) = true
      ↔ x.RoundsTo (p * 10 ^ k) := by
  have hlow := unit_le_step_iff x k (x.interval 1).low p
  have hhigh := step_le_unit_iff x k (x.interval 1).high p
  have hlow' := not_congr (step_le_unit_iff x k (x.interval 1).low p)
  have hhigh' := not_congr (unit_le_step_iff x k (x.interval 1).high p)
  rw [not_le, not_le] at hlow' hhigh'
  rw [interval_unit, Interval.contains, RoundsTo]
  dsimp only
  cases hclosed : (x.interval 1).closed with
  | true => simp [hlow, hhigh]
  | false =>
      simp only [Bool.false_eq_true, if_false, Bool.and_eq_true, decide_eq_true_eq, hlow',
        hhigh', forall_const]
      exact ⟨fun h => ⟨h.1.le, h.2.le, h⟩, fun h => h.2.2⟩

/-! ## One grid -/

/-- The grid of multiples of `10 ^ k`, in terms of its unit and its step. -/
theorem gridPoint?_eq (tie : Tie) (x : Binary64) (k : Int) :
    gridPoint? tie x k =
      let i := x.interval (x.gridUnit k)
      let below := i.value / x.gridStep k
      match i.contains (below * x.gridStep k), i.contains ((below + 1) * x.gridStep k) with
      | false, false => none
      | true, false => some below
      | false, true => some (below + 1)
      | true, true =>
          let past := i.value - below * x.gridStep k
          if 2 * past < x.gridStep k then some below
          else if x.gridStep k < 2 * past then some (below + 1)
          else
            match tie with
            | .upward => some (below + 1)
            | .toEven => some (if below % 2 = 0 then below else below + 1) :=
  rfl

/-- **TAKEN POINTS**: the point taken from a grid lies in the interval. -/
theorem roundsTo_of_gridPoint? {tie : Tie} {x : Binary64} {k : Int} {p : Nat}
    (h : gridPoint? tie x k = some p) : x.RoundsTo (p * 10 ^ k) := by
  rw [← contains_grid_iff]
  rw [gridPoint?_eq] at h
  dsimp only at h
  generalize x.interval (x.gridUnit k) = i at h ⊢
  generalize i.value / x.gridStep k = below at h
  split at h
  · exact nomatch h
  · case _ hbelow _ =>
      cases h
      exact hbelow
  · case _ _ habove =>
      cases h
      exact habove
  · case _ hbelow habove =>
      -- whichever neighbour is taken, both are inside
      have hp : p = below ∨ p = below + 1 := by
        cases tie <;> grind
      rcases hp with rfl | rfl
      · exact hbelow
      · exact habove

/-- On a grid no coarser than a quarter of the last place, the point just below
    the number lies in the interval. -/
theorem contains_below {x : Binary64} (hx : Parts x) {k : Int}
    (hk : (10 : ℚ) ^ k ≤ 2 ^ (x.exponent - 2)) :
    (x.interval (x.gridUnit k)).contains
      ((x.interval (x.gridUnit k)).value / x.gridStep k * x.gridStep k) = true := by
  have hunit := gridUnit_pos x k
  have hstep : x.gridStep k ≤ x.gridUnit k := by
    have hone : 1 * x.gridStep k ≤ 1 * x.gridUnit k := by
      rw [step_le_unit_iff]
      simpa using hk
    omega
  have hsplit := Nat.div_add_mod (4 * x.significand * x.gridUnit k) (x.gridStep k)
  have hmod := Nat.mod_lt (4 * x.significand * x.gridUnit k) (gridStep_pos x k)
  rw [Nat.mul_comm (x.gridStep k)] at hsplit
  have hlow : ((x.interval 1).low + 1) * x.gridUnit k ≤ 4 * x.significand * x.gridUnit k := by
    refine Nat.mul_le_mul_right _ ?_
    have hm := hx.significand_pos
    rw [low_interval]
    split <;> omega
  have hhigh : (x.interval 1).high * x.gridUnit k
      = 4 * x.significand * x.gridUnit k + 2 * x.gridUnit k := by
    rw [high_interval, Nat.add_mul]
  rw [Nat.succ_mul] at hlow
  rw [interval_unit, Interval.contains]
  dsimp only
  generalize 4 * x.significand * x.gridUnit k / x.gridStep k * x.gridStep k = point at hsplit ⊢
  split
  · simp only [Bool.and_eq_true, decide_eq_true_eq]
    omega
  · simp only [Bool.and_eq_true, decide_eq_true_eq]
    omega

/-- **FINE GRIDS**: a grid no coarser than a quarter of the last place has a
    point in the interval. -/
theorem gridPoint?_ne_none (tie : Tie) {x : Binary64} (hx : Parts x) {k : Int}
    (hk : (10 : ℚ) ^ k ≤ 2 ^ (x.exponent - 2)) : gridPoint? tie x k ≠ none := by
  have hbelow := contains_below hx hk
  rw [gridPoint?_eq]
  dsimp only
  rw [hbelow]
  cases tie <;> grind

/-! ## The search -/

/-- The decimal that a search returns is a point of the interval, if the last of
    its grids is no coarser than a quarter of the last place. -/
theorem roundsTo_searchGrid (tie : Tie) {x : Binary64} (hx : Parts x) :
    ∀ (n : Nat) (k : Int), (10 : ℚ) ^ (k - n) ≤ 2 ^ (x.exponent - 2) →
      x.RoundsTo ((searchGrid tie x (n + 1) k).significand
        * 10 ^ (searchGrid tie x (n + 1) k).exponent) := by
  intro n
  induction n with
  | zero =>
      -- the last grid is fine enough to have a point
      intro k hk
      rw [Nat.cast_zero, sub_zero] at hk
      rw [searchGrid]
      cases hpoint : gridPoint? tie x k with
      | none => exact absurd hpoint (gridPoint?_ne_none tie hx hk)
      | some point => exact roundsTo_of_gridPoint? hpoint
  | succ n ih =>
      intro k hk
      rw [searchGrid]
      cases hpoint : gridPoint? tie x k with
      | none =>
          refine ih (k - 1) ?_
          have hlast : k - 1 - (n : Int) = k - (n + 1 : Nat) := by
            push_cast
            ring
          rwa [hlast]
      | some point => exact roundsTo_of_gridPoint? hpoint

/-- The twentieth grid below the decimal bound is finer than a quarter of the
    last place. -/
theorem ten_zpow_decimalBound_le {x : Binary64} (hx : Parts x) :
    (10 : ℚ) ^ (x.decimalBound - (19 : Nat)) ≤ 2 ^ (x.exponent - 2) := by
  have hlog : x.significand.log2 < 53 := by
    rw [Nat.log2_lt (Nat.pos_iff_ne_zero.mp hx.significand_pos)]
    exact hx.significand_lt
  have hleast := hx.least
  have hgreatest := hx.greatest
  -- 55 bits are fewer than 17 digits, and the bound is off by two at most
  rw [decimalBound]
  refine ten_zpow_le_two_zpow ?_ ?_
  · omega
  · omega

/-- **SHORTEST DECIMALS ROUND BACK.** -/
theorem roundsTo_shortest (tie : Tie) {x : Binary64} (hx : Parts x) :
    x.RoundsTo ((x.shortest tie).significand * 10 ^ (x.shortest tie).exponent) :=
  roundsTo_searchGrid tie hx 19 x.decimalBound (ten_zpow_decimalBound_le hx)

end FindingsBrowser.Binary64
