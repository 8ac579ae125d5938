import Mathlib.Algebra.Order.Field.Power
import Mathlib.Algebra.Order.Field.Rat
import Mathlib.Tactic.FieldSimp
import Mathlib.Tactic.Linarith
import Mathlib.Tactic.Positivity
import Mathlib.Tactic.Ring
import PhaseScript.Number.Binary64
/-
Reading a quotient as a number of sixty-four bits. The result depends on the value of the quotient
alone, and a quotient that is close enough to a number is read as that number.
-/
set_option autoImplicit false

namespace PhaseScript

/-- A whole number less than half a unit away is what a quotient rounds to. -/
theorem roundDiv_eq (numerator denominator whole : Nat) (positive : 0 < denominator)
    (near : |(numerator : ℚ) / denominator - whole| < 1 / 2) : roundDiv numerator denominator =
    whole := by
  have positiveQ : (0 : ℚ) < denominator := by exact_mod_cast positive
  obtain ⟨upper, lower⟩ := roundDiv_near numerator denominator positive
  have upperQ : 2 * ((roundDiv numerator denominator : ℚ) * denominator) ≤ 2 * numerator +
      denominator := by
    exact_mod_cast upper
  have lowerQ : 2 * (numerator : ℚ) ≤ 2 * (roundDiv numerator denominator * denominator) +
      denominator := by
    exact_mod_cast lower
  have value : (numerator : ℚ) = numerator / denominator * denominator := by field_simp
  obtain ⟨above, below⟩ := abs_lt.mp near
  have notLess : (whole : ℚ) < roundDiv numerator denominator + 1 := by
    by_contra far
    have := mul_le_mul_of_nonneg_right (not_lt.mp far) positiveQ.le
    nlinarith
  have notMore : (roundDiv numerator denominator : ℚ) < whole + 1 := by
    by_contra far
    have := mul_le_mul_of_nonneg_right (not_lt.mp far) positiveQ.le
    nlinarith
  have : whole < roundDiv numerator denominator + 1 := by exact_mod_cast notLess
  have : roundDiv numerator denominator < whole + 1 := by exact_mod_cast notMore
  omega

/-- A common factor does not change what a quotient rounds to. -/
theorem roundDiv_mul_right (numerator denominator factor : Nat) (positive : 0 < factor) :
    roundDiv (numerator * factor) (denominator * factor) = roundDiv numerator denominator := by
  have smaller (a b : Nat) : a * factor < b * factor ↔ a < b := Nat.mul_lt_mul_right positive
  simp only [roundDiv, Nat.mul_div_mul_right _ _ positive, Nat.mul_mod_mul_right, ← Nat.mul_assoc,
    smaller]

/-- Rounding depends on the value of the quotient alone. -/
theorem roundDiv_congr (n d n' d' : Nat) (positive : 0 < d) (positive' : 0 < d')
    (same : n * d' = n' * d) :
    roundDiv n d = roundDiv n' d' := by
  rw [← roundDiv_mul_right n d d' positive', ← roundDiv_mul_right n' d' d positive, same,
    mul_comm d' d]

theorem div_le_roundDiv (numerator denominator : Nat) :
    numerator / denominator ≤ roundDiv numerator denominator := by
  unfold roundDiv
  dsimp only
  repeat' split
  all_goals omega

/-- Below the next whole number an odd one is kept up to half a unit, and no further. -/
theorem roundDiv_le_odd (numerator denominator whole : Nat) (odd : whole % 2 = 1)
    (below : numerator < (whole + 1) * denominator) :
    roundDiv numerator denominator ≤ whole ↔ 2 * numerator < (2 * whole + 1) * denominator := by
  have cut := Nat.div_add_mod numerator denominator
  have quotient : numerator / denominator ≤ whole :=
    Nat.le_of_lt_succ (Nat.div_lt_of_lt_mul (Nat.mul_comm _ _ ▸ below))
  have rest := Nat.mod_lt numerator (Nat.pos_of_lt_mul_left below)
  rw [Nat.mul_comm denominator] at cut
  have expand : (2 * whole + 1) * denominator = 2 * (whole * denominator) + denominator := by ring
  rcases Nat.lt_or_eq_of_le quotient with less | equal
  · have := Nat.mul_le_mul_right denominator less
    rw [Nat.succ_mul] at this
    refine iff_of_true ?_ (by omega)
    unfold roundDiv
    dsimp only
    repeat' split
    all_goals omega
  · rw [equal] at cut
    have notEven : (whole % 2 == 0) = false := by
      rw [beq_eq_false_iff_ne]
      omega
    unfold roundDiv
    dsimp only
    rw [equal, notEven, if_neg Bool.false_ne_true]
    repeat' split
    all_goals omega

theorem roundDiv_le (numerator denominator whole : Nat)
    (below : numerator < whole * denominator) : roundDiv numerator denominator ≤ whole := by
  have quotient := Nat.div_lt_of_lt_mul (Nat.mul_comm _ _ ▸ below)
  unfold roundDiv
  dsimp only
  repeat' split
  all_goals omega

namespace Binary64

/-- Where a quotient has its point: below two to the fifty-third units of the scale, and not below
the fifty-second power unless the scale is the lowest. -/
structure Fits (value : ℚ) (scale : Int) : Prop where
  lowest : -1074 ≤ scale
  below : value < 2 ^ (53 : Nat) * 2 ^ scale
  normal : scale = -1074 ∨ 2 ^ (52 : Nat) * 2 ^ scale ≤ value

theorem two_zpow_pos (n : Int) : (0 : ℚ) < 2 ^ n := zpow_pos (by norm_num) n

theorem two_zpow_lt {m n : Int} (less : m < n) : (2 : ℚ) * 2 ^ m ≤ 2 ^ n := by
  have step : (2 : ℚ) * 2 ^ m = 2 ^ (m + 1) := by rw [zpow_add_one₀ (by norm_num), mul_comm]
  rw [step]
  exact zpow_le_zpow_right₀ (by norm_num) less

/-- There is one such scale. -/
theorem Fits.unique {value : ℚ} {first second : Int} (a : Fits value first)
    (b : Fits value second) :
    first = second := by
  have apart {low high : Int} (l : Fits value low) (h : Fits value high) : ¬ low < high := by
    intro less
    have scales := two_zpow_lt less
    have below := l.below
    rcases h.normal with lowest | normal
    · have := l.lowest
      omega
    · have doubled : (2 : ℚ) ^ (53 : Nat) * 2 ^ low = 2 ^ (52 : Nat) * (2 * 2 ^ low) := by ring
      have := mul_le_mul_of_nonneg_left scales (show (0 : ℚ) ≤ 2 ^ (52 : Nat) by norm_num)
      linarith
  have := apart a b
  have := apart b a
  omega

/-- The numerator and denominator that are rounded at a scale. -/
theorem scaled_eq (numerator denominator : Nat) (scale : Int) (positive : 0 < denominator) :
    ∃ n d : Nat, 0 < d ∧ scaled numerator denominator scale = roundDiv n d ∧
      (n : ℚ) / d = numerator / denominator / 2 ^ scale := by
  have positiveQ : (denominator : ℚ) ≠ 0 := by exact_mod_cast positive.ne'
  by_cases sign : 0 ≤ scale
  · refine ⟨numerator, denominator * 2 ^ scale.toNat, by positivity, by simp [scaled, sign], ?_⟩
    have power : (2 : ℚ) ^ scale = 2 ^ scale.toNat := by
      rw [← zpow_natCast, Int.toNat_of_nonneg sign]
    rw [power]
    push_cast
    field_simp
  · refine ⟨numerator * 2 ^ (-scale).toNat, denominator, positive, by simp [scaled, sign], ?_⟩
    have power : (2 : ℚ) ^ scale = (2 ^ (-scale).toNat)⁻¹ := by
      rw [← zpow_natCast, Int.toNat_of_nonneg (by omega), zpow_neg, inv_inv]
    rw [power]
    push_cast
    field_simp

/-- A quotient lies between powers of two that the sizes of its parts tell. -/
theorem quotient_bounds (numerator denominator : Nat) (n : 0 < numerator) (d : 0 < denominator) :
    (2 : ℚ) ^ (Int.ofNat (Nat.log2 numerator) - Int.ofNat (Nat.log2 denominator) - 1) < numerator /
        denominator ∧
      (numerator : ℚ) / denominator <
        2 ^ (Int.ofNat (Nat.log2 numerator) - Int.ofNat (Nat.log2 denominator) + 1) := by
  have dQ : (0 : ℚ) < denominator := by exact_mod_cast d
  have nLow : (2 : ℚ) ^ Nat.log2 numerator ≤ numerator := by exact_mod_cast Nat.log2_self_le n.ne'
  have nHigh : (numerator : ℚ) < 2 ^ (Nat.log2 numerator + 1) := by exact_mod_cast Nat.lt_log2_self
  have dLow : (2 : ℚ) ^ Nat.log2 denominator ≤ denominator := by
    exact_mod_cast Nat.log2_self_le d.ne'
  have dHigh : (denominator : ℚ) < 2 ^ (Nat.log2 denominator + 1) := by
    exact_mod_cast Nat.lt_log2_self
  have split (a b c : Nat) : (2 : ℚ) ^ (Int.ofNat a - Int.ofNat b + (c : Int)) =
      2 ^ (a + c) / 2 ^ b := by
    rw [Int.ofNat_eq_natCast, Int.ofNat_eq_natCast, show (a : Int) - b + c = (a + c : Nat) -
      (b : Nat) by omega, zpow_sub₀ (by norm_num), zpow_natCast, zpow_natCast]
  constructor
  · rw [show Int.ofNat (Nat.log2 numerator) - Int.ofNat (Nat.log2 denominator) - 1 =
      Int.ofNat (Nat.log2 numerator) - Int.ofNat (Nat.log2 denominator + 1) + ((0 : Nat) : Int) by
        simp only [Int.ofNat_eq_natCast]; omega, split, div_lt_div_iff₀ (by positivity) dQ]
    calc (2 : ℚ) ^ (Nat.log2 numerator + 0) * denominator
        < 2 ^ (Nat.log2 numerator + 0) * 2 ^ (Nat.log2 denominator + 1) := by gcongr
      _ ≤ numerator * 2 ^ (Nat.log2 denominator + 1) := by gcongr; simpa using nLow
  · have := split (Nat.log2 numerator) (Nat.log2 denominator) 1
    rw [Nat.cast_one] at this
    rw [this, div_lt_div_iff₀ dQ (by positivity)]
    calc (numerator : ℚ) * 2 ^ Nat.log2 denominator
        < 2 ^ (Nat.log2 numerator + 1) * 2 ^ Nat.log2 denominator := by gcongr
      _ ≤ 2 ^ (Nat.log2 numerator + 1) * denominator := by gcongr

/-- The test that tells the scale compares with a power of two. -/
theorem scale_test (numerator denominator : Nat) (guess : Int) (d : 0 < denominator) :
    (if guess ≥ 0 then denominator * 2 ^ guess.toNat * 2 ^ 52 ≤ numerator
      else denominator * 2 ^ 52 ≤ numerator * 2 ^ (-guess).toNat) ↔
      2 ^ (52 : Nat) * 2 ^ guess ≤ (numerator : ℚ) / denominator := by
  have dQ : (0 : ℚ) < denominator := by exact_mod_cast d
  rw [le_div_iff₀ dQ]
  generalize big : (52 : Nat) = bits
  split
  · next sign =>
    have power : (2 : ℚ) ^ guess = 2 ^ guess.toNat := by
      rw [← zpow_natCast, Int.toNat_of_nonneg sign]
    rw [power, ← Nat.cast_le (α := ℚ)]
    push_cast
    rw [show (denominator : ℚ) * 2 ^ guess.toNat * 2 ^ bits = 2 ^ bits * 2 ^ guess.toNat *
      denominator by ring]
  · next sign =>
    have power : (2 : ℚ) ^ guess = (2 ^ (-guess).toNat)⁻¹ := by
      rw [← zpow_natCast, Int.toNat_of_nonneg (by omega), zpow_neg, inv_inv]
    rw [power, ← Nat.cast_le (α := ℚ), mul_right_comm, ← div_eq_mul_inv,
      div_le_iff₀ (by positivity)]
    push_cast
    rw [mul_comm (denominator : ℚ)]

/-- The scale of a quotient is the one that fits it. -/
theorem scaleFor_fits (numerator denominator : Nat) (n : 0 < numerator) (d : 0 < denominator) :
    Fits ((numerator : ℚ) / denominator) (scaleFor numerator denominator) := by
  obtain ⟨lower, upper⟩ := quotient_bounds numerator denominator n d
  have shift (a : Nat) (b : Int) : (2 : ℚ) ^ a * 2 ^ b = 2 ^ (b + a) := by
    rw [zpow_add₀ (by norm_num), zpow_natCast, mul_comm]
  unfold scaleFor
  dsimp only
  generalize Int.ofNat (Nat.log2 numerator) - Int.ofNat (Nat.log2 denominator) =
    difference at lower upper
  have test := scale_test numerator denominator (difference - 52) d
  -- Whatever the test says, the scale before it is cut off at the lowest one is right.
  have cut (exact : Int) (above : 2 ^ (52 : Nat) * 2 ^ exact ≤ (numerator : ℚ) / denominator)
      (below : (numerator : ℚ) / denominator < 2 ^ (53 : Nat) * 2 ^ exact) :
      Fits ((numerator : ℚ) / denominator) (if exact < -1074 then -1074 else exact) := by
    split
    · next low =>
      refine ⟨le_rfl, below.trans_le ?_, Or.inl rfl⟩
      have : (2 : ℚ) ^ exact ≤ 2 ^ (-1074 : Int) := zpow_le_zpow_right₀ (by norm_num) low.le
      exact mul_le_mul_of_nonneg_left this (by norm_num)
    · next high => exact ⟨by omega, below, Or.inr above⟩
  by_cases fits : 2 ^ (52 : Nat) * 2 ^ (difference - 52) ≤ (numerator : ℚ) / denominator
  · rw [if_pos (test.mpr fits)]
    refine cut _ fits ?_
    rw [shift, show difference - 52 + (53 : Nat) = difference + 1 by push_cast; ring]
    exact upper
  · rw [if_neg (mt test.mp fits)]
    refine cut _ ?_ ?_
    · rw [shift, show difference - 52 - 1 + (52 : Nat) = difference - 1 by push_cast; ring]
      exact lower.le
    · rw [shift] at fits ⊢
      rw [show difference - 52 - 1 + (53 : Nat) = difference - 52 + (52 : Nat) by push_cast; ring]
      exact not_le.mp fits

/-- Two quotients of one value are read as the same number. -/
theorem ofRatio_congr (negative : Bool) (n d n' d' : Nat) (positive : 0 < d) (positive' : 0 < d')
    (same : n * d' = n' * d) : ofRatio negative n d = ofRatio negative n' d' := by
  have dQ : (d : ℚ) ≠ 0 := by exact_mod_cast positive.ne'
  have dQ' : (d' : ℚ) ≠ 0 := by exact_mod_cast positive'.ne'
  have value : (n : ℚ) / d = n' / d' := by
    rw [div_eq_div_iff dQ dQ']
    exact_mod_cast same
  by_cases nought : n = 0
  · have : n' = 0 := by
      subst nought
      rw [zero_mul] at same
      rcases Nat.mul_eq_zero.mp same.symm with zero | zero
      · exact zero
      · omega
    simp [ofRatio, nought, this]
  · have nought' : n' ≠ 0 := by
      rintro rfl
      rw [zero_mul] at same
      rcases Nat.mul_eq_zero.mp same with zero | zero <;> omega
    have scales : scaleFor n d = scaleFor n' d' := by
      have fits := scaleFor_fits n d (by omega) positive
      rw [value] at fits
      exact fits.unique (scaleFor_fits n' d' (by omega) positive')
    have rounded : scaled n d (scaleFor n d) = scaled n' d' (scaleFor n d) := by
      obtain ⟨a, b, b0, first, ab⟩ := scaled_eq n d (scaleFor n d) positive
      obtain ⟨a', b', b0', second, ab'⟩ := scaled_eq n' d' (scaleFor n d) positive'
      rw [first, second]
      refine roundDiv_congr a b a' b' b0 b0' ?_
      have bQ : (b : ℚ) ≠ 0 := by exact_mod_cast b0.ne'
      have bQ' : (b' : ℚ) ≠ 0 := by exact_mod_cast b0'.ne'
      have : (a : ℚ) / b = a' / b' := by rw [ab, ab', value]
      rw [div_eq_div_iff bQ bQ'] at this
      exact_mod_cast this
    have zeros : (n == 0 || d == 0) = false := by simp [nought, positive.ne']
    have zeros' : (n' == 0 || d' == 0) = false := by simp [nought', positive'.ne']
    simp only [ofRatio, zeros, zeros', Bool.false_eq_true, if_false]
    rw [← scales, rounded]

/-- The exact value of a finite number's magnitude. -/
def magnitude (x : Binary64) : ℚ := x.mantissa * 2 ^ x.scale

theorem mantissa_lt (x : Binary64) : x.mantissa < 2 ^ 53 := by
  have : x.fraction < 2 ^ 52 := Nat.mod_lt _ (by norm_num)
  unfold mantissa
  split <;> omega

theorem lowest_le_scale (x : Binary64) : -1074 ≤ x.scale := by
  unfold scale
  split
  · exact le_rfl
  · next field =>
    have : x.exponentField ≠ 0 := by simpa using field
    rw [Int.ofNat_eq_natCast]
    omega

/-- A mantissa with fewer than fifty-three bits stands at the lowest scale only. -/
theorem normal_or_lowest (x : Binary64) : x.scale = -1074 ∨ 2 ^ 52 ≤ x.mantissa := by
  unfold scale mantissa
  split
  · exact Or.inl rfl
  · exact Or.inr (Nat.le_add_left _ _)

/-- The bits below the sign bit are those of the magnitude. -/
theorem packMagnitude_parts (x : Binary64) (finite : x.isFinite = true) :
    packMagnitude x.mantissa x.scale = x.bits.toNat % 2 ^ 63 := by
  have field : x.exponentField ≠ 2047 := by simpa [isFinite] using finite
  have split63 : x.bits.toNat % 2 ^ 63 = x.exponentField * 2 ^ 52 + x.fraction := by
    unfold exponentField fraction
    omega
  have small : x.fraction < 2 ^ 52 := Nat.mod_lt _ (by norm_num)
  have few : x.exponentField < 2048 := Nat.mod_lt _ (by norm_num)
  rw [split63]
  unfold packMagnitude mantissa scale
  by_cases zero : x.exponentField = 0
  · simp only [zero, beq_self_eq_true, if_true, small, Nat.zero_mul, Nat.zero_add]
  · have notPower : x.fraction + 2 ^ 52 ≠ 2 ^ 53 := by omega
    have shift : Int.ofNat x.exponentField - 1075 + 1075 = (x.exponentField : Int) := by
      simp only [Int.ofNat_eq_natCast]
      omega
    have notInfinite : ¬ (x.exponentField : Int) ≥ 2047 := by omega
    simp only [beq_iff_eq, zero, if_false, notPower, shift, notInfinite, Int.toNat_natCast,
      Nat.add_sub_cancel, if_neg (show ¬ x.fraction + 2 ^ 52 < 2 ^ 52 by omega)]

/-- A number is its sign and the bits of its magnitude. -/
theorem ofParts_parts (x : Binary64) : ofParts x.isNegative (x.bits.toNat % 2 ^ 63) = x := by
  have range : x.bits.toNat < 2 ^ 64 := x.bits.toNat_lt
  have whole : (if x.isNegative then x.bits.toNat % 2 ^ 63 + 2 ^ 63 else x.bits.toNat % 2 ^ 63) =
      x.bits.toNat := by
    unfold isNegative
    by_cases sign : 2 ^ 63 ≤ x.bits.toNat
    · simp only [sign, decide_true, if_true]
      omega
    · simp only [sign, decide_false, Bool.false_eq_true, if_false]
      omega
  unfold ofParts
  rw [whole, UInt64.ofNat_toNat]

/-- A rounded mantissa that grew past its bits is the next power of two. -/
theorem packMagnitude_carry (scale : Int) :
    packMagnitude (2 ^ 53) (scale - 1) = packMagnitude (2 ^ 52) scale := by
  simp [packMagnitude]

/-- What rounding at the scale of a quotient gives when the quotient is close to a number. -/
theorem packMagnitude_near (x : Binary64) (n d : Nat) (positive : 0 < n) (below : 0 < d)
    (near : |(n : ℚ) / d - x.magnitude| < x.magnitude / 2 ^ 54) :
    packMagnitude (scaled n d (scaleFor n d)) (scaleFor n d) =
    packMagnitude x.mantissa x.scale := by
  have fits := scaleFor_fits n d positive below
  obtain ⟨above, under⟩ := abs_lt.mp near
  have unit := two_zpow_pos x.scale
  have small : (x.mantissa : ℚ) ≤ 2 ^ 53 - 1 := by
    have := mantissa_lt x
    have : (x.mantissa : ℚ) + 1 ≤ 2 ^ 53 := by exact_mod_cast this
    linarith
  have value : x.magnitude = x.mantissa * 2 ^ x.scale := rfl
  -- Seen in units of a scale, the quotient is near a whole number.
  have rounds (scale : Int) (whole : Nat) (close : |(n : ℚ) / d / 2 ^ scale - whole| < 1 / 2) :
      scaled n d scale = whole := by
    obtain ⟨a, b, b0, equal, ab⟩ := scaled_eq n d scale below
    rw [equal]
    exact roundDiv_eq a b whole b0 (by rw [ab]; exact close)
  have relative : |(n : ℚ) / d / 2 ^ x.scale - x.mantissa| < x.mantissa / 2 ^ 54 := by
    have : (n : ℚ) / d / 2 ^ x.scale - x.mantissa = ((n : ℚ) / d - x.magnitude) / 2 ^ x.scale := by
      rw [value]
      field_simp
    rw [this, abs_div, abs_of_pos unit, div_lt_iff₀ unit]
    calc |(n : ℚ) / d - x.magnitude| < x.magnitude / 2 ^ 54 := near
      _ = x.mantissa / 2 ^ 54 * 2 ^ x.scale := by rw [value]; ring
  by_cases normal : x.scale = -1074 ∨ 2 ^ (52 : Nat) * 2 ^ x.scale ≤ (n : ℚ) / d
  · have here : Fits ((n : ℚ) / d) x.scale := by
      refine ⟨lowest_le_scale x, ?_, normal⟩
      have := mul_le_mul_of_nonneg_right small unit.le
      rw [value] at under
      nlinarith
    rw [fits.unique here, rounds x.scale x.mantissa]
    refine relative.trans_le ?_
    linarith
  · obtain ⟨notLowest, less⟩ := not_or.mp normal
    have enough : 2 ^ 52 ≤ x.mantissa := (normal_or_lowest x).resolve_left notLowest
    have mantissa : x.mantissa = 2 ^ 52 := by
      by_contra other
      have more : (2 : ℚ) ^ 52 + 1 ≤ x.mantissa := by
        have : 2 ^ 52 + 1 ≤ x.mantissa := by omega
        exact_mod_cast this
      have := mul_le_mul_of_nonneg_right more unit.le
      rw [value] at above
      nlinarith
    have half : (2 : ℚ) ^ x.scale = 2 * 2 ^ (x.scale - 1) := by
      rw [zpow_sub_one₀ (by norm_num)]
      ring
    have one : (x.mantissa : ℚ) = 2 ^ 52 := by exact_mod_cast mantissa
    have here : Fits ((n : ℚ) / d) (x.scale - 1) := by
      have := two_zpow_pos (x.scale - 1)
      refine ⟨by have := lowest_le_scale x; omega, ?_, Or.inr ?_⟩
      · rw [half] at less
        linarith
      · rw [value, one, half] at above
        linarith
    rw [fits.unique here, rounds (x.scale - 1) (2 ^ 53), packMagnitude_carry, mantissa]
    have double : (n : ℚ) / d / 2 ^ (x.scale - 1) - ((2 ^ 53 : Nat) : ℚ) =
        2 * ((n : ℚ) / d / 2 ^ x.scale - x.mantissa) := by
      rw [one, half]
      push_cast
      field_simp
      ring
    rw [double, abs_mul, abs_two]
    rw [one] at relative ⊢
    linarith

/-- A quotient that is close enough to a finite number is read as that number. -/
theorem ofRatio_near (x : Binary64) (n d : Nat) (finite : x.isFinite = true) (positive : 0 < n)
    (below : 0 < d) (near : |(n : ℚ) / d - x.magnitude| < x.magnitude / 2 ^ 54) :
    ofRatio x.isNegative n d = x := by
  have zeros : (n == 0 || d == 0) = false := by simp [positive.ne', below.ne']
  simp only [ofRatio, zeros, Bool.false_eq_true, if_false]
  rw [packMagnitude_near x n d positive below near, packMagnitude_parts x finite, ofParts_parts]

/-- The bits of a magnitude are those of a finite number below the bits of the infinite one. -/
theorem isFinite_ofParts_iff (negative : Bool) (magnitude : Nat)
    (small : magnitude ≤ 2047 * 2 ^ 52) :
    (ofParts negative magnitude).isFinite = true ↔ magnitude < 2047 * 2 ^ 52 := by
  have field : (ofParts negative magnitude).exponentField = magnitude / 2 ^ 52 := by
    unfold exponentField ofParts
    rw [UInt64.toNat_ofNat']
    cases negative
    · simp only [Bool.false_eq_true, if_false]
      omega
    · simp only [if_true]
      omega
  rw [isFinite, field, bne_iff_ne]
  omega

theorem isNaN_of_isFinite {x : Binary64} (finite : x.isFinite = true) : x.isNaN = false := by
  rw [isNaN, beq_eq_false_iff_ne.mpr (bne_iff_ne.mp finite), Bool.false_and]

/-- Up to the bits of the infinite number a magnitude is that of a number. -/
theorem isNaN_ofParts (negative : Bool) (magnitude : Nat) (small : magnitude ≤ 2047 * 2 ^ 52) :
    (ofParts negative magnitude).isNaN = false := by
  have bits : (ofParts negative magnitude).bits.toNat =
      if negative then magnitude + 2 ^ 63 else magnitude := by
    rw [ofParts, UInt64.toNat_ofNat', Nat.mod_eq_of_lt]
    split <;> omega
  rw [isNaN, Bool.and_eq_false_iff, beq_eq_false_iff_ne, bne_eq_false_iff_eq, exponentField,
    fraction, bits]
  cases negative
  · simp only [Bool.false_eq_true, if_false]
    omega
  · simp only [if_true]
    omega

/-- The least magnitude that is read as an infinite number: half a unit past the largest finite one.
-/
def overflowBound : Nat := (2 ^ 54 - 1) * 2 ^ 970

theorem overflowBound_eq : (overflowBound : ℚ) = (2 ^ 54 - 1) * 2 ^ 970 := by
  rw [overflowBound, Nat.cast_mul, Nat.cast_pow]
  norm_num

theorem two_pow_le_overflowBound (n : Nat) (few : n ≤ 970) : 2 ^ n ≤ overflowBound := by
  have scaled (top : Nat) (small : n ≤ top) : 2 ^ n ≤ (2 ^ 54 - 1) * 2 ^ top := by
    have power := Nat.pow_le_pow_right Nat.two_pos small
    omega
  exact scaled 970 few

theorem packMagnitude_le (mantissa : Nat) (scale : Int) (few : mantissa ≤ 2 ^ 53) :
    packMagnitude mantissa scale ≤ 2047 * 2 ^ 52 ∧
      (packMagnitude mantissa scale < 2047 * 2 ^ 52 ↔
        mantissa < 2 ^ 52 ∨ (if mantissa = 2 ^ 53 then scale + 1 else scale) < 972) := by
  unfold packMagnitude
  split
  · next less => exact ⟨by omega, iff_of_true (by omega) (.inl less)⟩
  · next notLess =>
    simp only [beq_iff_eq]
    split
    · next power =>
      dsimp only
      split
      · refine ⟨le_rfl, iff_of_false (Nat.lt_irrefl _) ?_⟩
        omega
      · refine ⟨?_, iff_of_true ?_ (.inr (by omega))⟩ <;> omega
    · next power =>
      dsimp only
      split
      · refine ⟨le_rfl, iff_of_false (Nat.lt_irrefl _) ?_⟩
        omega
      · refine ⟨?_, iff_of_true ?_ (.inr (by omega))⟩ <;> omega

/-- A quotient in units of its scale has at most fifty-three bits before the point. -/
theorem scaled_lt (n d : Nat) (positive : 0 < n) (below : 0 < d) : ∃ a b : Nat, 0 < b ∧
    scaled n d (scaleFor n d) = roundDiv a b ∧ (a : ℚ) / b = (n : ℚ) / d / 2 ^ scaleFor n d ∧
    a < 2 ^ 53 * b := by
  obtain ⟨a, b, b0, equal, ab⟩ := scaled_eq n d (scaleFor n d) below
  have size : (a : ℚ) / b < 2 ^ 53 := by
    rw [ab, div_lt_iff₀ (two_zpow_pos _)]
    exact (scaleFor_fits n d positive below).below
  refine ⟨a, b, b0, equal, ab, ?_⟩
  rw [div_lt_iff₀ (by exact_mod_cast b0)] at size
  exact_mod_cast size

/-- A quotient is read as a number. -/
theorem isNaN_ofRatio (negative : Bool) (n d : Nat) : (ofRatio negative n d).isNaN = false := by
  rw [ofRatio]
  split
  · exact isNaN_ofParts negative 0 (Nat.zero_le _)
  · next some =>
    rw [Bool.or_eq_true, beq_iff_eq, beq_iff_eq, not_or] at some
    obtain ⟨a, b, -, equal, -, fewer⟩ :=
      scaled_lt n d (Nat.pos_of_ne_zero some.1) (Nat.pos_of_ne_zero some.2)
    dsimp only
    rw [equal]
    exact isNaN_ofParts negative _ (packMagnitude_le _ _ (roundDiv_le a b _ fewer)).1

/-- A quotient is read as a finite number up to half a unit past the largest one. -/
theorem ofRatio_isFinite_iff (negative : Bool) (n d : Nat) (positive : 0 < n) (below : 0 < d) :
    (ofRatio negative n d).isFinite = true ↔ n < overflowBound * d := by
  have fits := scaleFor_fits n d positive below
  have zeros : (n == 0 || d == 0) = false := by simp [positive.ne', below.ne']
  simp only [ofRatio, zeros, Bool.false_eq_true, if_false]
  -- The quotient in units of the scale is the one that is rounded.
  obtain ⟨a, b, b0, equal, ab, fewer⟩ := scaled_lt n d positive below
  generalize scaleFor n d = scale at fits equal ab
  have dQ : (0 : ℚ) < d := by exact_mod_cast below
  have bQ : (0 : ℚ) < b := by exact_mod_cast b0
  have unit := two_zpow_pos scale
  have inside : n < overflowBound * d ↔ (n : ℚ) / d < overflowBound := by
    rw [div_lt_iff₀ dQ]
    exact_mod_cast Iff.rfl
  have few := roundDiv_le a b (2 ^ 53) fewer
  obtain ⟨small, finite⟩ := packMagnitude_le (roundDiv a b) scale few
  rw [equal, isFinite_ofParts_iff negative _ small, finite, inside, overflowBound_eq]
  rcases lt_trichotomy scale 971 with low | rfl | high
  · refine iff_of_true ?_ (fits.below.trans_le ?_)
    · split <;> omega
    · have : (2 : ℚ) ^ scale ≤ 2 ^ (970 : Int) := zpow_le_zpow_right₀ (by norm_num) (by omega)
      rw [← zpow_natCast]
      exact mul_le_mul (by norm_num) this unit.le (by norm_num)
  · have odd := roundDiv_le_odd a b (2 ^ 53 - 1) (by norm_num) fewer
    have half : (2 : ℚ) ^ (971 : Int) = 2 * 2 ^ 970 := by
      rw [← zpow_natCast, mul_comm, ← zpow_add_one₀ (by norm_num)]
      rfl
    have meets : 2 * a < (2 * (2 ^ 53 - 1) + 1) * b ↔ (n : ℚ) / d < (2 ^ 54 - 1) * 2 ^ 970 := by
      have value : (n : ℚ) / d = a / b * (2 * 2 ^ 970) := by
        rw [ab, half, div_mul_cancel₀ _ (by positivity)]
      rw [value, ← mul_assoc, mul_lt_mul_iff_left₀ (by positivity), div_mul_eq_mul_div,
        div_lt_iff₀ bQ, ← Nat.cast_lt (α := ℚ)]
      push_cast
      norm_num
      rw [mul_comm]
    rw [← meets, ← odd]
    split <;> omega
  · have normal := fits.normal.resolve_left (by omega)
    have more : 2 ^ 52 * b ≤ a := by
      have : (2 : ℚ) ^ 52 ≤ a / b := by
        rw [ab, le_div_iff₀ unit]
        exact normal
      rw [le_div_iff₀ bQ] at this
      exact_mod_cast this
    have least := (Nat.le_div_iff_mul_le b0).mpr more
    have least := least.trans (div_le_roundDiv a b)
    have : (2 : ℚ) ^ (972 : Int) ≤ 2 ^ scale := zpow_le_zpow_right₀ (by norm_num) (by omega)
    refine iff_of_false ?_ (not_lt.mpr (le_trans ?_ normal))
    · split <;> omega
    · have double : (2 : ℚ) ^ (972 : Int) = 2 ^ 970 * 4 := by
        rw [← zpow_natCast, show (4 : ℚ) = 2 ^ (2 : Int) by norm_num, ← zpow_add₀ (by norm_num)]
        rfl
      calc ((2 : ℚ) ^ 54 - 1) * 2 ^ 970 ≤ 2 ^ (52 : Nat) * 2 ^ (972 : Int) := by
            rw [double, ← mul_assoc, mul_right_comm]
            exact mul_le_mul_of_nonneg_right (by norm_num) (by positivity)
        _ ≤ 2 ^ (52 : Nat) * 2 ^ scale := mul_le_mul_of_nonneg_left this (by norm_num)

end Binary64

end PhaseScript
