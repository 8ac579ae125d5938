import Mathlib.Algebra.Order.Ring.Abs
import PhaseScript.Number.FloatText
import PhaseScript.Proofs.Number.Rounding
/-
The shortest digits of a number read back as it. Seventeen digits are always enough, since the grid
they lie on is finer than the distance at which a quotient is still read as the number.
-/
set_option autoImplicit false

namespace PhaseScript

namespace Binary64

/-- A power of ten is below a power of two whenever the exponents are in the ratio of their
logarithms. -/
theorem ten_zpow_le_two_zpow (m k : Int) (up : 196 * m ≤ 59 * k) (down : 93 * m ≤ 28 * k) :
    (10 : ℚ) ^ m ≤ 2 ^ k := by
  rcases le_total 0 m with sign | sign
  · refine le_of_pow_le_pow_left₀ (show 59 ≠ 0 by norm_num) (by positivity) ?_
    calc ((10 : ℚ) ^ m) ^ 59
      _ = (10 ^ 59) ^ m := by rw [← zpow_natCast, ← zpow_mul, mul_comm, zpow_mul]; norm_num
      _ ≤ ((2 : ℚ) ^ 196) ^ m := zpow_le_zpow_left₀ sign (by norm_num) (by norm_num)
      _ = 2 ^ (196 * m) := by rw [zpow_mul]; norm_num
      _ ≤ 2 ^ (59 * k) := zpow_le_zpow_right₀ (by norm_num) up
      _ = (2 ^ k) ^ 59 := by rw [mul_comm, zpow_mul]; norm_cast
  · refine le_of_pow_le_pow_left₀ (show 28 ≠ 0 by norm_num) (by positivity) ?_
    calc ((10 : ℚ) ^ m) ^ 28
      _ = (10 ^ 28) ^ m := by rw [← zpow_natCast, ← zpow_mul, mul_comm, zpow_mul]; norm_num
      _ ≤ ((2 : ℚ) ^ 93) ^ m := by
        have turned : ((2 : ℚ) ^ 93) ^ (-m) ≤ (10 ^ 28) ^ (-m) :=
          zpow_le_zpow_left₀ (by omega) (by norm_num) (by norm_num)
        rw [zpow_neg, zpow_neg] at turned
        exact (inv_le_inv₀ (by positivity) (by positivity)).mp turned
      _ = 2 ^ (93 * m) := by rw [zpow_mul]; norm_num
      _ ≤ 2 ^ (28 * k) := zpow_le_zpow_right₀ (by norm_num) down
      _ = (2 ^ k) ^ 28 := by rw [mul_comm, zpow_mul]; norm_cast

theorem two_zpow_le_ten_zpow (k m : Int) (up : 28 * k ≤ 93 * m) (down : 59 * k ≤ 196 * m) :
    (2 : ℚ) ^ k ≤ 10 ^ m := by
  have := ten_zpow_le_two_zpow (-m) (-k) (by omega) (by omega)
  rw [zpow_neg, zpow_neg] at this
  exact (inv_le_inv₀ (by positivity) (by positivity)).mp this

/-- The value of a decimal with digits and a power of ten. -/
def decimalValue (digits : Nat) (exponent : Int) : ℚ := digits * 10 ^ exponent

/-- The comparison with a power of ten that tells the place of the point. -/
theorem below_iff (numerator denominator : Nat) (k : Int) (d : 0 < denominator) :
    (if k ≥ 0 then numerator < denominator * 10 ^ k.toNat else numerator * 10 ^ (-k).toNat <
        denominator) ↔
      (numerator : ℚ) / denominator < 10 ^ k := by
  have dQ : (0 : ℚ) < denominator := by exact_mod_cast d
  rw [div_lt_iff₀ dQ]
  split
  · next sign =>
    have power : (10 : ℚ) ^ k = 10 ^ k.toNat := by rw [← zpow_natCast, Int.toNat_of_nonneg sign]
    rw [power, ← Nat.cast_lt (α := ℚ), mul_comm]
    push_cast
    rfl
  · next sign =>
    have power : (10 : ℚ) ^ k = (10 ^ (-k).toNat)⁻¹ := by
      rw [← zpow_natCast, Int.toNat_of_nonneg (by omega), zpow_neg, inv_inv]
    rw [power, ← Nat.cast_lt (α := ℚ), mul_comm _ (denominator : ℚ), ← div_eq_mul_inv,
      lt_div_iff₀ (by positivity)]
    push_cast
    rfl

/-- The place of the point has the quotient between two neighbouring powers of ten. -/
theorem decimalPoint_spec (numerator denominator : Nat) (n : 0 < numerator) (d : 0 < denominator)
    (low : -1200 ≤ Int.ofNat (Nat.log2 numerator) - Int.ofNat (Nat.log2 denominator))
    (high : Int.ofNat (Nat.log2 numerator) - Int.ofNat (Nat.log2 denominator) ≤ 1200) :
    (10 : ℚ) ^ (decimalPoint numerator denominator - 1) ≤ numerator / denominator ∧
      (numerator : ℚ) / denominator < 10 ^ decimalPoint numerator denominator := by
  obtain ⟨lower, upper⟩ := quotient_bounds numerator denominator n d
  unfold decimalPoint
  dsimp only
  generalize Int.ofNat (Nat.log2 numerator) - Int.ofNat (Nat.log2 denominator) =
    size at lower upper low high
  generalize guessed : size * 30103 / 100000 = guess
  have least : (10 : ℚ) ^ (guess - 2) ≤ numerator / denominator :=
    (ten_zpow_le_two_zpow (guess - 2) (size - 1) (by omega) (by omega)).trans lower.le
  have most : (numerator : ℚ) / denominator < 10 ^ (guess + 2) :=
    upper.trans_le (two_zpow_le_ten_zpow (size + 1) (guess + 2) (by omega) (by omega))
  have test (k : Int) := below_iff numerator denominator k d
  by_cases first : (numerator : ℚ) / denominator < 10 ^ (guess - 1)
  · rw [if_pos ((test _).mpr first), show guess - 1 - 1 = guess - 2 by ring]
    exact ⟨least, first⟩
  rw [if_neg (mt (test _).mp first)]
  by_cases second : (numerator : ℚ) / denominator < 10 ^ guess
  · rw [if_pos ((test _).mpr second)]
    exact ⟨not_lt.mp first, second⟩
  rw [if_neg (mt (test _).mp second)]
  by_cases third : (numerator : ℚ) / denominator < 10 ^ (guess + 1)
  · rw [if_pos ((test _).mpr third), Int.add_sub_cancel]
    exact ⟨not_lt.mp second, third⟩
  · rw [if_neg (mt (test _).mp third), show guess + 2 - 1 = guess + 1 by ring]
    exact ⟨not_lt.mp third, most⟩

/-- Within bounds a decimal is read through its value as a quotient. -/
theorem ofDecimal_eq_ofRatio (negative : Bool) (digits : Nat) (exponent : Int)
    (positive : 0 < digits) (few : digits < 10 ^ 40) (low : -420 ≤ exponent)
    (high : exponent ≤ 340) :
    ∃ n d : Nat, 0 < n ∧ 0 < d ∧ ofDecimal negative digits exponent = ofRatio negative n d ∧
      (n : ℚ) / d = decimalValue digits exponent := by
  have size : Nat.log2 digits < 133 :=
    (Nat.log2_lt positive.ne').mpr (few.trans_le (by norm_num))
  have notZero : (digits == 0) = false := by simpa using positive.ne'
  have notLarge : ¬ exponent + Int.ofNat (Nat.log2 digits) * 3 / 10 > 400 := by
    rw [Int.ofNat_eq_natCast]
    omega
  have notSmall : ¬ exponent + Int.ofNat (Nat.log2 digits) / 3 < -450 := by
    rw [Int.ofNat_eq_natCast]
    omega
  unfold decimalValue
  by_cases sign : exponent ≥ 0
  · refine ⟨digits * 10 ^ exponent.toNat, 1, by positivity, Nat.one_pos, ?_, ?_⟩
    · simp only [ofDecimal, notZero, Bool.false_eq_true, if_false, notLarge, notSmall, sign,
        if_true]
    · rw [show (10 : ℚ) ^ exponent = 10 ^ exponent.toNat by rw [← zpow_natCast,
        Int.toNat_of_nonneg sign]]
      push_cast
      rw [div_one]
  · refine ⟨digits, 10 ^ (-exponent).toNat, positive, by positivity, ?_, ?_⟩
    · simp only [ofDecimal, notZero, Bool.false_eq_true, if_false, notLarge, notSmall, sign]
    · have power : (10 : ℚ) ^ exponent = (10 ^ (-exponent).toNat)⁻¹ := by
        rw [← zpow_natCast, Int.toNat_of_nonneg (by omega), zpow_neg, inv_inv]
      rw [power]
      push_cast
      rw [div_eq_mul_inv]

/-- Within bounds two decimals of one value are read as the same number. -/
theorem ofDecimal_congr (negative : Bool) (digits digits' : Nat) (exponent exponent' : Int)
    (positive : 0 < digits) (positive' : 0 < digits') (few : digits < 10 ^ 40)
    (few' : digits' < 10 ^ 40) (low : -420 ≤ exponent) (high : exponent ≤ 340)
    (low' : -420 ≤ exponent') (high' : exponent' ≤ 340)
    (same : decimalValue digits exponent = decimalValue digits' exponent') :
    ofDecimal negative digits exponent = ofDecimal negative digits' exponent' := by
  obtain ⟨n, d, _, d0, equal, value⟩ := ofDecimal_eq_ofRatio negative digits exponent positive few
    low high
  obtain ⟨n', d', _, d0', equal', value'⟩ :=
    ofDecimal_eq_ofRatio negative digits' exponent' positive' few' low' high'
  rw [equal, equal']
  refine ofRatio_congr negative n d n' d' d0 d0' ?_
  have dQ : (d : ℚ) ≠ 0 := by exact_mod_cast d0.ne'
  have dQ' : (d' : ℚ) ≠ 0 := by exact_mod_cast d0'.ne'
  have : (n : ℚ) / d = n' / d' := by rw [value, value', same]
  rw [div_eq_div_iff dQ dQ'] at this
  exact_mod_cast this

/-- A decimal that is close enough to a finite number is read as that number. -/
theorem ofDecimal_near (x : Binary64) (digits : Nat) (exponent : Int) (finite : x.isFinite = true)
    (positive : 0 < digits) (few : digits < 10 ^ 40) (low : -420 ≤ exponent) (high : exponent ≤ 340)
    (near : |decimalValue digits exponent - x.magnitude| < x.magnitude / 2 ^ 54) :
    ofDecimal x.isNegative digits exponent = x := by
  obtain ⟨n, d, n0, d0, equal, value⟩ := ofDecimal_eq_ofRatio x.isNegative digits exponent positive
    few low high
  rw [equal]
  exact ofRatio_near x n d finite n0 d0 (by rw [value]; exact near)

/-- A decimal is read as a number. -/
theorem isNaN_ofDecimal (negative : Bool) (digits : Nat) (exponent : Int) :
    (ofDecimal negative digits exponent).isNaN = false := by
  unfold ofDecimal
  have zero := isNaN_ofParts negative 0 (Nat.zero_le _)
  split
  · exact zero
  split
  · exact isNaN_ofParts negative _ le_rfl
  split
  · exact zero
  split <;> exact isNaN_ofRatio negative _ _

/-- A decimal of any size is read as a finite number up to half a unit past the largest one. -/
theorem ofDecimal_isFinite_iff (negative : Bool) (digits : Nat) (exponent : Int) :
    (ofDecimal negative digits exponent).isFinite = true ↔
      decimalValue digits exponent < overflowBound := by
  have zero : (ofParts negative 0).isFinite = true :=
    (isFinite_ofParts_iff negative 0 (Nat.zero_le _)).mpr (by norm_num)
  have one : (1 : ℚ) ≤ overflowBound := by
    rw [overflowBound_eq]
    exact one_le_mul_of_one_le_of_one_le (by norm_num) (one_le_pow₀ (by norm_num))
  unfold decimalValue ofDecimal
  by_cases nought : digits = 0
  · rw [nought]
    refine iff_of_true zero ?_
    rw [Nat.cast_zero, zero_mul]
    exact zero_lt_one.trans_le one
  have some : 0 < digits := Nat.pos_of_ne_zero nought
  have low : (2 : ℚ) ^ (Nat.log2 digits : Int) ≤ digits := by
    rw [zpow_natCast]
    exact_mod_cast Nat.log2_self_le nought
  have high : (digits : ℚ) < 2 ^ (Nat.log2 digits + 1 : Int) := by
    have : (digits : ℚ) < 2 ^ (Nat.log2 digits + 1) := by exact_mod_cast Nat.lt_log2_self
    exact_mod_cast this
  have power := zpow_pos (show (0 : ℚ) < 10 by norm_num) exponent
  rw [if_neg (mt beq_iff_eq.mp nought)]
  generalize Nat.log2 digits = size at low high
  rw [Int.ofNat_eq_natCast]
  split
  · next large =>
    have below := ten_zpow_le_two_zpow (size * 3 / 10) size (by omega) (by omega)
    have least : (2 : ℚ) ^ (1024 : Int) ≤ digits * 10 ^ exponent := by
      calc (2 : ℚ) ^ (1024 : Int)
          ≤ 10 ^ (401 : Int) := two_zpow_le_ten_zpow _ _ (by omega) (by omega)
        _ ≤ 10 ^ ((size * 3 / 10 : Int) + exponent) := zpow_le_zpow_right₀ (by norm_num) (by omega)
        _ = 10 ^ (size * 3 / 10 : Int) * 10 ^ exponent := zpow_add₀ (by norm_num) _ _
        _ ≤ digits * 10 ^ exponent := mul_le_mul_of_nonneg_right (below.trans low) power.le
    have bound : (overflowBound : ℚ) ≤ 2 ^ (1024 : Int) := by
      rw [overflowBound_eq, show (1024 : Int) = (54 : Nat) + (970 : Nat) from rfl,
        zpow_add₀ (by norm_num), zpow_natCast, zpow_natCast]
      exact mul_le_mul_of_nonneg_right (by norm_num) (by positivity)
    have infinite := isFinite_ofParts_iff negative (2047 * 2 ^ 52) le_rfl
    exact iff_of_false (mt infinite.mp (Nat.lt_irrefl _)) (not_lt.mpr (bound.trans least))
  split
  · next small =>
    have above := two_zpow_le_ten_zpow (size + 1) (size / 3 + 1) (by omega) (by omega)
    refine iff_of_true zero (lt_of_lt_of_le ?_ one)
    calc (digits : ℚ) * 10 ^ exponent < 10 ^ (size / 3 + 1 : Int) * 10 ^ exponent :=
          mul_lt_mul_of_pos_right (high.trans_le above) power
      _ = 10 ^ ((size / 3 + 1 : Int) + exponent) := (zpow_add₀ (by norm_num) _ _).symm
      _ ≤ 10 ^ (0 : Int) := zpow_le_zpow_right₀ (by norm_num) (by omega)
      _ = 1 := zpow_zero _
  split
  · next whole =>
    rw [ofRatio_isFinite_iff negative _ 1 (by positivity) Nat.one_pos, Nat.mul_one,
      ← Nat.cast_lt (α := ℚ), ← Int.toNat_of_nonneg whole, zpow_natCast]
    push_cast
    rfl
  · next part =>
    have turned : (10 : ℚ) ^ exponent = (10 ^ (-exponent).toNat)⁻¹ := by
      rw [← zpow_natCast, Int.toNat_of_nonneg (by omega), zpow_neg, inv_inv]
    rw [ofRatio_isFinite_iff negative _ _ some (by positivity), turned, ← div_eq_mul_inv,
      div_lt_iff₀ (by positivity), ← Nat.cast_lt (α := ℚ)]
    push_cast
    rfl

/-- The quotient of a finite number has its exact value. -/
theorem ratio_value (x : Binary64) : (x.ratio.1 : ℚ) / x.ratio.2 = x.magnitude := by
  unfold ratio magnitude
  split
  · next sign =>
    rw [show (2 : ℚ) ^ x.scale = 2 ^ x.scale.toNat by rw [← zpow_natCast, Int.toNat_of_nonneg sign]]
    push_cast
    simp
  · next sign =>
    have power : (2 : ℚ) ^ x.scale = (2 ^ (-x.scale).toNat)⁻¹ := by
      rw [← zpow_natCast, Int.toNat_of_nonneg (by omega), zpow_neg, inv_inv]
    rw [power]
    push_cast
    rw [div_eq_mul_inv]

theorem ratio_pos (x : Binary64) : 0 < x.ratio.2 := by
  unfold ratio
  split
  · exact Nat.one_pos
  · exact Nat.two_pow_pos _

/-- The point of a grid next below a quotient. -/
theorem gridBelow_spec (numerator denominator : Nat) (power : Int) (d : 0 < denominator) :
    (gridBelow numerator denominator power : ℚ) ≤ numerator / denominator * 10 ^ power ∧
      (numerator : ℚ) / denominator * 10 ^ power < gridBelow numerator denominator power + 1 := by
  have floor (a b : Nat) (b0 : 0 < b) : ((a / b : Nat) : ℚ) ≤ a / b ∧ (a : ℚ) / b < (a / b : Nat) +
      1 := by
    have bQ : (0 : ℚ) < b := by exact_mod_cast b0
    constructor
    · rw [le_div_iff₀ bQ]
      exact_mod_cast Nat.div_mul_le_self a b
    · rw [div_lt_iff₀ bQ]
      exact_mod_cast Nat.lt_mul_of_div_lt (Nat.lt_succ_self (a / b)) b0
  unfold gridBelow
  split
  · next sign =>
    have := floor (numerator * 10 ^ power.toNat) denominator d
    have value : (numerator : ℚ) / denominator * 10 ^ power =
        ((numerator * 10 ^ power.toNat : Nat) : ℚ) / denominator := by
      rw [show (10 : ℚ) ^ power = 10 ^ power.toNat by rw [← zpow_natCast, Int.toNat_of_nonneg sign]]
      push_cast
      ring
    rwa [value]
  · next sign =>
    have := floor numerator (denominator * 10 ^ (-power).toNat) (by positivity)
    have value : (numerator : ℚ) / denominator * 10 ^ power =
        numerator / ((denominator * 10 ^ (-power).toNat : Nat) : ℚ) := by
      rw [show (10 : ℚ) ^ power = (10 ^ (-power).toNat)⁻¹ by
        rw [← zpow_natCast, Int.toNat_of_nonneg (by omega), zpow_neg, inv_inv]]
      push_cast
      field_simp
    rwa [value]

/-- What holds of shortest digits: as many as counted and at most seventeen, without a zero in
front, and they read back. -/
structure ReadsBack (x : Binary64) (short : ShortDecimal) : Prop where
  some : 1 ≤ short.count
  few : short.count ≤ 17
  first : 10 ^ (short.count - 1) ≤ short.digits
  below : short.digits < 10 ^ short.count
  low : -330 ≤ short.point
  high : short.point ≤ 330
  reads : ofDecimal false short.digits (short.point - short.count) = x

/-- With seventeen digits one of the two neighbours on the grid reads back. -/
theorem seventeen_enough (x : Binary64) (finite : x.isFinite = true) (sign : x.isNegative = false)
    (point : Int) (low : -330 ≤ point) (high : point ≤ 320)
    (above : (10 : ℚ) ^ (point - 1) ≤ x.magnitude) (grid : Nat) (first : 0 < grid)
    (few : grid < 10 ^ 17) (under : (grid : ℚ) ≤ x.magnitude * 10 ^ (17 - point))
    (past : x.magnitude * 10 ^ (17 - point) < grid + 1) :
    ofDecimal false grid (-(17 - point)) = x ∨ ofDecimal false (grid + 1) (-(17 - point)) = x := by
  have ten : (0 : ℚ) < 10 ^ (17 - point) := zpow_pos (by norm_num) _
  have unit : (10 : ℚ) ^ (17 - point) * 10 ^ (-(17 - point)) = 1 := by
    rw [← zpow_add₀ (by norm_num), add_neg_cancel, zpow_zero]
  have size : (10 : ℚ) ^ 16 ≤ x.magnitude * 10 ^ (17 - point) := by
    have := mul_le_mul_of_nonneg_right above ten.le
    rw [← zpow_add₀ (by norm_num)] at this
    rw [show point - 1 + (17 - point) = (16 : Int) by ring] at this
    exact_mod_cast this
  -- Half a step of the grid is less than what a quotient may be off.
  have reads (digits : Nat) (positive : 0 < digits) (most : digits ≤ 10 ^ 17)
      (near : |(digits : ℚ) - x.magnitude * 10 ^ (17 - point)| ≤ 1 / 2) :
      ofDecimal false digits (-(17 - point)) = x := by
    rw [← sign]
    refine ofDecimal_near x digits (-(17 - point)) finite positive (most.trans_lt (by norm_num))
      (by omega) (by omega) ?_
    have moved : decimalValue digits (-(17 - point)) - x.magnitude =
        (digits - x.magnitude * 10 ^ (17 - point)) * 10 ^ (-(17 - point)) := by
      unfold decimalValue
      rw [sub_mul, mul_assoc, unit, mul_one]
    have back : x.magnitude = x.magnitude * 10 ^ (17 - point) * 10 ^ (-(17 - point)) := by
      rw [mul_assoc, unit, mul_one]
    have tenth : (0 : ℚ) < 10 ^ (-(17 - point)) := zpow_pos (by norm_num) _
    rw [moved, abs_mul, abs_of_pos tenth]
    calc |(digits : ℚ) - x.magnitude * 10 ^ (17 - point)| * 10 ^ (-(17 - point))
        ≤ 1 / 2 * 10 ^ (-(17 - point)) := mul_le_mul_of_nonneg_right near tenth.le
      _ < x.magnitude * 10 ^ (17 - point) / 2 ^ 54 * 10 ^ (-(17 - point)) := by
        refine mul_lt_mul_of_pos_right ?_ tenth
        rw [lt_div_iff₀ (by norm_num)]
        exact lt_of_lt_of_le (by norm_num) size
      _ = x.magnitude / 2 ^ 54 := by rw [div_mul_eq_mul_div, ← back]
  by_cases half : x.magnitude * 10 ^ (17 - point) - grid ≤ 1 / 2
  · refine Or.inl (reads grid first few.le ?_)
    rw [abs_sub_comm, abs_of_nonneg (by linarith)]
    exact half
  · refine Or.inr (reads (grid + 1) (Nat.succ_pos _) few ?_)
    rw [abs_of_nonneg (by push_cast; linarith)]
    push_cast
    linarith

/-- Digits on a grid that read back are shortest digits, after a carry into a new first digit if
there is one. -/
theorem readsBack_of_grid (x : Binary64) (point : Int) (count digits : Nat) (some : 1 ≤ count)
    (few : count ≤ 17) (low : -330 ≤ point) (high : point < 330) (first : 10 ^ (count - 1) ≤ digits)
    (below : digits ≤ 10 ^ count) (reads : ofDecimal false digits (-(count - point)) = x) :
    ReadsBack x (if digits == 10 ^ count then ⟨1, 1, point + 1⟩ else ⟨digits, count, point⟩) := by
  rw [neg_sub] at reads
  have range : 10 ^ count ≤ 10 ^ 17 := Nat.pow_le_pow_right (by norm_num) few
  by_cases carried : digits = 10 ^ count
  · rw [if_pos (by simpa using carried)]
    refine ⟨le_rfl, by norm_num, by norm_num, by norm_num, by dsimp; omega, by dsimp; omega, ?_⟩
    rw [← reads]
    refine ofDecimal_congr false 1 digits _ _ Nat.one_pos (by rw [carried]; positivity)
      (by norm_num) (by omega) (by dsimp; omega) (by dsimp; omega) (by omega) (by omega) ?_
    unfold decimalValue
    rw [carried]
    push_cast
    rw [← zpow_natCast, ← zpow_add₀ (by norm_num), one_mul]
    congr 1
    ring
  · rw [if_neg (by simpa using carried)]
    exact ⟨some, few, first, lt_of_le_of_ne below carried, low, high.le, reads⟩

/-- Whichever count of digits the search stops at, the digits read back. -/
theorem shortestFrom_readsBack (x : Binary64) (finite : x.isFinite = true)
    (sign : x.isNegative = false) (point : Int) (low : -330 ≤ point) (high : point ≤ 320)
    (above : (10 : ℚ) ^ (point - 1) ≤ x.magnitude) (below : x.magnitude < 10 ^ point)
    (fuel count : Nat) (left : 0 < fuel) (some : 1 ≤ count) (total : fuel + count = 18) :
    ReadsBack x (shortestFrom x point fuel count) := by
  induction fuel generalizing count with
  | zero => omega
  | succ fuel ih =>
    obtain ⟨under, past⟩ := gridBelow_spec x.ratio.1 x.ratio.2 (count - point) (ratio_pos x)
    rw [ratio_value] at under past
    have ten : (0 : ℚ) < 10 ^ ((count : Int) - point) := zpow_pos (by norm_num) _
    generalize grid : gridBelow x.ratio.1 x.ratio.2 (count - point) = digits at under past
    have first : 10 ^ (count - 1) ≤ digits := by
      have scaled := mul_le_mul_of_nonneg_right above ten.le
      rw [← zpow_add₀ (by norm_num), show point - 1 + (count - point) =
        ((count - 1 : Nat) : Int) by omega, zpow_natCast] at scaled
      have : ((10 ^ (count - 1) : Nat) : ℚ) < digits + 1 := by
        push_cast
        linarith
      have : 10 ^ (count - 1) < digits + 1 := by exact_mod_cast this
      omega
    have most : digits < 10 ^ count := by
      have scaled := mul_lt_mul_of_pos_right below ten
      rw [← zpow_add₀ (by norm_num), add_sub_cancel, zpow_natCast] at scaled
      have : (digits : ℚ) < ((10 ^ count : Nat) : ℚ) := by
        push_cast
        linarith
      exact_mod_cast this
    have placed (n : Nat) (choice : n = digits ∨ n = digits + 1)
        (fits : ((ofDecimal false n (-(count - point))).bits == x.bits) = true) :
        ReadsBack x (if n == 10 ^ count then ⟨1, 1, point + 1⟩ else ⟨n, count, point⟩) := by
      refine readsBack_of_grid x point count n some (by omega) low (by omega) (by omega)
        (by omega) ?_
      exact congrArg Binary64.mk (beq_iff_eq.mp fits)
    unfold shortestFrom
    dsimp only
    simp only [Int.ofNat_eq_natCast, grid]
    split
    · next chosen choice =>
      split at choice
      · next fits =>
        obtain rfl := Option.some.inj choice
        exact placed _ (Or.inl rfl) (Bool.and_eq_true_iff.mp fits).1
      · split at choice
        · next fits =>
          obtain rfl := Option.some.inj choice
          exact placed _ (Or.inr rfl) fits
        · cases choice
    · next choice =>
      split at choice
      · cases choice
      split at choice
      · cases choice
      next notLow notNext =>
      -- Past seventeen digits the search does not come.
      by_cases last : fuel = 0
      · obtain rfl : count = 17 := by omega
        have enough := seventeen_enough x finite sign point low high above digits
          (lt_of_lt_of_le (by norm_num) first) most under past
        rcases enough with reads | reads
        · simp only [Nat.cast_ofNat, reads, beq_self_eq_true, Bool.true_and, Bool.not_eq_true,
            Bool.not_eq_false'] at notLow notNext
          have upper := (Bool.and_eq_true_iff.mp notLow).2
          rw [notNext] at upper
          cases upper
        · simp only [Nat.cast_ofNat, reads, beq_self_eq_true, not_true_eq_false] at notNext
      · exact ih (count + 1) (by omega) (by omega) (by omega)

/-- The magnitude of a finite number that is not zero, between powers of two. -/
theorem magnitude_bounds (x : Binary64) (finite : x.isFinite = true) (some : x.mantissa ≠ 0) :
    (2 : ℚ) ^ (-1074 : Int) ≤ x.magnitude ∧ x.magnitude < 2 ^ (1024 : Int) := by
  have field : x.exponentField ≠ 2047 := by simpa [isFinite] using finite
  have few : x.exponentField < 2048 := Nat.mod_lt _ (by norm_num)
  have scale : x.scale ≤ 971 := by
    unfold Binary64.scale
    split
    · norm_num
    · rw [Int.ofNat_eq_natCast]
      omega
  have unit := two_zpow_pos x.scale
  unfold magnitude
  constructor
  · have one : (1 : ℚ) ≤ x.mantissa := by exact_mod_cast Nat.one_le_iff_ne_zero.mpr some
    calc (2 : ℚ) ^ (-1074 : Int) ≤ 2 ^ x.scale :=
      zpow_le_zpow_right₀ (by norm_num) (lowest_le_scale x)
      _ ≤ x.mantissa * 2 ^ x.scale := le_mul_of_one_le_left unit.le one
  · have less : (x.mantissa : ℚ) < 2 ^ (53 : Int) := by exact_mod_cast mantissa_lt x
    calc (x.mantissa : ℚ) * 2 ^ x.scale < 2 ^ (53 : Int) * 2 ^ x.scale :=
      mul_lt_mul_of_pos_right less unit
      _ = 2 ^ (53 + x.scale) := by rw [zpow_add₀ (by norm_num)]
      _ ≤ 2 ^ (1024 : Int) := zpow_le_zpow_right₀ (by norm_num) (by omega)

/-- The shortest digits of a positive finite number read back as it. -/
theorem shortest_readsBack (x : Binary64) (finite : x.isFinite = true) (sign : x.isNegative = false)
    (some : x.mantissa ≠ 0) : ReadsBack x x.shortest := by
  obtain ⟨least, most⟩ := magnitude_bounds x finite some
  have positive : 0 < x.ratio.1 := by
    unfold ratio
    split
    · exact Nat.mul_pos (Nat.pos_of_ne_zero some) (Nat.two_pow_pos _)
    · exact Nat.pos_of_ne_zero some
  obtain ⟨lower, upper⟩ := quotient_bounds x.ratio.1 x.ratio.2 positive (ratio_pos x)
  rw [ratio_value] at lower upper
  have ordered {a b : Int} (less : (2 : ℚ) ^ a < 2 ^ b) : a < b :=
    (zpow_lt_zpow_iff_right₀ (by norm_num)).mp less
  have := ordered (lower.trans most)
  have := ordered (least.trans_lt upper)
  obtain ⟨above, below⟩ := decimalPoint_spec x.ratio.1 x.ratio.2 positive (ratio_pos x) (by omega)
    (by omega)
  rw [ratio_value] at above below
  have tens {a b : Int} (less : (10 : ℚ) ^ a < 10 ^ b) : a < b :=
    (zpow_lt_zpow_iff_right₀ (by norm_num)).mp less
  have high := tens
    ((above.trans_lt most).trans_le (two_zpow_le_ten_zpow 1024 312 (by norm_num) (by norm_num)))
  have low := tens
    (((ten_zpow_le_two_zpow (-327) (-1074) (by norm_num) (by norm_num)).trans least).trans_lt below)
  have itself : x.abs = x := by simp [Binary64.abs, sign]
  unfold shortest
  dsimp only
  rw [itself]
  exact shortestFrom_readsBack x finite sign _ (by omega) (by omega) above below 17 1
    (by norm_num) le_rfl rfl

/-- The magnitude has the bits below the sign bit. -/
theorem abs_bits (x : Binary64) : x.abs.bits.toNat = x.bits.toNat % 2 ^ 63 := by
  have range : x.bits.toNat < 2 ^ 64 := x.bits.toNat_lt
  unfold Binary64.abs neg isNegative
  by_cases sign : 2 ^ 63 ≤ x.bits.toNat
  · simp only [sign, decide_true, if_true, UInt64.toNat_ofNat']
    omega
  · simp only [sign, decide_false, Bool.false_eq_true, if_false]
    omega

theorem abs_isNegative (x : Binary64) : x.abs.isNegative = false := by
  have : x.bits.toNat % 2 ^ 63 < 2 ^ 63 := Nat.mod_lt _ (by norm_num)
  unfold isNegative
  rw [abs_bits, decide_eq_false_iff_not]
  omega

theorem abs_exponentField (x : Binary64) : x.abs.exponentField = x.exponentField := by
  unfold exponentField
  rw [abs_bits]
  omega

theorem abs_fraction (x : Binary64) : x.abs.fraction = x.fraction := by
  unfold fraction
  rw [abs_bits]
  omega

theorem mantissa_ne_zero (x : Binary64) (some : x.isZero = false) : x.mantissa ≠ 0 := by
  have bits : x.bits.toNat % 2 ^ 63 ≠ 0 := by simpa [isZero] using some
  unfold mantissa
  split
  · next field =>
    have : x.exponentField = 0 := by simpa using field
    unfold exponentField at this
    unfold fraction
    omega
  · omega

/-- The sign of a decimal does not touch the magnitude it is read as. -/
theorem ofDecimal_parts (digits : Nat) (exponent : Int) :
    ∃ bits : Nat, ∀ negative : Bool, ofDecimal negative digits exponent =
    ofParts negative bits := by
  have ratio (n d : Nat) : ∃ bits : Nat, ∀ negative : Bool, ofRatio negative n d =
      ofParts negative bits := by
    by_cases zero : (n == 0 || d == 0) = true
    · exact ⟨0, fun negative => by simp only [ofRatio, zero, if_true]⟩
    · exact ⟨_, fun negative => by simp only [ofRatio, zero]; rfl⟩
  by_cases zero : (digits == 0) = true
  · exact ⟨0, fun negative => by simp only [ofDecimal, zero, if_true]⟩
  by_cases large : exponent + Int.ofNat (Nat.log2 digits) * 3 / 10 > 400
  · exact ⟨2047 * 2 ^ 52, fun negative => by simp only [ofDecimal, zero, large, if_true]; rfl⟩
  by_cases small : exponent + Int.ofNat (Nat.log2 digits) / 3 < -450
  · exact ⟨0, fun negative => by simp only [ofDecimal, zero, large, small, Bool.false_eq_true,
      if_false, if_true]⟩
  by_cases whole : exponent ≥ 0
  · obtain ⟨bits, equal⟩ := ratio (digits * 10 ^ exponent.toNat) 1
    exact ⟨bits, fun negative => by simp only [ofDecimal, zero, large, small, whole,
      Bool.false_eq_true, if_false, if_true, equal]⟩
  · obtain ⟨bits, equal⟩ := ratio digits (10 ^ (-exponent).toNat)
    exact ⟨bits, fun negative => by simp only [ofDecimal, zero, large, small, whole,
      Bool.false_eq_true, if_false, equal]⟩

/-- What reads as the magnitude of a number reads as the number with its sign. -/
theorem ofDecimal_sign (x : Binary64) (digits : Nat) (exponent : Int)
    (reads : ofDecimal false digits exponent = x.abs) : ofDecimal x.isNegative digits exponent =
    x := by
  obtain ⟨bits, parts⟩ := ofDecimal_parts digits exponent
  have equal : bits % 2 ^ 64 = x.bits.toNat % 2 ^ 63 := by
    rw [← abs_bits, ← reads, parts]
    simp only [ofParts, Bool.false_eq_true, if_false, UInt64.toNat_ofNat']
  rw [parts]
  conv_rhs => rw [← ofParts_parts x]
  unfold ofParts
  congr 1
  apply UInt64.toNat_inj.mp
  rw [UInt64.toNat_ofNat', UInt64.toNat_ofNat']
  split <;> omega

end Binary64

end PhaseScript
