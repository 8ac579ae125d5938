import PhaseScript.Proofs.Number.Shortest
import PhaseScript.Proofs.Text.Digits
/-
Numbers in JSON texts. Integers and finite floating-point numbers are written as they are spelled
from their parts, and the spelling has the number as its value.
-/
set_option autoImplicit false

namespace PhaseScript.Json

/-- Digits alone, where a zero stands in front of no others. -/
structure WellSpelled (whole fraction : Text) : Prop where
  some : whole ≠ []
  digits : ∀ p ∈ whole, p.isAsciiDigit = true
  zero : ∀ (p : Point) (rest : Text), whole = p :: rest → p.val = 48 → rest = []
  places : ∀ p ∈ fraction, p.isAsciiDigit = true

def signPart (negative : Bool) : Text := if negative then [Point.ofChar '-'] else []

def fractionPart (fraction : Text) : Text := if fraction.isEmpty then [] else Point.ofChar '.' ::
    fraction

def exponentPart : Option Int → Text
  | none => []
  | some exponent => Binary64.exponentText exponent

/-- A number spelled from its parts. -/
def spelled (negative : Bool) (whole fraction : Text) (exponent : Option Int) : Spelling :=
  ⟨signPart negative ++ whole ++ fractionPart fraction ++ exponentPart exponent, negative, whole,
  fraction, exponent⟩

/-- The spelling of an integer. -/
def intSpelling (n : Int) : Spelling := spelled (n < 0) (Text.ofNat n.natAbs) [] none

theorem wellSpelled_ofNat (n : Nat) (fraction : Text) (places : ∀ p ∈ fraction,
    p.isAsciiDigit = true) :
    WellSpelled (Text.ofNat n) fraction where
  some := Text.ofNat_ne_nil n
  digits := Text.isAsciiDigit_of_mem_ofNat n
  zero p rest shape := (Text.ofNat_head n p rest shape).1
  places := places

theorem ofInt_spelled (n : Int) : Text.ofInt n = (intSpelling n).text := by
  have bare (t : Text) : t ++ fractionPart [] ++ exponentPart none = t := by
    simp only [fractionPart, exponentPart, List.isEmpty_nil, if_true, List.append_nil]
  rw [intSpelling, spelled, bare]
  cases n with
  | ofNat n => rfl
  | negSucc n =>
    have sign : decide (Int.negSucc n < 0) = true := decide_eq_true (Int.negSucc_lt_zero n)
    simp only [sign]
    rfl

/-- An integer that may be written has the value that is read. -/
theorem value_intSpelling (n : Int) (few : tooManyDigits n = false) : (intSpelling n).value =
    .ok (.int n) := by
  have length : (Text.ofNat n.natAbs).length ≤ maxDigits := by
    rw [Text.ofNat, List.length_map, maxDigits]
    exact (Nat.length_toDigits_le_iff (by norm_num) (by norm_num)).mpr
      (Nat.lt_of_not_le (of_decide_eq_false few))
  have notMore : ¬ (intSpelling n).whole.length > maxDigits := not_lt.mpr length
  have integer : (intSpelling n).isInteger = true := rfl
  rw [Spelling.value, integer, Bool.not_true, if_neg Bool.false_ne_true, if_neg notMore]
  refine congrArg (fun k => Except.ok (Json.int k)) ?_
  simp only [intSpelling, spelled, digitsValue_ofNat, Int.ofNat_eq_natCast]
  by_cases negative : n < 0
  · rw [if_pos (by simpa using negative)]
    omega
  · rw [if_neg (by simpa using negative)]
    omega

theorem isAsciiDigit_zeros (count : Nat) :
    ∀ p ∈ List.replicate count (Point.ofChar '0'), p.isAsciiDigit = true := by
  intro p member
  rw [List.eq_of_mem_replicate member]
  rfl

/-- How a number that is not an integer is spelled and what it is read as. -/
structure FloatSpelled (x : Binary64) (magnitude whole fraction : Text) (exponent : Option Int) :
    Prop where
  well : WellSpelled whole fraction
  text : magnitude = whole ++ fractionPart fraction ++ exponentPart exponent
  notInteger : (spelled x.isNegative whole fraction exponent).isInteger = false
  reads : floatOf x.isNegative whole fraction (exponent.getD 0) = x

/-- The parts of the digits of a number and the place of the point among them. -/
theorem floatSpelled_split (x : Binary64) (short : ShortDecimal)
    (reads : Binary64.ReadsBack x.abs short) (place : Nat) (some : 0 < place)
    (few : place ≤ short.count) (exponent : Option Int) (kept : place < short.count ∨
    exponent ≠ none) (point : exponent.getD 0 = short.point - place) :
    FloatSpelled x ((Text.ofNat short.digits).take place ++ fractionPart
      ((Text.ofNat short.digits).drop place) ++ exponentPart exponent)
      ((Text.ofNat short.digits).take place) ((Text.ofNat short.digits).drop place) exponent := by
  have length := Text.length_ofNat_eq short.digits short.count reads.some reads.first reads.below
  have digits := Text.isAsciiDigit_of_mem_ofNat short.digits
  refine ⟨⟨?_, fun p member => digits p (List.mem_of_mem_take member), ?_,
    fun p member => digits p (List.mem_of_mem_drop member)⟩, rfl, ?_, ?_⟩
  · rw [Ne, ← List.length_eq_zero_iff, List.length_take]
    omega
  · intro p rest shape zero
    cases whole : Text.ofNat short.digits with
    | nil => exact absurd whole (Text.ofNat_ne_nil _)
    | cons q more =>
      rw [whole, List.take_cons some] at shape
      obtain ⟨rfl, rfl⟩ := List.cons.inj shape
      rw [(Text.ofNat_head _ q more whole).1 zero, List.take_nil]
  · rcases kept with inside | written
    · have : ((Text.ofNat short.digits).drop place).isEmpty = false := by
        rw [List.isEmpty_eq_false_iff, Ne, ← List.length_eq_zero_iff, List.length_drop]
        omega
      simp only [spelled, Spelling.isInteger, this, Bool.false_and]
    · have : exponent.isNone = false := by simpa using Option.isSome_iff_ne_none.mpr written
      simp only [spelled, Spelling.isInteger, this, Bool.and_false]
  · rw [floatOf, List.take_append_drop, digitsValue_ofNat, List.length_drop, length, point]
    refine Binary64.ofDecimal_sign x _ _ ?_
    rw [← reads.reads, Int.ofNat_eq_natCast]
    congr 1
    omega

/-- The digits of a number behind a zero, a point and more zeros. -/
theorem floatSpelled_small (x : Binary64) (short : ShortDecimal)
    (reads : Binary64.ReadsBack x.abs short) (zeros : Nat) (place : short.point = -(zeros : Int)) :
    FloatSpelled x (Text.ofNat 0 ++ fractionPart (List.replicate zeros (Point.ofChar '0') ++
      Text.ofNat short.digits) ++ exponentPart none) (Text.ofNat 0)
      (List.replicate zeros (Point.ofChar '0') ++ Text.ofNat short.digits) none := by
  have length := Text.length_ofNat_eq short.digits short.count reads.some reads.first reads.below
  have some : (List.replicate zeros (Point.ofChar '0') ++ Text.ofNat short.digits).isEmpty =
      false := by
    rw [List.isEmpty_eq_false_iff, Ne, List.append_eq_nil_iff, not_and]
    exact fun _ => Text.ofNat_ne_nil _
  refine ⟨wellSpelled_ofNat 0 _ ?_, rfl, ?_, ?_⟩
  · intro p member
    rcases List.mem_append.mp member with zero | digit
    · exact isAsciiDigit_zeros zeros p zero
    · exact Text.isAsciiDigit_of_mem_ofNat _ p digit
  · simp only [spelled, Spelling.isInteger, some, Bool.false_and]
  · rw [floatOf, digitsValue_append, digitsValue_append, digitsValue_ofNat, digitsValue_ofNat,
      digitsValue_zeros, zero_mul, zero_mul, zero_add, zero_add, List.length_append,
      List.length_replicate, length]
    refine Binary64.ofDecimal_sign x _ _ ?_
    rw [← reads.reads, Option.getD_none, Int.ofNat_eq_natCast]
    congr 1
    omega

/-- The digits of a number, more zeros, and a zero behind the point. -/
theorem floatSpelled_large (x : Binary64) (short : ShortDecimal)
    (reads : Binary64.ReadsBack x.abs short) (zeros : Nat) (place : short.point = short.count +
    zeros) (few : zeros ≤ 20) :
    FloatSpelled x (Text.ofNat short.digits ++ List.replicate zeros (Point.ofChar '0') ++
      fractionPart (Text.ofNat 0) ++ exponentPart none)
      (Text.ofNat short.digits ++ List.replicate zeros (Point.ofChar '0')) (Text.ofNat 0) none := by
  have positive : short.digits ≠ 0 := by
    have := Nat.pow_pos (n := short.count - 1) (show 0 < 10 by norm_num)
    have := reads.first
    omega
  have some : Text.ofNat short.digits ≠ [] := Text.ofNat_ne_nil _
  refine ⟨⟨?_, ?_, ?_, Text.isAsciiDigit_of_mem_ofNat 0⟩, rfl, rfl, ?_⟩
  · rw [Ne, List.append_eq_nil_iff, not_and]
    exact fun nothing => absurd nothing some
  · intro p member
    rcases List.mem_append.mp member with digit | zero
    · exact Text.isAsciiDigit_of_mem_ofNat _ p digit
    · exact isAsciiDigit_zeros zeros p zero
  · intro p rest shape zero
    cases whole : Text.ofNat short.digits with
    | nil => exact absurd whole some
    | cons q more =>
      rw [whole] at shape
      obtain ⟨rfl, _⟩ := List.cons.inj shape
      exact absurd zero ((Text.ofNat_head _ q more whole).2 positive)
  · rw [floatOf, digitsValue_append, digitsValue_append, digitsValue_ofNat, digitsValue_ofNat,
      digitsValue_zeros, add_zero, add_zero, List.length_replicate,
      Text.ofNat_of_lt 0 (by norm_num), List.length_singleton, pow_one, Option.getD_none]
    refine Binary64.ofDecimal_sign x _ _ ?_
    rw [← reads.reads]
    have range : 10 ^ short.count ≤ 10 ^ 17 := Nat.pow_le_pow_right (by norm_num) reads.few
    have below := reads.below
    have grown : 10 ^ zeros ≤ 10 ^ 20 := Nat.pow_le_pow_right (by norm_num) few
    have product : short.digits * 10 ^ zeros ≤ 10 ^ 17 * 10 ^ 20 := Nat.mul_le_mul (by omega) grown
    have := reads.low
    have := reads.high
    have := reads.few
    refine Binary64.ofDecimal_congr false _ _ _ _ ?_ (by omega) (by omega) (by omega) (by norm_num)
      (by norm_num) (by omega) (by omega) ?_
    · have := Nat.mul_pos (Nat.pos_of_ne_zero positive)
        (Nat.pow_pos (n := zeros) (show 0 < 10 by norm_num))
      omega
    · rw [place, add_sub_cancel_left, Binary64.decimalValue, Binary64.decimalValue, zpow_natCast]
      push_cast
      rw [zpow_neg_one, mul_assoc, mul_inv_cancel₀ (by norm_num), mul_one]

theorem fractionPart_of_some {fraction : Text} (some : fraction ≠ []) :
    fractionPart fraction = Point.ofChar '.' :: fraction :=
  if_neg (Bool.not_eq_true _ ▸ List.isEmpty_eq_false_iff.mpr some)

/-- Zero has a text of its own. -/
theorem floatSpelled_zero (x : Binary64) (zero : x.isZero = true) :
    FloatSpelled x "0.0" (Text.ofNat 0) (Text.ofNat 0) none := by
  refine ⟨wellSpelled_ofNat 0 (Text.ofNat 0) (Text.isAsciiDigit_of_mem_ofNat 0), rfl, rfl, ?_⟩
  have bits : x.bits.toNat % 2 ^ 63 = 0 := by simpa [Binary64.isZero] using zero
  have parts := Binary64.ofParts_parts x
  rw [bits] at parts
  exact parts

section

variable (x : Binary64) (short : ShortDecimal) (reads : Binary64.ReadsBack x.abs short)

include reads

/-- A number far from one is written with an exponent, the point behind its first digit. -/
theorem floatSpelled_far :
    let digits := Text.ofNat short.digits
    FloatSpelled x (digits.take 1 ++ (if short.count == 1 then [] else
        Point.ofChar '.' :: digits.drop 1) ++ Binary64.exponentText (short.point - 1))
      (digits.take 1) (digits.drop 1) (some (short.point - 1)) := by
  intro digits
  have length := Text.length_ofNat_eq short.digits short.count reads.some reads.first reads.below
  have fraction : fractionPart (digits.drop 1) =
      if short.count == 1 then [] else Point.ofChar '.' :: digits.drop 1 := by
    by_cases one : short.count = 1
    · rw [if_pos (beq_iff_eq.mpr one), List.drop_eq_nil_of_le (by rw [length, one])]
      rfl
    · have := reads.some
      rw [if_neg (mt beq_iff_eq.mp one), fractionPart_of_some]
      rw [Ne, List.drop_eq_nil_iff, length]
      omega
  rw [← fraction]
  exact floatSpelled_split x short reads 1 (by norm_num) reads.some (some (short.point - 1))
    (.inr (Option.some_ne_none _)) rfl

/-- The point of a number stands in front of its digits. -/
theorem floatSpelled_before (small : short.point ≤ 0) :
    let zeros := List.replicate (-short.point).toNat (Point.ofChar '0')
    FloatSpelled x ("0." ++ zeros ++ Text.ofNat short.digits) (Text.ofNat 0)
      (zeros ++ Text.ofNat short.digits) none := by
  intro zeros
  have spelled := floatSpelled_small x short reads (-short.point).toNat (by omega)
  rw [fractionPart_of_some (List.append_ne_nil_of_right_ne_nil _ (Text.ofNat_ne_nil _)),
    exponentPart, List.append_nil] at spelled
  exact spelled

/-- The point of a number stands among its digits. -/
theorem floatSpelled_among (positive : 0 < short.point) (inside : short.point < short.count) :
    let digits := Text.ofNat short.digits
    FloatSpelled x (digits.take short.point.toNat ++
        Point.ofChar '.' :: digits.drop short.point.toNat)
      (digits.take short.point.toNat) (digits.drop short.point.toNat) none := by
  intro digits
  have length := Text.length_ofNat_eq short.digits short.count reads.some reads.first reads.below
  have some : digits.drop short.point.toNat ≠ [] := by
    rw [Ne, List.drop_eq_nil_iff, length]
    omega
  have spelled := floatSpelled_split x short reads short.point.toNat (by omega) (by omega) none
    (.inl (by omega)) (by rw [Option.getD_none]; omega)
  rw [fractionPart_of_some some, exponentPart, List.append_nil] at spelled
  exact spelled

/-- The point of a number stands behind its digits. -/
theorem floatSpelled_behind (behind : short.count ≤ short.point) (near : short.point ≤ 16) :
    let zeros := List.replicate (short.point - short.count).toNat (Point.ofChar '0')
    FloatSpelled x (Text.ofNat short.digits ++ zeros ++ ".0") (Text.ofNat short.digits ++ zeros)
      (Text.ofNat 0) none := by
  intro zeros
  have spelled := floatSpelled_large x short reads (short.point - short.count).toNat (by omega)
    (by omega)
  rw [exponentPart, List.append_nil] at spelled
  exact spelled

end

/-- A finite number is written as a spelling that it is read from. -/
theorem floatText_spelled (x : Binary64) (finite : x.isFinite = true) :
    ∃ magnitude whole fraction exponent, floatText x = signPart x.isNegative ++ magnitude ∧
      FloatSpelled x magnitude whole fraction exponent := by
  have field : x.exponentField ≠ 2047 := by simpa [Binary64.isFinite] using finite
  have number : x.isNaN = false := by simp [Binary64.isNaN, field]
  have bounded : x.isInfinite = false := by simp [Binary64.isInfinite, field]
  have signed (t : Text) : x.signed t = signPart x.isNegative ++ t := by
    unfold Binary64.signed signPart
    split <;> rfl
  by_cases zero : x.isZero = true
  · refine ⟨_, _, _, _, ?_, floatSpelled_zero x zero⟩
    simp only [floatText, Binary64.text, number, bounded, zero, Bool.false_eq_true, if_false,
      if_true, signed]
  have reads : Binary64.ReadsBack x.abs x.abs.shortest := by
    refine Binary64.shortest_readsBack x.abs ?_ (Binary64.abs_isNegative x) ?_
    · rw [Binary64.isFinite, Binary64.abs_exponentField]
      exact finite
    · unfold Binary64.mantissa
      rw [Binary64.abs_exponentField, Binary64.abs_fraction]
      exact Binary64.mantissa_ne_zero x (Bool.not_eq_true _ ▸ zero)
  simp only [floatText, Binary64.text, number, bounded, zero, Bool.false_eq_true, if_false, signed]
  generalize x.abs.shortest = short at reads
  rw [Text.digits_eq_ofNat short.count short.digits reads.some reads.first reads.below]
  by_cases far : (decide (short.point ≤ -4) || decide (16 < short.point)) = true
  · rw [if_pos far]
    exact ⟨_, _, _, _, rfl, floatSpelled_far x short reads⟩
  rw [if_neg far]
  rw [Bool.or_eq_true, decide_eq_true_eq, decide_eq_true_eq, not_or] at far
  by_cases small : short.point ≤ 0
  · rw [if_pos small]
    exact ⟨_, _, _, _, rfl, floatSpelled_before x short reads small⟩
  rw [if_neg small]
  by_cases inside : short.point < Int.ofNat short.count
  · rw [if_pos inside]
    exact ⟨_, _, _, _, rfl, floatSpelled_among x short reads (by omega) inside⟩
  · rw [if_neg inside]
    exact ⟨_, _, _, _, rfl, floatSpelled_behind x short reads (Int.not_lt.mp inside) (by omega)⟩

/-- The text of a finite number is a spelling. -/
theorem FloatSpelled.spelling {x : Binary64} {magnitude whole fraction : Text}
    {exponent : Option Int} (spelling : FloatSpelled x magnitude whole fraction exponent) :
    signPart x.isNegative ++ magnitude = (spelled x.isNegative whole fraction exponent).text := by
  rw [spelling.text, spelled]
  simp only [List.append_assoc]

/-- What is read from the spelling of a number is the number. -/
theorem FloatSpelled.value {x : Binary64} {magnitude whole fraction : Text} {exponent : Option Int}
    (spelling : FloatSpelled x magnitude whole fraction exponent) :
    (spelled x.isNegative whole fraction exponent).value = .ok (.float x) := by
  rw [Spelling.value, spelling.notInteger, Bool.not_false, if_pos rfl]
  exact congrArg (fun y => Except.ok (Json.float y)) spelling.reads

/-- An integer that may be written has few digits. -/
theorem few_of_written {strict : Bool} (n : Int) (written : writeFault? strict (.int n) = none) :
    tooManyDigits n = false := by
  by_contra other
  simp [writeFault?, other] at written

/-- A number that may be written strictly is finite. -/
theorem finite_of_written (x : Binary64) (written : writeFault? true (.float x) = none) :
    x.isFinite = true := by
  by_contra other
  simp [writeFault?, other] at written

end PhaseScript.Json
