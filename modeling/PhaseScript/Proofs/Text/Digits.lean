import Mathlib.Tactic.IntervalCases
import Mathlib.Tactic.Ring
import PhaseScript.Json.Reader
import PhaseScript.Json.Writer
import PhaseScript.Number.Reading
/-
The digits of numbers: what the digits of a text spell, and that they spell the number they were
written for.
-/
set_option autoImplicit false

namespace PhaseScript

/-- The point of a digit. -/
def digitPoint (n : Nat) : Point := Point.ofChar n.digitChar

theorem val_digitPoint (n : Nat) (small : n < 10) : (digitPoint n).val = 48 + n :=
  Nat.toNat_digitChar_of_lt_ten small

theorem isAsciiDigit_digitPoint (n : Nat) (small : n < 10) : (digitPoint n).isAsciiDigit =
    true := by
  rw [Point.isAsciiDigit, val_digitPoint n small, Bool.and_eq_true, decide_eq_true_eq,
    decide_eq_true_eq]
  omega

theorem asciiDigit?_digitPoint (n : Nat) (small : n < 16) : (digitPoint n).asciiDigit? =
    some n := by
  interval_cases n <;> rfl

namespace Text

theorem ofNat_of_lt (n : Nat) (small : n < 10) : ofNat n = [digitPoint n] := by
  rw [ofNat, Nat.toDigits_of_lt_base small, List.map_singleton, digitPoint]

/-- The last digit stands behind the others. -/
theorem ofNat_of_le (n : Nat) (large : 10 ≤ n) : ofNat n = ofNat (n / 10) ++
    [digitPoint (n % 10)] := by
  rw [ofNat, Nat.toDigits_of_base_le (by norm_num) large, List.map_append, List.map_singleton,
    digitPoint, ofNat]

theorem ofNat_ne_nil (n : Nat) : ofNat n ≠ [] := by
  rw [ofNat, Ne, List.map_eq_nil_iff]
  exact Nat.toDigits_ne_nil

/-- All that is written for a number is digits. -/
theorem isAsciiDigit_of_mem_ofNat (n : Nat) (p : Point) (member : p ∈ ofNat n) : p.isAsciiDigit =
    true := by
  induction n using Nat.strong_induction_on with
  | _ n ih =>
    by_cases small : n < 10
    · rw [ofNat_of_lt n small, List.mem_singleton] at member
      rw [member]
      exact isAsciiDigit_digitPoint n small
    · rw [ofNat_of_le n (by omega), List.mem_append, List.mem_singleton] at member
      rcases member with front | last
      · exact ih (n / 10) (by omega) front
      · rw [last]
        exact isAsciiDigit_digitPoint _ (Nat.mod_lt _ (by norm_num))

/-- Digits and how many they are. -/
theorem length_ofNat_le (n count : Nat) (some : 0 < count) : (ofNat n).length ≤ count ↔
    n < 10 ^ count := by
  rw [ofNat, List.length_map]
  exact Nat.length_toDigits_le_iff (by norm_num) some

theorem length_ofNat_eq (n count : Nat) (some : 1 ≤ count) (low : 10 ^ (count - 1) ≤ n)
    (high : n < 10 ^ count) :
    (ofNat n).length = count := by
  have most := (length_ofNat_le n count some).mpr high
  by_contra fewer
  by_cases one : count = 1
  · have := List.length_pos_iff.mpr (ofNat_ne_nil n)
    omega
  · have := (length_ofNat_le n (count - 1) (by omega)).mp (by omega)
    omega

/-- No zero stands in front of other digits. -/
theorem ofNat_head (n : Nat) (p : Point) (rest : Text) (shape : ofNat n = p :: rest) :
    (p.val = 48 → rest = []) ∧ (n ≠ 0 → p.val ≠ 48) := by
  induction n using Nat.strong_induction_on generalizing rest with
  | _ n ih =>
    by_cases small : n < 10
    · rw [ofNat_of_lt n small] at shape
      obtain ⟨rfl, rfl⟩ := List.cons.inj shape
      rw [val_digitPoint n small]
      exact ⟨fun _ => rfl, by omega⟩
    · rw [ofNat_of_le n (by omega)] at shape
      cases front : ofNat (n / 10) with
      | nil => exact absurd front (ofNat_ne_nil _)
      | cons q more =>
        rw [front] at shape
        obtain ⟨rfl, _⟩ := List.cons.inj shape
        have notZero := (ih (n / 10) (by omega) more front).2 (by omega)
        exact ⟨fun zero => absurd zero notZero, fun _ => notZero⟩

end Text

namespace Json

theorem digitsValue_append (a b : Text) : digitsValue (a ++ b) = digitsValue a * 10 ^ b.length +
    digitsValue b := by
  have from_ (start : Nat) : b.foldl (fun n p => n * 10 + (p.val - 48)) start =
      start * 10 ^ b.length + b.foldl (fun n p => n * 10 + (p.val - 48)) 0 := by
    induction b generalizing start with
    | nil => simp
    | cons p rest ih =>
      rw [List.foldl_cons, List.foldl_cons, ih, ih (0 * 10 + (p.val - 48)), List.length_cons,
        pow_succ]
      ring
  rw [digitsValue, List.foldl_append, from_]
  rfl

theorem digitsValue_singleton (n : Nat) (small : n < 10) : digitsValue [digitPoint n] = n := by
  simp only [digitsValue, List.foldl_cons, List.foldl_nil, val_digitPoint n small]
  omega

/-- Digits spell the number they were written for. -/
theorem digitsValue_ofNat (n : Nat) : digitsValue (Text.ofNat n) = n := by
  induction n using Nat.strong_induction_on with
  | _ n ih =>
    by_cases small : n < 10
    · rw [Text.ofNat_of_lt n small, digitsValue_singleton n small]
    · rw [Text.ofNat_of_le n (by omega), digitsValue_append, ih (n / 10) (by omega),
        digitsValue_singleton _ (Nat.mod_lt _ (by norm_num)), List.length_singleton, pow_one]
      omega

theorem digitsValue_zeros (count : Nat) : digitsValue (List.replicate count (Point.ofChar '0')) =
    0 := by
  induction count with
  | zero => rfl
  | succ count ih =>
    rw [List.replicate_succ', digitsValue_append, ih]
    rfl

theorem digitsValue_digits (count n : Nat) : digitsValue (Text.digits count n) = n := by
  rw [Text.digits, Text.padLeft, digitsValue_append, digitsValue_zeros, digitsValue_ofNat, zero_mul,
    zero_add]

end Json

namespace Text

theorem ofNat_injective : Function.Injective ofNat := fun m n same => by
  rw [← Json.digitsValue_ofNat m, same, Json.digitsValue_ofNat]

theorem isAsciiDigit_of_mem_digits (count n : Nat) (p : Point) (member : p ∈ digits count n) :
    p.isAsciiDigit = true := by
  rw [digits, padLeft, List.mem_append] at member
  rcases member with zero | digit
  · rw [List.eq_of_mem_replicate zero]
    rfl
  · exact isAsciiDigit_of_mem_ofNat n p digit

theorem digits_eq_ofNat (count n : Nat) (some : 1 ≤ count) (low : 10 ^ (count - 1) ≤ n)
    (high : n < 10 ^ count) :
    digits count n = ofNat n := by
  rw [digits, padLeft, length_ofNat_eq n count some low high, Nat.sub_self, List.replicate_zero,
    List.nil_append]

theorem ofNatBase_of_lt (n : Nat) (small : n < 16) : ofNatBase 16 n = [digitPoint n] := by
  rw [ofNatBase, Nat.toDigits_of_lt_base small, List.map_singleton, digitPoint]

theorem ofNatBase_of_le (n : Nat) (large : 16 ≤ n) :
    ofNatBase 16 n = ofNatBase 16 (n / 16) ++ [digitPoint (n % 16)] := by
  rw [ofNatBase, Nat.toDigits_of_base_le (by norm_num) large, List.map_append, List.map_singleton,
    digitPoint, ofNatBase]

/-- The four hexadecimal digits of a number below `16 ^ 4`. -/
theorem hex_four (n : Nat) (small : n < 0x10000) :
    hex 4 n = [digitPoint (n / 4096), digitPoint (n / 256 % 16), digitPoint (n / 16 % 16),
    digitPoint (n % 16)] := by
  have zero : Point.ofChar '0' = digitPoint 0 := rfl
  rw [hex, padLeft, zero]
  rcases Nat.lt_or_ge n 16 with one | one
  · rw [ofNatBase_of_lt n one, Nat.div_eq_of_lt (show n < 4096 by omega),
      Nat.div_eq_of_lt (show n < 256 by omega), Nat.div_eq_of_lt one, Nat.mod_eq_of_lt one]
    rfl
  rw [ofNatBase_of_le n one]
  rcases Nat.lt_or_ge n 256 with two | two
  · rw [ofNatBase_of_lt (n / 16) (by omega), Nat.div_eq_of_lt (show n < 4096 by omega),
      Nat.div_eq_of_lt two, Nat.mod_eq_of_lt (show n / 16 < 16 by omega)]
    rfl
  rw [ofNatBase_of_le (n / 16) (by omega)]
  rcases Nat.lt_or_ge n 4096 with three | three
  · rw [ofNatBase_of_lt (n / 16 / 16) (by omega), Nat.div_eq_of_lt three, Nat.div_div_eq_div_mul,
      Nat.mod_eq_of_lt (show n / 256 < 16 by omega)]
    rfl
  · rw [ofNatBase_of_le (n / 16 / 16) (by omega), ofNatBase_of_lt (n / 16 / 16 / 16) (by omega),
      Nat.div_div_eq_div_mul, Nat.div_div_eq_div_mul, Nat.div_div_eq_div_mul]
    rfl

end Text

/-- Four hexadecimal digits spell the number they were written for. -/
theorem Json.hexFour?_hex (n : Nat) (rest : Text) (small : n < 0x10000) :
    Json.hexFour? (Text.hex 4 n ++ rest) = some (n, rest) := by
  have first : n / 4096 < 16 := by omega
  have second : n / 256 % 16 < 16 := Nat.mod_lt _ (by norm_num)
  have third : n / 16 % 16 < 16 := Nat.mod_lt _ (by norm_num)
  have fourth : n % 16 < 16 := Nat.mod_lt _ (by norm_num)
  rw [Text.hex_four n small]
  simp only [List.cons_append, List.nil_append, Json.hexFour?, asciiDigit?_digitPoint _ first,
    asciiDigit?_digitPoint _ second, asciiDigit?_digitPoint _ third,
    asciiDigit?_digitPoint _ fourth, first, second, third, fourth, decide_true, Bool.and_self,
    if_true, Option.some.injEq, Prod.mk.injEq, and_true]
  omega

namespace Text

/-- The points of numbers as they are written: digits, and a sign before them. -/
def IsNumeral (p : Point) : Prop := p.isAsciiDigit = true ∨ p = Point.ofChar '-'

theorem isNumeral_of_mem_ofInt (n : Int) (p : Point) (among : p ∈ ofInt n) : IsNumeral p := by
  cases n with
  | ofNat n => exact .inl (isAsciiDigit_of_mem_ofNat n p among)
  | negSucc n =>
    rcases List.mem_cons.mp among with rfl | behind
    · exact .inr rfl
    · exact .inl (isAsciiDigit_of_mem_ofNat (n + 1) p behind)

theorem asciiDigit_iff (p : Point) : p.isAsciiDigit = true ↔ 48 ≤ p.val ∧ p.val ≤ 57 := by
  rw [Point.isAsciiDigit, Bool.and_eq_true, decide_eq_true_eq, decide_eq_true_eq]

/-- A numeral is no blank, so that nothing is stripped. -/
theorem strip_of_isNumeral {t : Text} (all : ∀ p ∈ t, IsNumeral p) : strip t = t := by
  have none (row : Text) (all : ∀ p ∈ row, IsNumeral p) : row.dropWhile Point.isBlank = row := by
    cases row with
    | nil => rfl
    | cons p rest =>
      have notBlank : p.isBlank = false := by
        rcases all p List.mem_cons_self with digit | rfl
        · rw [asciiDigit_iff] at digit
          simp only [Point.isBlank, Bool.or_eq_false_iff, Bool.and_eq_false_iff,
            decide_eq_false_iff_not, beq_eq_false_iff_ne]
          omega
        · rfl
      rw [List.dropWhile_cons, notBlank]
      rfl
  have back := none t.reverse fun p among => all p (List.mem_reverse.mp among)
  rw [strip, stripBy, none t all, dropEndWhile, back, List.reverse_reverse]

/-- The digits of ASCII are plain already. -/
theorem withPlainDigits_of_isNumeral {t : Text} (all : ∀ p ∈ t, IsNumeral p) :
    withPlainDigits t = t := by
  refine (List.map_congr_left fun p among => ?_).trans (List.map_id t)
  rcases all p among with digit | rfl
  · have bounds := (asciiDigit_iff p).mp digit
    have value : p.decimal? = some (p.val - 48) := by
      rw [Point.decimal?, if_pos (by omega), if_pos digit]
    rw [value]
    have same : 48 + (p.val - 48) = p.val := by omega
    exact Fin.ext ((Point.val_ofNat _ (by omega)).trans same)
  · rfl

/-- Digits have their values one by one. -/
theorem digitValues?_eq {p : Point} {rest : Text}
    (all : ∀ q ∈ p :: rest, q.isAsciiDigit = true) :
    digitValues? 10 (p :: rest) = some ((p :: rest).map fun q => q.val - 48) := by
  have one {q : Point} (digit : q.isAsciiDigit = true) :
      digitValues?.digit 10 q = some (q.val - 48) ∧ q.is '_' = false := by
    rw [asciiDigit_iff] at digit
    have value : q.asciiDigit? = some (q.val - 48) := by
      rw [Point.asciiDigit?, if_pos (by simpa using digit)]
    refine ⟨?_, ?_⟩
    · rw [digitValues?.digit, value, Option.bind_some, if_pos (by omega)]
    · rw [Point.is, beq_eq_false_iff_ne]
      change q.val ≠ 95
      omega
  have row : digitValues?.go 10 p rest = some ((p :: rest).map fun q => q.val - 48) := by
    induction rest generalizing p with
    | nil => rw [digitValues?.go, (one (all p List.mem_cons_self)).1]; rfl
    | cons q rest ih =>
      have first := one (all p List.mem_cons_self)
      rw [digitValues?.go, first.2, if_neg Bool.false_ne_true, first.1,
        ih fun r among => all r (List.mem_cons_of_mem _ among)]
      rfl
  rw [digitValues?, (one (all p List.mem_cons_self)).2, if_neg Bool.false_ne_true, row]

/-- A number has no zero in front by which its base might be told. -/
theorem splitBase_ofNat (n : Nat) : splitBase 10 (ofNat n) = (10, ofNat n) := by
  unfold splitBase
  split
  · next z letter rest shape =>
    have zero : ¬ z.is '0' = true := fun isZero =>
      List.cons_ne_nil _ _ ((ofNat_head n z (letter :: rest) shape).1 (beq_iff_eq.mp isZero))
    rw [if_neg zero]
    rfl
  · rfl

theorem takeSign_ofNat (n : Nat) : takeSign (ofNat n) = (false, ofNat n) := by
  cases shape : ofNat n with
  | nil => rfl
  | cons p rest =>
    have digit := isAsciiDigit_of_mem_ofNat n p (shape ▸ List.mem_cons_self)
    rw [asciiDigit_iff] at digit
    have sign (c : Char) (low : c.toNat < 48) : ¬ p.is c = true := fun isSign => by
      have same := beq_iff_eq.mp isSign
      omega
    rw [takeSign, if_neg (sign '-' (by decide)), if_neg (sign '+' (by decide))]

/-- An integer is read as it was written, if it has not too many digits. -/
theorem readInt_ofInt (n : Int) (few : n.natAbs < 10 ^ 4300) : readInt 10 (ofInt n) = .ok n := by
  have numeral := isNumeral_of_mem_ofInt n
  have digits (k : Nat) (few : k < 10 ^ 4300) (negative : Bool)
      (body : takeSign (ofInt n) = (negative, ofNat k)) :
      readInt 10 (ofInt n) = .ok (if negative then -Int.ofNat k else Int.ofNat k) := by
    have length := (length_ofNat_le k 4300 (by decide)).mpr few
    have spelled := Json.digitsValue_ofNat k
    simp only [readInt, strip_of_isNumeral numeral, withPlainDigits_of_isNumeral numeral, body,
      splitBase_ofNat]
    cases shape : ofNat k with
    | nil => exact absurd shape (ofNat_ne_nil k)
    | cons p rest =>
      rw [shape] at length spelled
      rw [digitValues?_eq fun q among => isAsciiDigit_of_mem_ofNat k q (shape ▸ among)]
      have sum : ((p :: rest).map fun q => q.val - 48).foldl (fun n d => n * 10 + d) 0 = k := by
        rw [List.foldl_map]
        exact spelled
      have fits : ¬ (([2, 4, 8, 16, 32].contains 10 == false &&
          decide (4300 < ((p :: rest).map fun q => q.val - 48).length)) = true) := by
        rw [List.length_map, Bool.and_eq_true, decide_eq_true_eq]
        exact fun many => Nat.not_lt.mpr length many.2
      dsimp only
      rw [if_neg fits, sum]
      rfl
  cases n with
  | ofNat n => exact digits n few false (takeSign_ofNat n)
  | negSucc n => exact digits (n + 1) few true rfl

end Text

end PhaseScript
