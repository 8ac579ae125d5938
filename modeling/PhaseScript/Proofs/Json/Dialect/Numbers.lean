import Mathlib.Data.List.TakeWhile
import PhaseScript.Proofs.Json.Dialect
import PhaseScript.Proofs.Text.Basic
/-
Numbers of the dialect. What is read as a number is one, and a number is read where something else
follows; what is spelled from the parts of a number is the number.
-/
set_option autoImplicit false

namespace PhaseScript.Json

/-- Whether a text that follows a number does not go on with it. -/
def EndsNumber (rest : Text) : Prop :=
  ∀ p, rest.head? = some p → p.isAsciiDigit = false ∧ p.is '.' = false ∧ p.is 'e' = false ∧
  p.is 'E' = false

theorem endsNumber_cons (p : Point) (rest : Text) (digit : p.isAsciiDigit = false)
    (point : p.is '.' = false) (small : p.is 'e' = false) (capital : p.is 'E' = false) :
    EndsNumber (p :: rest) := by
  intro q head
  obtain rfl := Option.some.inj head
  exact ⟨digit, point, small, capital⟩

theorem endsNumber_nil : EndsNumber [] := by
  intro q head
  cases head

theorem is_of_digit (p : Point) (c : Char) (digit : p.isAsciiDigit = true) (other : c.toNat < 48 ∨
    57 < c.toNat) :
    p.is c = false := by
  simp only [Point.isAsciiDigit, Bool.and_eq_true, decide_eq_true_eq] at digit
  simp only [Point.is, beq_eq_false_iff_ne]
  omega

/-- Digits are taken up to what is none. -/
theorem takeDigits_append (digits rest : Text) (all : ∀ p ∈ digits, p.isAsciiDigit = true)
    (stop : ∀ p, rest.head? = some p → p.isAsciiDigit = false) : takeDigits (digits ++ rest) =
    (digits, rest) := by
  have none_ : rest.takeWhile Point.isAsciiDigit = [] ∧ rest.dropWhile Point.isAsciiDigit =
      rest := by
    cases rest with
    | nil => exact ⟨rfl, rfl⟩
    | cons p more =>
      have := stop p rfl
      simp only [List.takeWhile_cons, List.dropWhile_cons, this, Bool.false_eq_true, if_false,
        and_self]
  rw [takeDigits, List.takeWhile_append_of_pos all, List.dropWhile_append_of_pos all, none_.1,
    none_.2, List.append_nil]

theorem isPrefixOf_of_head (c : Char) (word rest : Text) (p : Point) (other : p.is c = false) :
    List.isPrefixOf (Point.ofChar c :: word) (p :: rest) = false := by
  have notSame : (Point.ofChar c == p) = false := by
    simp only [Point.is, beq_eq_false_iff_ne] at other
    rw [beq_eq_false_iff_ne]
    exact fun equal => other (by rw [← equal]; rfl)
  rw [List.isPrefixOf, notSame, Bool.false_and]

/-- No word begins with a digit, or with a minus and a digit. -/
theorem no_word (negative : Bool) (p : Point) (rest : Text) (digit : p.isAsciiDigit = true) :
    (words.find? fun entry => entry.1.isPrefixOf (signPart negative ++ p :: rest)) = none ∧
      (numberWords.find? fun entry => entry.1.isPrefixOf (signPart negative ++ p :: rest)) =
      none := by
  have no (c : Char) (word : Text) (other : c.toNat < 48 ∨ 57 < c.toNat) :
      ¬ List.isPrefixOf (Point.ofChar c :: word) (p :: rest) = true := by
    rw [isPrefixOf_of_head c word rest p (is_of_digit p c digit other)]
    exact Bool.false_ne_true
  rw [List.find?_eq_none, List.find?_eq_none]
  constructor
  · intro entry member
    simp only [words, List.mem_cons, List.not_mem_nil, or_false] at member
    cases negative with
    | true => rcases member with rfl | rfl | rfl <;> exact Bool.false_ne_true
    | false =>
      rcases member with rfl | rfl | rfl
      · exact no 'n' "ull" (by decide)
      · exact no 't' "rue" (by decide)
      · exact no 'f' "alse" (by decide)
  · intro entry member
    simp only [numberWords, List.mem_cons, List.not_mem_nil, or_false] at member
    cases negative with
    | true =>
      rcases member with rfl | rfl | rfl
      · exact Bool.false_ne_true
      · exact Bool.false_ne_true
      · exact no 'I' "nfinity" (by decide)
    | false =>
      rcases member with rfl | rfl | rfl
      · exact no 'N' "aN" (by decide)
      · exact no 'I' "nfinity" (by decide)
      · exact no '-' "Infinity" (by decide)

/-- A text without the sign of a number. -/
def unsigned (t : Text) : Bool × Text :=
  match t with
  | p :: rest => if p.is '-' then (true, rest) else (false, t)
  | [] => (false, t)

/-- The digits before the point, and what is left: after a zero, the digits that follow it. -/
def wholePart (digits after : Text) : Text × Text :=
  match digits with
  | p :: more => if p.is '0' then ([p], more ++ after) else (digits, after)
  | [] => ([], after)

namespace Dialect

open Grammar (Digits IsDigit)
open Point (is_iff)

theorem isDigit_iff (p : Point) : p.isAsciiDigit = true ↔ IsDigit p := by
  rw [Point.isAsciiDigit, Bool.and_eq_true, decide_eq_true_eq, decide_eq_true_eq]
  rfl

/-- The parts of a number as they are read, one after the other. -/
theorem readNumber_eq (t : Text) : readNumber t =
    let digits := takeDigits (unsigned t).2
    let whole := wholePart digits.1 digits.2
    let fraction := takeFraction whole.2
    let exponent := takeExponent fraction.2
    if whole.1.isEmpty then faultAt .value t
    else .ok (⟨t.take (t.length - exponent.2.length), (unsigned t).1, whole.1, fraction.1,
      exponent.1⟩, exponent.2) := rfl

theorem unsigned_parts (t : Text) : t = signPart (unsigned t).1 ++ (unsigned t).2 := by
  unfold unsigned
  split
  · split
    · next minus =>
      rw [is_iff] at minus
      rw [minus]
      rfl
    · rfl
  · rfl

theorem takeDigits_parts (t : Text) : t = (takeDigits t).1 ++ (takeDigits t).2 ∧
    ∀ p ∈ (takeDigits t).1, IsDigit p :=
  ⟨List.takeWhile_append_dropWhile.symm, fun p among =>
    (isDigit_iff p).mp (List.mem_takeWhile_imp among)⟩

theorem digits_of_takeDigits {t : Text} (some : (takeDigits t).1.isEmpty = false) :
    Digits (takeDigits t).1 :=
  ⟨List.isEmpty_eq_false_iff.mp some, (takeDigits_parts t).2⟩

theorem wholePart_parts {digits : Text} (all : ∀ p ∈ digits, IsDigit p) (after : Text) :
    digits ++ after = (wholePart digits after).1 ++ (wholePart digits after).2 ∧
      ((wholePart digits after).1.isEmpty = false → Grammar.Whole (wholePart digits after).1) := by
  unfold wholePart
  split
  · next p more =>
    split
    · next zero =>
      rw [is_iff] at zero
      rw [zero]
      exact ⟨rfl, fun _ => .zero⟩
    · next notZero =>
      refine ⟨rfl, fun _ => .digits p more ?_ (all p List.mem_cons_self).2 fun q among =>
        all q (List.mem_cons_of_mem p among)⟩
      have : p.val ≠ 0x30 := mt beq_iff_eq.mpr notZero
      have := (all p List.mem_cons_self).1
      omega
  · exact ⟨rfl, nofun⟩

theorem takeFraction_parts (t : Text) :
    ∃ fraction, Places fraction (takeFraction t).1 ∧ t = fraction ++ (takeFraction t).2 := by
  unfold takeFraction
  split
  · next p rest =>
    dsimp only
    split
    · next both =>
      rw [Bool.and_eq_true, is_iff, Bool.not_eq_true'] at both
      refine ⟨_, .point (digits_of_takeDigits both.2), ?_⟩
      rw [both.1, List.cons_append, ← (takeDigits_parts rest).1]
    · exact ⟨[], .absent, rfl⟩
  · exact ⟨[], .absent, rfl⟩

/-- The exponent that the digits behind a letter and a sign give to a text, or none without any. -/
def exponentDigits (t : Text) (negative : Bool) (digits : Text) : Option Int × Text :=
  if (takeDigits digits).1.isEmpty then (none, t)
  else (some (if negative then -Int.ofNat (digitsValue (takeDigits digits).1)
    else Int.ofNat (digitsValue (takeDigits digits).1)), (takeDigits digits).2)

theorem exponentDigits_parts (front digits : Text) (negative : Bool)
    (power : ∀ digits, Digits digits → Power (front ++ digits)
      (some (if negative then -Int.ofNat (digitsValue digits)
        else Int.ofNat (digitsValue digits)))) :
    ∃ exponent, Power exponent (exponentDigits (front ++ digits) negative digits).1 ∧
      front ++ digits = exponent ++ (exponentDigits (front ++ digits) negative digits).2 := by
  unfold exponentDigits
  split
  · exact ⟨[], .absent, rfl⟩
  · next some =>
    refine ⟨_, power _ (digits_of_takeDigits (Bool.not_eq_true _ ▸ some)), ?_⟩
    rw [List.append_assoc, ← (takeDigits_parts digits).1]

theorem takeExponent_parts (t : Text) :
    ∃ exponent, Power exponent (takeExponent t).1 ∧ t = exponent ++ (takeExponent t).2 := by
  unfold takeExponent
  split
  · next e rest =>
    split
    · next letter =>
      have isE : e.val = 0x65 ∨ e.val = 0x45 := by
        rw [Bool.or_eq_true, Point.is, Point.is, beq_iff_eq, beq_iff_eq] at letter
        exact letter
      cases rest with
      | nil => exact ⟨[], .absent, rfl⟩
      | cons sign more =>
        by_cases minus : sign.is '-' = true
        · simp only [minus, if_true]
          obtain rfl := (is_iff _ _).mp minus
          exact exponentDigits_parts [e, Point.ofChar '-'] more true fun _ => .minus isE
        by_cases plus : sign.is '+' = true
        · simp only [minus, plus, if_true]
          obtain rfl := (is_iff _ _).mp plus
          exact exponentDigits_parts [e, Point.ofChar '+'] more false fun _ => .plus isE
        · simp only [minus, plus]
          exact exponentDigits_parts [e] (sign :: more) false fun _ => .bare isE
    · exact ⟨[], .absent, rfl⟩
  · exact ⟨[], .absent, rfl⟩

/-- Parts make the number that has the value of their spelling. -/
theorem number_of_value {text whole fraction places exponent : Text} {negative : Bool}
    {power : Option Int} {v : Json} (rest : Text) (isWhole : Grammar.Whole whole)
    (isPlaces : Places fraction places) (isPower : Power exponent power)
    (value : Spelling.value ⟨text, negative, whole, places, power⟩ = .ok v) :
    Number (signPart negative ++ (whole ++ (fraction ++ (exponent ++ rest)))) v rest := by
  unfold Spelling.value Spelling.isInteger at value
  dsimp only at value
  split at value
  · next inexact =>
    obtain rfl := Except.ok.inj value
    refine .real _ _ isWhole isPlaces isPower ?_
    rw [Bool.not_eq_true', Bool.and_eq_false_iff, List.isEmpty_eq_false_iff,
      ← Option.not_isSome, Bool.not_eq_false', Option.isSome_iff_ne_none] at inexact
    exact inexact
  split at value
  · cases value
  · next isExact few =>
    obtain rfl := Except.ok.inj value
    rw [Bool.not_eq_true', Bool.not_eq_false, Bool.and_eq_true, List.isEmpty_iff,
      Option.isNone_iff_eq_none] at isExact
    obtain ⟨rfl, rfl⟩ := isExact
    have noPlaces : fraction = [] := by
      cases isPlaces with
      | absent => rfl
      | point digits => exact absurd rfl digits.1
    have noPower : exponent = [] := by
      cases isPower
      rfl
    rw [noPlaces, noPower, List.nil_append, List.nil_append]
    exact .integer _ _ isWhole (Nat.le_of_not_gt few)

/-- What is read as a number is one, with the value of its spelling. -/
theorem number_of_readNumber {t rest : Text} {s : Spelling} {v : Json}
    (number : readNumber t = .ok (s, rest)) (value : s.value = .ok v) : Number t v rest := by
  rw [readNumber_eq] at number
  dsimp only at number
  have afterSign := unsigned_parts t
  generalize unsigned t = start at number afterSign
  have digits := takeDigits_parts start.2
  generalize takeDigits start.2 = taken at number digits
  obtain ⟨afterWhole, isWhole⟩ := wholePart_parts digits.2 taken.2
  generalize wholePart taken.1 taken.2 = whole at number afterWhole isWhole
  obtain ⟨fraction, places, afterFraction⟩ := takeFraction_parts whole.2
  generalize takeFraction whole.2 = found at number places afterFraction
  obtain ⟨exponent, power, afterExponent⟩ := takeExponent_parts found.2
  generalize takeExponent found.2 = last at number power afterExponent
  split at number
  · cases number
  next some =>
  have isWhole := isWhole (Bool.not_eq_true _ ▸ some)
  obtain ⟨rfl, rfl⟩ := Prod.mk.inj (Except.ok.inj number)
  have parts : t = signPart start.1 ++ (whole.1 ++ (fraction ++ (exponent ++ last.2))) := by
    rw [afterSign, digits.1, afterWhole, afterFraction, afterExponent]
  rw [parts]
  exact number_of_value _ isWhole places power value

/-- A point goes on with no fraction and no digits. -/
def Stops (t : Text) : Prop := ∀ p, t.head? = some p → p.isAsciiDigit = false

theorem takeDigits_digits {digits after : Text} (all : Digits digits) (stop : Stops after) :
    takeDigits (digits ++ after) = (digits, after) :=
  takeDigits_append digits after (fun p among => (isDigit_iff p).mpr (all.2 p among)) stop

theorem Power.head {exponent rest : Text} {power : Option Int} (isPower : Power exponent power)
    (ends : EndsNumber rest) (p : Point) (head : (exponent ++ rest).head? = some p) :
    p.isAsciiDigit = false ∧ p.is '.' = false := by
  have isE {letter : Point} (e : letter.val = 0x65 ∨ letter.val = 0x45) :
      letter.isAsciiDigit = false ∧ letter.is '.' = false := by
    simp only [Point.isAsciiDigit, Point.is, Bool.and_eq_false_iff, decide_eq_false_iff_not,
      beq_eq_false_iff_ne]
    have : '.'.toNat = 0x2E := rfl
    omega
  cases isPower with
  | absent => exact ⟨(ends p head).1, (ends p head).2.1⟩
  | bare letter _ | plus letter _ | minus letter _ =>
    obtain rfl := Option.some.inj head
    exact isE letter

theorem Places.takeFraction_eq {fraction places after : Text} (isPlaces : Places fraction places)
    (stop : ∀ p, after.head? = some p → p.isAsciiDigit = false ∧ p.is '.' = false) :
    takeFraction (fraction ++ after) = (places, after) := by
  cases isPlaces with
  | absent =>
    cases after with
    | nil => rfl
    | cons p more =>
      simp only [List.nil_append, takeFraction, (stop p rfl).2, Bool.false_and, Bool.false_eq_true,
        if_false]
  | point digits =>
    have point : (Point.ofChar '.').is '.' = true := rfl
    simp only [List.cons_append, takeFraction,
      takeDigits_digits digits fun p head => (stop p head).1, point,
      List.isEmpty_eq_false_iff.mpr digits.1, Bool.not_false, Bool.and_self, if_true]

theorem Power.takeExponent_eq {exponent rest : Text} {power : Option Int}
    (isPower : Power exponent power) (ends : EndsNumber rest) :
    takeExponent (exponent ++ rest) = (power, rest) := by
  have isE {letter : Point} (e : letter.val = 0x65 ∨ letter.val = 0x45) :
      (letter.is 'e' || letter.is 'E') = true := by
    rw [Bool.or_eq_true, Point.is, Point.is, beq_iff_eq, beq_iff_eq]
    exact e
  have stop : Stops rest := fun p head => (ends p head).1
  cases isPower with
  | absent =>
    cases rest with
    | nil => rfl
    | cons p more =>
      obtain ⟨-, -, small, capital⟩ := ends p rfl
      simp only [List.nil_append, takeExponent, small, capital, Bool.or_self, Bool.false_eq_true,
        if_false]
  | @bare letter digits e all =>
    cases digits with
    | nil => exact absurd rfl all.1
    | cons first more =>
      have digit := (isDigit_iff first).mpr (all.2 first List.mem_cons_self)
      have taken := takeDigits_digits all stop
      simp only [List.cons_append, takeExponent, isE e, if_true,
        is_of_digit first '-' digit (by decide), is_of_digit first '+' digit (by decide),
        Bool.false_eq_true, if_false]
      rw [← List.cons_append, taken]
      rfl
  | @plus letter digits e all =>
    have minus : (Point.ofChar '+').is '-' = false := rfl
    have plus : (Point.ofChar '+').is '+' = true := rfl
    simp only [List.cons_append, takeExponent, isE e, if_true, minus, plus, Bool.false_eq_true,
      if_false, takeDigits_digits all stop, List.isEmpty_eq_false_iff.mpr all.1]
  | @minus letter digits e all =>
    have minus : (Point.ofChar '-').is '-' = true := rfl
    simp only [List.cons_append, takeExponent, isE e, if_true, minus, Bool.false_eq_true,
      if_false, takeDigits_digits all stop, List.isEmpty_eq_false_iff.mpr all.1]

theorem whole_head {whole : Text} (isWhole : Grammar.Whole whole) :
    ∃ p more, whole = p :: more ∧ (∀ q ∈ whole, q.isAsciiDigit = true) ∧
      ∀ after, wholePart whole after = (whole, after) := by
  cases isWhole with
  | zero =>
    refine ⟨_, _, rfl, fun q among => ?_, fun _ => rfl⟩
    obtain rfl := List.mem_singleton.mp among
    rfl
  | digits p rest low high all =>
    refine ⟨p, rest, rfl, fun q among => ?_, fun after => ?_⟩
    · rw [isDigit_iff]
      rcases List.mem_cons.mp among with rfl | among
      · exact ⟨by omega, high⟩
      · exact all q among
    · have notZero : ¬ p.is '0' = true := by
        rw [Point.is, beq_iff_eq]
        have : '0'.toNat = 0x30 := rfl
        omega
      rw [wholePart, if_neg notZero]

/-- The parts of a number are read as they are written. -/
theorem readNumber_whole (negative : Bool) {whole fraction places exponent rest : Text}
    {power : Option Int} (isWhole : Grammar.Whole whole) (isPlaces : Places fraction places)
    (isPower : Power exponent power) (ends : EndsNumber rest) :
    ∃ spelling, readNumber (signPart negative ++ (whole ++ (fraction ++ (exponent ++ rest)))) =
      .ok (⟨spelling, negative, whole, places, power⟩, rest) := by
  obtain ⟨p, more, shape, digits, whole_eq⟩ := whole_head isWhole
  have digit := digits p (by rw [shape]; exact List.mem_cons_self)
  have sign : unsigned (signPart negative ++ (whole ++ (fraction ++ (exponent ++ rest)))) =
      (negative, whole ++ (fraction ++ (exponent ++ rest))) := by
    cases negative with
    | true => rfl
    | false =>
      rw [shape]
      exact if_neg (Bool.not_eq_true _ ▸ is_of_digit p '-' digit (by decide))
  have afterPlaces := isPower.head ends
  have stop : Stops (fraction ++ (exponent ++ rest)) := by
    intro q head
    cases isPlaces with
    | absent => exact (afterPlaces q head).1
    | point _ =>
      obtain rfl := Option.some.inj head
      rfl
  rw [readNumber_eq]
  dsimp only
  rw [sign]
  dsimp only
  rw [takeDigits_append whole _ digits stop]
  dsimp only
  rw [whole_eq]
  dsimp only
  rw [isPlaces.takeFraction_eq afterPlaces, isPower.takeExponent_eq ends, shape]
  exact ⟨_, rfl⟩

/-- A number is no word, so that the value of its spelling is read. -/
theorem readScalar_number (negative : Bool) {whole after rest : Text} {s : Spelling} {v : Json}
    (isWhole : Grammar.Whole whole)
    (read : readNumber (signPart negative ++ (whole ++ after)) = .ok (s, rest))
    (value : s.value = .ok v) :
    readScalar Maker.json (signPart negative ++ (whole ++ after)) = .ok (v, rest) := by
  obtain ⟨p, more, rfl, digits, -⟩ := whole_head isWhole
  obtain ⟨noWord, noNumber⟩ := no_word negative p (more ++ after) (digits p List.mem_cons_self)
  rw [List.cons_append] at read ⊢
  unfold readScalar
  rw [noWord, noNumber, read]
  simp only [orRefuse, Maker.json, value, bind, Except.bind, pure, Except.pure]

/-- A number is read as a scalar, where something else follows. -/
theorem Number.readScalar_eq {t rest : Text} {v : Json} (number : Number t v rest)
    (ends : EndsNumber rest) : readScalar Maker.json t = .ok (v, rest) := by
  cases number with
  | @integer negative whole rest isWhole few =>
    obtain ⟨spelling, read⟩ := readNumber_whole negative isWhole .absent .absent ends
    refine readScalar_number negative isWhole read ?_
    have exact_ : Spelling.isInteger ⟨spelling, negative, whole, [], none⟩ = true := rfl
    rw [Spelling.value, exact_, Bool.not_true, if_neg Bool.false_ne_true,
      if_neg (Nat.not_lt.mpr few)]
  | @real negative whole fraction places exponent power rest isWhole isPlaces isPower inexact =>
    obtain ⟨spelling, read⟩ := readNumber_whole negative isWhole isPlaces isPower ends
    refine readScalar_number negative isWhole read ?_
    have inexact_ : Spelling.isInteger ⟨spelling, negative, whole, places, power⟩ = false := by
      rw [Spelling.isInteger, Bool.and_eq_false_iff, List.isEmpty_eq_false_iff,
        ← Option.not_isSome, Bool.not_eq_false', Option.isSome_iff_ne_none]
      exact inexact
    rw [Spelling.value, inexact_, Bool.not_false, if_pos rfl]

/-- A number begins with a digit, or with a minus and a digit. -/
theorem Number.head {t rest : Text} {v : Json} (number : Number t v rest) :
    ∃ negative p more, p.isAsciiDigit = true ∧ t = signPart negative ++ p :: more ∧
      rest.length ≤ more.length := by
  cases number with
  | integer negative rest isWhole _ =>
    obtain ⟨p, more, rfl, digits, -⟩ := whole_head isWhole
    refine ⟨negative, p, more ++ rest, digits p List.mem_cons_self, rfl, ?_⟩
    rw [List.length_append]
    omega
  | @real negative whole fraction places exponent power rest isWhole _ _ _ =>
    obtain ⟨p, more, rfl, digits, -⟩ := whole_head isWhole
    refine ⟨negative, p, more ++ (fraction ++ (exponent ++ rest)), digits p List.mem_cons_self, rfl,
      ?_⟩
    simp only [List.length_append]
    omega

theorem places_fractionPart {fraction : Text} (digits : ∀ p ∈ fraction, p.isAsciiDigit = true) :
    Places (fractionPart fraction) fraction := by
  cases fraction with
  | nil => exact .absent
  | cons p more =>
    exact .point ⟨List.cons_ne_nil _ _, fun q among => (isDigit_iff q).mp (digits q among)⟩

theorem power_exponentPart (exponent : Option Int) : Power (exponentPart exponent) exponent := by
  cases exponent with
  | none => exact .absent
  | some exponent =>
    have letter : (Point.ofChar 'e').val = 0x65 ∨ (Point.ofChar 'e').val = 0x45 := .inl rfl
    have digits := Grammar.digits_digits 2 exponent.natAbs
    have value := digitsValue_digits 2 exponent.natAbs
    by_cases negative : exponent < 0
    · have power := Power.minus letter digits
      have same : -Int.ofNat exponent.natAbs = exponent := by
        rw [Int.ofNat_eq_natCast]
        omega
      rw [value, same] at power
      rw [exponentPart, Binary64.exponentText, if_pos negative]
      exact power
    · have power := Power.plus letter digits
      have same : Int.ofNat exponent.natAbs = exponent := by
        rw [Int.ofNat_eq_natCast]
        omega
      rw [value, same] at power
      rw [exponentPart, Binary64.exponentText, if_neg negative]
      exact power

/-- What is well spelled is a number, with the value of its spelling. -/
theorem number_of_spelled {negative : Bool} {whole fraction : Text} {exponent : Option Int}
    {v : Json} (well : WellSpelled whole fraction)
    (value : (spelled negative whole fraction exponent).value = .ok v) (rest : Text) :
    Number ((spelled negative whole fraction exponent).text ++ rest) v rest := by
  have number := number_of_value rest (Grammar.whole_of_wellSpelled well)
    (places_fractionPart well.places) (power_exponentPart exponent) value
  simpa only [spelled, List.append_assoc] using number

end Dialect

end PhaseScript.Json
