import Mathlib.Data.List.TakeWhile
import PhaseScript.Text.Encoding
/-
Texts in octets. In every encoding each scalar value is spelled by octets that are read as that
point, whatever comes after them, so a text is read as it was written. A message that begins with
two characters of ASCII tells by its first octets which encoding it is in, with a mark or without.
-/
set_option autoImplicit false

namespace PhaseScript

namespace Text

/-- Printable ASCII alone. -/
def Printable (t : Text) : Prop := ∀ p ∈ t, 32 ≤ p.val ∧ p.val < 127

/-- The check of each character, for texts that are known. -/
theorem printable_of_all (t : Text) (all : (t.all fun p => 32 ≤ p.val && p.val < 127) = true) :
    t.Printable := by
  intro p among
  have checked := List.all_eq_true.mp all p among
  rwa [Bool.and_eq_true, decide_eq_true_eq, decide_eq_true_eq] at checked

theorem printable_nil : Printable [] := fun _ among => nomatch among

theorem printable_append {a b : Text} : Printable (a ++ b) ↔ Printable a ∧ Printable b :=
    List.forall_mem_append

theorem printable_cons {p : Point} {t : Text} : Printable (p :: t) ↔ (32 ≤ p.val ∧ p.val < 127) ∧
    Printable t :=
  List.forall_mem_cons

theorem isScalar_of_printable {t : Text} (printable : Printable t) : t.isScalar = true := by
  refine List.all_eq_true.mpr fun p among => ?_
  have small := (printable p among).2
  simp only [Point.isSurrogate, Bool.not_eq_true', Bool.and_eq_false_iff, decide_eq_false_iff_not]
  omega

end Text

/-- A text that begins with two characters of ASCII, neither of which is zero. -/
def Text.Opens (t : Text) : Prop :=
  ∃ p q rest, t = p :: q :: rest ∧ (0 < p.val ∧ p.val < 128) ∧ 0 < q.val ∧ q.val < 128

namespace Point

theorem scalar_iff (p : Point) : p.isSurrogate = false ↔ p.val < 0xD800 ∨ 0xE000 ≤ p.val := by
  simp only [isSurrogate, Bool.and_eq_false_iff, decide_eq_false_iff_not]
  omega

theorem ofNat_eq {p : Point} {n : Nat} (same : n = p.val) : ofNat n = p := by
  subst same
  exact Fin.ext (val_ofNat p.val p.isLt)

end Point

namespace Utf8

/-- Octets that may come after the first one of a character. -/
theorem isTail_iff (b : UInt8) : isTail b = true ↔ 0x80 ≤ b.toNat ∧ b.toNat < 0xC0 := by
  simp only [isTail, Bool.and_eq_true, decide_eq_true_eq, UInt8.le_iff_toNat_le,
    UInt8.reduceToNat]
  omega

theorem secondFits_iff (a b : UInt8) : secondFits a b = true ↔ (0x80 ≤ b.toNat ∧ b.toNat < 0xC0) ∧
    (a.toNat = 0xE0 → 0xA0 ≤ b.toNat) ∧ (a.toNat = 0xED → b.toNat < 0xA0) ∧
    (a.toNat = 0xF0 → 0x90 ≤ b.toNat) ∧ (a.toNat = 0xF4 → b.toNat < 0x90) := by
  simp only [secondFits, Bool.and_eq_true, isTail_iff, Bool.not_eq_true', Bool.and_eq_false_iff,
    beq_eq_false_iff_ne, decide_eq_false_iff_not, UInt8.le_iff_toNat_le, UInt8.lt_iff_toNat_lt,
    ne_eq, ← UInt8.toNat_inj, UInt8.reduceToNat]
  omega

/-- The first octet of a character of two octets or more. -/
theorem starts {a : UInt8} (lead : 0xC2 ≤ a.toNat) (lead' : a.toNat < 0xF5) :
    ¬ a < 0x80 ∧ ¬ (decide (a < 0xC2) || decide (0xF5 ≤ a)) = true := by
  simp only [Bool.or_eq_true, decide_eq_true_eq, UInt8.le_iff_toNat_le, UInt8.lt_iff_toNat_lt,
    UInt8.reduceToNat]
  omega

theorem next_two {a b : UInt8} (rest : Bytes) (lead : 0xC2 ≤ a.toNat) (two : a.toNat < 0xE0)
    (fits : secondFits a b = true) :
    next (a :: b :: rest) = .point (Point.ofNat (a.toNat % 32 * 64 + tailBits b)) 2 := by
  have low : a < 0xE0 := UInt8.lt_iff_toNat_lt.mpr two
  obtain ⟨single, none⟩ := starts lead (by omega)
  simp only [next, if_neg single, if_neg none, fits, if_pos low, Bool.not_true, Bool.false_eq_true,
    if_false]

theorem next_three {a b c : UInt8} (rest : Bytes) (lead : 0xE0 ≤ a.toNat) (three : a.toNat < 0xF0)
    (fits : secondFits a b = true) (tail : isTail c = true) : next (a :: b :: c :: rest) =
      .point (Point.ofNat (a.toNat % 16 * 4096 + tailBits b * 64 + tailBits c)) 3 := by
  have high : ¬ a < 0xE0 := fun low => by
    rw [UInt8.lt_iff_toNat_lt] at low
    exact Nat.not_le.mpr low lead
  have low : a < 0xF0 := UInt8.lt_iff_toNat_lt.mpr three
  obtain ⟨single, none⟩ := starts (a := a) (by omega) (by omega)
  simp only [next, if_neg single, if_neg none, fits, tail, if_neg high, if_pos low, Bool.not_true,
    Bool.false_eq_true, if_false]

theorem next_four {a b c d : UInt8} (rest : Bytes) (lead : 0xF0 ≤ a.toNat) (four : a.toNat < 0xF5)
    (fits : secondFits a b = true) (tail : isTail c = true) (tail' : isTail d = true) :
    next (a :: b :: c :: d :: rest) =
      .point (Point.ofNat (a.toNat % 8 * 262144 + tailBits b * 4096 + tailBits c * 64
        + tailBits d)) 4 := by
  have high : ¬ a < 0xF0 := fun low => by
    rw [UInt8.lt_iff_toNat_lt] at low
    exact Nat.not_le.mpr low lead
  have higher : ¬ a < 0xE0 := fun low => by
    rw [UInt8.lt_iff_toNat_lt] at low high
    exact high (Nat.lt_trans low (by decide))
  obtain ⟨single, none⟩ := starts (a := a) (by omega) four
  simp only [next, if_neg single, if_neg none, fits, tail, tail', if_neg high, if_neg higher,
    Bool.not_true, Bool.false_eq_true, if_false]

theorem toNat_small {n : Nat} (small : n < 256) : (UInt8.ofNat n).toNat = n := by
  rw [UInt8.toNat_ofNat', Nat.mod_eq_of_lt small]

/-- The octets of a scalar value are read as that value, whatever comes after them. -/
theorem next_encodePoint (p : Point) (scalar : p.isSurrogate = false) (rest : Bytes) :
    next (encodePoint p ++ rest) = .point p (encodePoint p).length := by
  have bound := p.isLt
  have noSurrogate := p.scalar_iff.mp scalar
  simp only [encodePoint]
  split
  · next one =>
    have low : UInt8.ofNat p.val < 0x80 := by
      rw [UInt8.lt_iff_toNat_lt, toNat_small (by omega)]
      exact one
    have back := toNat_small (n := p.val) (by omega)
    simp only [List.cons_append, List.nil_append, next, if_pos low, back]
    rw [Point.ofNat_eq rfl]
    rfl
  split
  · next one two =>
    have lead := toNat_small (n := 0xC0 + p.val / 64) (by omega)
    have second := toNat_small (n := 0x80 + p.val % 64) (by omega)
    refine (next_two _ (by omega) (by omega) ((secondFits_iff _ _).mpr (by omega))).trans ?_
    rw [tailBits, lead, second, Point.ofNat_eq (p := p) (by omega)]
    rfl
  split
  · next one two three =>
    have lead := toNat_small (n := 0xE0 + p.val / 4096) (by omega)
    have second := toNat_small (n := 0x80 + p.val / 64 % 64) (by omega)
    have third := toNat_small (n := 0x80 + p.val % 64) (by omega)
    refine (next_three _ (by omega) (by omega) ((secondFits_iff _ _).mpr (by omega))
      ((isTail_iff _).mpr (by omega))).trans ?_
    rw [tailBits, tailBits, lead, second, third, Point.ofNat_eq (p := p) (by omega)]
    rfl
  · next one two three =>
    have lead := toNat_small (n := 0xF0 + p.val / 262144) (by omega)
    have second := toNat_small (n := 0x80 + p.val / 4096 % 64) (by omega)
    have third := toNat_small (n := 0x80 + p.val / 64 % 64) (by omega)
    have fourth := toNat_small (n := 0x80 + p.val % 64) (by omega)
    refine (next_four _ (by omega) (by omega) ((secondFits_iff _ _).mpr (by omega))
      ((isTail_iff _).mpr (by omega)) ((isTail_iff _).mpr (by omega))).trans ?_
    rw [tailBits, tailBits, tailBits, lead, second, third, fourth,
      Point.ofNat_eq (p := p) (by omega)]
    rfl

theorem encodePoint_length_pos (p : Point) : 0 < (encodePoint p).length := by
  simp only [encodePoint]
  repeat' split
  all_goals exact Nat.succ_pos _

theorem nextLenient_encodePoint (p : Point) (scalar : p.isSurrogate = false) (rest : Bytes) :
    nextLenient (encodePoint p ++ rest) = .point p (encodePoint p).length := by
  rw [nextLenient, next_encodePoint p scalar]

/-- The octet of a printable character. -/
def octet (p : Point) : UInt8 := UInt8.ofNat p.val

theorem encode_of_printable (t : Text) (printable : t.Printable) : encode t = t.map octet := by
  induction t with
  | nil => rfl
  | cons p rest ih =>
    obtain ⟨⟨_, small⟩, others⟩ := Text.printable_cons.mp printable
    have one : encodePoint p = [octet p] := by
      rw [encodePoint, if_pos (by omega)]
      rfl
    rw [encode, List.flatMap_cons, one, ← encode, ih others]
    rfl

end Utf8

/-- What is read is behind what was read before. -/
theorem prefix_of_readOctets {next : Bytes → Step}
    {onFault : Nat → Nat → String → Except DecodeFault Text} {fuel place : Nat} {octets : Bytes}
    {read : List Text} {t : Text} (reads : readOctets next onFault fuel place octets read = .ok t) :
    read.reverse.flatten <+: t := by
  have behind (read : List Text) {points : Text}
      (more : (points :: read).reverse.flatten <+: t) : read.reverse.flatten <+: t := by
    rw [List.reverse_cons, List.flatten_append] at more
    exact (List.prefix_append _ _).trans more
  induction fuel generalizing place octets read with
  | zero => exact Except.ok.inj reads ▸ List.prefix_refl _
  | succ fuel ih =>
    rw [readOctets] at reads
    split at reads
    · exact Except.ok.inj reads ▸ List.prefix_refl _
    · exact behind read (ih reads)
    · split at reads
      · cases reads
      · exact behind read (ih reads)

/-- A reader that reads each scalar value from its octets reads a whole text of them. -/
theorem readOctets_spelled {next : Bytes → Step} {spell : Point → Bytes}
    (reads : ∀ p : Point, p.isSurrogate = false →
      ∀ rest, next (spell p ++ rest) = .point p (spell p).length)
    (some_ : ∀ p, 0 < (spell p).length) (done : next [] = .done)
    (onFault : Nat → Nat → String → Except DecodeFault Text) (t : Text)
    (scalar : t.isScalar = true) (fuel place : Nat) (enough : (t.flatMap spell).length < fuel)
    (read : List Text) : readOctets next onFault fuel place (t.flatMap spell) read =
      .ok (read.reverse.flatten ++ t) := by
  induction t generalizing fuel place read with
  | nil =>
    cases fuel with
    | zero => cases enough
    | succ fuel => rw [List.append_nil, List.flatMap_nil, readOctets, done]
  | cons p rest ih =>
    cases fuel with
    | zero => cases enough
    | succ fuel =>
      rw [Text.isScalar, List.all_cons, Bool.and_eq_true, Bool.not_eq_true'] at scalar
      rw [List.flatMap_cons, List.length_append] at enough
      have step := some_ p
      have more := ih scalar.2 fuel (place + (spell p).length) (by omega) ([p] :: read)
      rw [List.reverse_cons, List.flatten_append, List.flatten_singleton, List.append_assoc] at more
      rw [List.flatMap_cons, readOctets, reads p scalar.1]
      dsimp only
      rw [List.drop_left]
      exact more

namespace Utf8

variable (t : Text) (scalar : t.isScalar = true)

include scalar

theorem decodeStrict_encode : decodeStrict (encode t) = .ok t :=
  readOctets_spelled next_encodePoint encodePoint_length_pos rfl _ t scalar _ 0
    (Nat.lt_succ_self _) []

theorem decodeLossy_encode : decodeLossy (encode t) = t := by
  have read := readOctets_spelled next_encodePoint encodePoint_length_pos rfl
    (fun _ _ _ => .ok [Point.ofNat 0xFFFD]) t scalar _ 0 (Nat.lt_succ_self _) []
  rw [decodeLossy, encode, read]
  rfl

end Utf8

namespace Utf16

/-- The octets of a code unit. -/
theorem unit_encodeUnit (bigEndian : Bool) (n : Nat) (small : n < 0x10000) :
    ∃ a b, encodeUnit bigEndian n = [a, b] ∧ unit bigEndian a b = n := by
  have high := Utf8.toNat_small (n := n / 256) (by omega)
  have low := Utf8.toNat_small (n := n % 256) (by omega)
  cases bigEndian with
  | true => exact ⟨_, _, rfl, by rw [unit, if_pos rfl, high, low]; omega⟩
  | false => exact ⟨_, _, rfl, by rw [unit, if_neg Bool.false_ne_true, high, low]; omega⟩

/-- The octets of a scalar value are read as that value, whatever comes after them. -/
theorem next_encodePoint (bigEndian : Bool) (p : Point) (scalar : p.isSurrogate = false)
    (rest : Bytes) :
    next bigEndian (encodePoint bigEndian p ++ rest) =
      .point p (encodePoint bigEndian p).length := by
  have bound := p.isLt
  have noSurrogate := p.scalar_iff.mp scalar
  rw [encodePoint]
  by_cases one : p.val < 0x10000
  · obtain ⟨a, b, spelled, value⟩ := unit_encodeUnit bigEndian p.val one
    rw [if_pos one, spelled]
    have single : ¬ (decide (0xD800 ≤ p.val) && decide (p.val < 0xDC00)) = true := by
      simp only [Bool.and_eq_true, decide_eq_true_eq]
      omega
    simp only [List.cons_append, List.nil_append, next, value, if_neg single, Point.ofNat_eq rfl]
    rfl
  · obtain ⟨a, b, spelled, value⟩ :=
      unit_encodeUnit bigEndian (0xD800 + (p.val - 0x10000) / 1024) (by omega)
    obtain ⟨c, d, spelled', value'⟩ :=
      unit_encodeUnit bigEndian (0xDC00 + (p.val - 0x10000) % 1024) (by omega)
    rw [if_neg one, spelled, spelled']
    have high : (decide (0xD800 ≤ unit bigEndian a b) && decide (unit bigEndian a b < 0xDC00)) =
        true := by
      rw [value, Bool.and_eq_true, decide_eq_true_eq, decide_eq_true_eq]
      omega
    have low : (decide (0xDC00 ≤ unit bigEndian c d) && decide (unit bigEndian c d < 0xE000)) =
        true := by
      rw [value', Bool.and_eq_true, decide_eq_true_eq, decide_eq_true_eq]
      omega
    simp only [List.cons_append, List.nil_append, next, if_pos high, if_pos low]
    rw [Point.ofNat_eq (p := p) (by omega)]
    rfl

theorem encodePoint_length_pos (bigEndian : Bool) (p : Point) :
    0 < (encodePoint bigEndian p).length := by
  have some_ (n : Nat) : 0 < (encodeUnit bigEndian n).length := by
    cases bigEndian <;> exact Nat.succ_pos _
  rw [encodePoint]
  split
  · exact some_ _
  · rw [List.length_append]
    exact Nat.add_pos_left (some_ _) _

end Utf16

namespace Utf32

/-- The octets of a scalar value are read as that value, whatever comes after them. -/
theorem next_encodePoint (bigEndian : Bool) (p : Point) (rest : Bytes) :
    next bigEndian (encodePoint bigEndian p ++ rest) = .point p 4 := by
  have bound := p.isLt
  have low := Utf8.toNat_small (n := p.val % 256) (by omega)
  have middle := Utf8.toNat_small (n := p.val / 256 % 256) (by omega)
  have high := Utf8.toNat_small (n := p.val / 65536) (by omega)
  have zero : (0 : UInt8).toNat = 0 := rfl
  cases bigEndian with
  | true =>
    have value : ((0 * 256 + p.val / 65536) * 256 + p.val / 256 % 256) * 256 + p.val % 256 =
        p.val := by omega
    simp only [encodePoint, if_true, List.reverse_cons, List.reverse_nil, List.nil_append,
      List.cons_append, next, low, middle, high, zero, value, if_pos bound, Point.ofNat_eq rfl]
  | false =>
    have value : ((0 * 256 + p.val / 65536) * 256 + p.val / 256 % 256) * 256 + p.val % 256 =
        p.val := by omega
    simp only [encodePoint, Bool.false_eq_true, if_false, List.nil_append,
      List.cons_append, next, low, middle, high, zero, value, if_pos bound, Point.ofNat_eq rfl]

theorem encodePoint_length (bigEndian : Bool) (p : Point) :
    (encodePoint bigEndian p).length = 4 := by
  cases bigEndian <;> rfl

end Utf32

namespace Encoding

/-- The octets of one point. -/
def spell : Encoding → Point → Bytes
  | .utf8 => Utf8.encodePoint
  | .utf16 bigEndian => Utf16.encodePoint bigEndian
  | .utf32 bigEndian => Utf32.encodePoint bigEndian

theorem encode_eq (encoding : Encoding) (t : Text) :
    encoding.encode t = t.flatMap encoding.spell := by
  cases encoding <;> rfl

theorem spell_length_pos (encoding : Encoding) (p : Point) : 0 < (encoding.spell p).length := by
  cases encoding with
  | utf8 => exact Utf8.encodePoint_length_pos p
  | utf16 bigEndian => exact Utf16.encodePoint_length_pos bigEndian p
  | utf32 bigEndian => exact (Utf32.encodePoint_length bigEndian p).symm ▸ Nat.succ_pos 3

theorem next_spell (encoding : Encoding) (p : Point) (scalar : p.isSurrogate = false)
    (rest : Bytes) :
    encoding.next (encoding.spell p ++ rest) = .point p (encoding.spell p).length := by
  cases encoding with
  | utf8 => exact Utf8.nextLenient_encodePoint p scalar rest
  | utf16 bigEndian => exact Utf16.next_encodePoint bigEndian p scalar rest
  | utf32 bigEndian =>
    rw [spell, Utf32.encodePoint_length]
    exact Utf32.next_encodePoint bigEndian p rest

/-- A message is read as it was written, wherever its text begins. -/
theorem decodeFrom_encode (encoding : Encoding) (whole : Bytes) (place : Nat) (t : Text)
    (scalar : t.isScalar = true) :
    encoding.decodeFrom whole place (encoding.encode t) = .ok t := by
  have done : encoding.next [] = .done := by cases encoding <;> rfl
  rw [decodeFrom, encode_eq]
  exact readOctets_spelled encoding.next_spell encoding.spell_length_pos done _ t scalar _ place
    (Nat.lt_succ_self _) []

theorem mark_utf8 : mark .utf8 = [0xEF, 0xBB, 0xBF] := by decide
theorem mark_utf16 (bigEndian : Bool) : mark (.utf16 bigEndian) =
    if bigEndian then [0xFE, 0xFF] else [0xFF, 0xFE] := by
  cases bigEndian <;> decide
theorem mark_utf32 (bigEndian : Bool) : mark (.utf32 bigEndian) =
    if bigEndian then [0, 0, 0xFE, 0xFF] else [0xFF, 0xFE, 0, 0] := by
  cases bigEndian <;> decide

theorem spell_ascii (encoding : Encoding) (p : Point) (small : p.val < 128) :
    encoding.spell p = match encoding with
      | .utf8 => [Utf8.octet p]
      | .utf16 true => [0, Utf8.octet p]
      | .utf16 false => [Utf8.octet p, 0]
      | .utf32 true => [0, 0, 0, Utf8.octet p]
      | .utf32 false => [Utf8.octet p, 0, 0, 0] := by
  have whole : p.val % 256 = p.val := Nat.mod_eq_of_lt (by omega)
  have rest : p.val / 256 = 0 := Nat.div_eq_of_lt (by omega)
  have more : p.val / 65536 = 0 := Nat.div_eq_of_lt (by omega)
  cases encoding with
  | utf8 => rw [spell, Utf8.encodePoint, if_pos small]; rfl
  | utf16 bigEndian =>
    have one : p.val < 0x10000 := by omega
    rw [spell, Utf16.encodePoint, if_pos one, Utf16.encodeUnit, whole, rest]
    cases bigEndian <;> rfl
  | utf32 bigEndian =>
    rw [spell, Utf32.encodePoint, whole, rest, more]
    cases bigEndian <;> rfl

/-- The octet of a character of ASCII is no zero, and none beyond ASCII. -/
theorem octet_ne (p : Point) (plain : 0 < p.val ∧ p.val < 128) (b : UInt8)
    (other : b.toNat = 0 ∨ 128 ≤ b.toNat) : Utf8.octet p ≠ b := by
  rintro rfl
  rw [Utf8.octet, Utf8.toNat_small (by omega)] at other
  omega

/-- The mark of an encoding tells it. That of UTF-16 with the low octet first must not be followed
by two zeros, with which it would be another. -/
theorem detect_mark (encoding : Encoding) {octets : Bytes}
    (tells : encoding = .utf16 false → ¬ [0, 0] <+: octets) :
    detect (encoding.mark ++ octets) = (encoding, encoding.mark.length) := by
  rcases encoding with _ | (_ | _) | (_ | _)
  case utf16.false => simp [detect, mark_utf16, mark_utf32, tells rfl]
  all_goals simp [detect, mark_utf8, mark_utf16, mark_utf32]

/-- Without a mark the places of zeros beside two characters of ASCII tell the encoding. -/
theorem detect_encode (encoding : Encoding) {t : Text} (opens : t.Opens) :
    detect (encoding.encode t) = (encoding, 0) := by
  obtain ⟨p, q, rest, rfl, first, second⟩ := opens
  rw [encode_eq, List.flatMap_cons, List.flatMap_cons, spell_ascii _ p first.2,
    spell_ascii _ q second.2]
  have zero := octet_ne p first 0 (.inl rfl)
  have zero' := octet_ne q second 0 (.inl rfl)
  have high := octet_ne p first 0xFF (.inr (by decide))
  have low := octet_ne p first 0xFE (.inr (by decide))
  have utf := octet_ne p first 0xEF (.inr (by decide))
  generalize Utf8.octet p = a at *
  generalize Utf8.octet q = b at *
  generalize rest.flatMap encoding.spell = behind
  rcases encoding with _ | (_ | _) | (_ | _)
  case utf8 =>
    rcases behind with _ | ⟨c, _ | ⟨d, behind⟩⟩ <;>
      simp [detect, mark_utf8, mark_utf16, mark_utf32, zero, zero', zero.symm, high.symm,
        low.symm, utf.symm]
  all_goals
    simp [detect, mark_utf8, mark_utf16, mark_utf32, zero, zero', zero.symm, high.symm, low.symm,
      utf.symm]

/-- A message is read as it was written, in whatever encoding, and with a mark or without. -/
theorem decodeMessage_encode (encoding : Encoding) (marked : Bool) {t : Text}
    (scalar : t.isScalar = true) (opens : t.Opens) :
    decodeMessage ((if marked then encoding.mark else []) ++ encoding.encode t) = .ok t := by
  have detected : detect ((if marked then encoding.mark else []) ++ encoding.encode t) =
      (encoding, (if marked then encoding.mark else []).length) := by
    cases marked with
    | false => exact detect_encode encoding opens
    | true =>
      refine detect_mark encoding ?_
      rintro rfl
      obtain ⟨p, q, rest, rfl, first, -⟩ := opens
      rw [encode_eq, List.flatMap_cons, spell_ascii _ p first.2]
      simp [(octet_ne p first 0 (.inl rfl)).symm]
  generalize (if marked then encoding.mark else []) = mark at detected
  rw [decodeMessage, detected]
  cases encoding <;> (dsimp only; rw [List.drop_left]; exact decodeFrom_encode _ _ _ t scalar)

end Encoding

/-- A printable message in UTF-8 is read as it was written. -/
theorem decodeMessage_printable (t : Text) (printable : t.Printable) :
    decodeMessage (Utf8.encode t) = .ok t := by
  have scalar := Text.isScalar_of_printable printable
  match t with
  | [] => rfl
  | [p] =>
    have small := printable p List.mem_cons_self
    have ne (b : UInt8) (other : b.toNat = 0 ∨ 128 ≤ b.toNat) :=
      (Encoding.octet_ne p (by omega) b other).symm
    have detected : Encoding.detect (Utf8.encode [p]) = (.utf8, 0) := by
      rw [Utf8.encode_of_printable [p] printable]
      simp [Encoding.detect, Encoding.mark_utf8, Encoding.mark_utf16, Encoding.mark_utf32,
        ne 0 (.inl rfl), ne 0xFF (.inr (by decide)), ne 0xFE (.inr (by decide)),
        ne 0xEF (.inr (by decide))]
    rw [decodeMessage, detected]
    exact Encoding.decodeFrom_encode .utf8 _ 0 [p] scalar
  | p :: q :: rest =>
    have first := printable p List.mem_cons_self
    have second := printable q (List.mem_cons_of_mem p List.mem_cons_self)
    exact Encoding.decodeMessage_encode .utf8 false scalar
      ⟨p, q, rest, rfl, ⟨by omega, by omega⟩, by omega, by omega⟩

/-- A point as a lossy reader shows it: each of the three octets of a surrogate is at fault. -/
def Point.shown (p : Point) : Text :=
  if p.isSurrogate then List.replicate 3 (Point.ofNat 0xFFFD) else [p]

/-- A text as a lossy reader shows it. -/
def Text.shown (t : Text) : Text := t.flatMap Point.shown

theorem Text.shown_of_isScalar (t : Text) (scalar : t.isScalar = true) : t.shown = t := by
  induction t with
  | nil => rfl
  | cons p rest ih =>
    rw [isScalar, List.all_cons, Bool.and_eq_true, Bool.not_eq_true'] at scalar
    rw [shown, List.flatMap_cons, Point.shown, scalar.1, ← shown, ih scalar.2]
    rfl

namespace Utf8

/-- A character that is read is a scalar value, and has an octet at least. -/
theorem scalar_of_next {octets : Bytes} {p : Point} {size : Nat}
    (reads : next octets = .point p size) : p.isSurrogate = false ∧ 0 < size := by
  have scalar {n : Nat} (bound : n < 0x110000) (not : n < 0xD800 ∨ 0xE000 ≤ n) :
      (Point.ofNat n).isSurrogate = false := by
    rw [Point.scalar_iff, Point.val_ofNat n bound]
    exact not
  revert reads
  fun_cases next octets
  case case2 first rest one =>
    rintro ⟨⟩
    simp only [UInt8.lt_iff_toNat_lt, UInt8.reduceToNat] at one
    exact ⟨scalar (by omega) (by omega), by decide⟩
  case case6 first high starts second rest fits two =>
    rintro ⟨⟩
    rw [UInt8.lt_iff_toNat_lt] at two
    have low : first.toNat < 0xE0 := two
    refine ⟨scalar ?_ ?_, by decide⟩ <;> (unfold tailBits; omega)
  case case9 first high starts second fits more third rest tail three =>
    rintro ⟨⟩
    have fits' := (secondFits_iff first second).mp (by simpa using fits)
    simp only [UInt8.lt_iff_toNat_lt, UInt8.reduceToNat] at more three
    refine ⟨scalar ?_ ?_, by decide⟩ <;> (unfold tailBits; omega)
  case case12 first high starts second fits more third tail more' fourth rest tail' =>
    rintro ⟨⟩
    have fits' := (secondFits_iff first second).mp (by simpa using fits)
    simp only [Bool.or_eq_true, decide_eq_true_eq, UInt8.le_iff_toNat_le, UInt8.lt_iff_toNat_lt,
      UInt8.reduceToNat] at more' starts
    refine ⟨scalar ?_ ?_, by decide⟩ <;> (unfold tailBits; omega)
  all_goals nofun
theorem next_tail {b : UInt8} (tail : isTail b = true) (rest : Bytes) :
    next (b :: rest) = .fault 1 "invalid start byte" := by
  rw [isTail_iff] at tail
  have high : ¬ b < 0x80 := by
    simp only [UInt8.lt_iff_toNat_lt, UInt8.reduceToNat]
    omega
  have starts : (decide (b < 0xC2) || decide (0xF5 ≤ b)) = true := by
    simp only [Bool.or_eq_true, decide_eq_true_eq, UInt8.lt_iff_toNat_lt, UInt8.reduceToNat]
    omega
  rw [next.eq_def]
  simp only [if_neg high, if_pos starts]

/-- Each octet of a surrogate that is spelled is a fault of its own. -/
theorem faults_of_surrogate {octets : Bytes} {p : Point} (spelled : surrogate? octets = some p) :
    ∃ first second third rest, octets = first :: second :: third :: rest ∧
      p.isSurrogate = true ∧ next octets = .fault 1 "invalid continuation byte" ∧
      next (second :: third :: rest) = .fault 1 "invalid start byte" ∧
      next (third :: rest) = .fault 1 "invalid start byte" := by
  revert spelled
  fun_cases surrogate? octets
  case case1 first second third rest fits =>
    rintro ⟨⟩
    simp only [Bool.and_eq_true, beq_iff_eq, decide_eq_true_eq, UInt8.le_iff_toNat_le,
      UInt8.reduceToNat] at fits
    obtain ⟨⟨⟨rfl, low⟩, high⟩, tail⟩ := fits
    have tail' : isTail second = true := (isTail_iff second).mpr (by omega)
    have value := (isTail_iff third).mp tail
    refine ⟨0xED, second, third, rest, rfl, ?_, ?_, next_tail tail' _, next_tail tail _⟩
    · have bound : 0xD000 + tailBits second * 64 + tailBits third < 0x110000 := by
        unfold tailBits
        omega
      simp only [Point.isSurrogate, Point.val_ofNat _ bound, Bool.and_eq_true, decide_eq_true_eq]
      unfold tailBits
      omega
    · have fits : secondFits 0xED second = false := by
        rw [Bool.eq_false_iff, ne_eq, secondFits_iff]
        rintro ⟨-, -, below, -⟩
        exact Nat.not_lt.mpr low (below rfl)
      simp only [next, fits]
      rfl
  all_goals nofun

/-- A step takes an octet at least. -/
theorem size_pos_of_fault {octets : Bytes} {size : Nat} {reason : String}
    (fault : next octets = .fault size reason) : 0 < size := by
  revert fault
  fun_cases next octets
  all_goals
    intro fault
    cases fault
  all_goals exact Nat.succ_pos _

theorem drop_shorter (octets : Bytes) {size : Nat} (some_ : octets ≠ []) (steps : 0 < size) :
    (octets.drop size).length < octets.length := by
  have := List.length_pos_iff.mpr some_
  rw [List.length_drop]
  omega

/-- The points that stand for octets at fault. -/
def markFault (_ _ : Nat) (_ : String) : Except DecodeFault Text := .ok [Point.ofNat 0xFFFD]

/-- What is read with marks for faults does not depend on what was read before. -/
theorem exists_readOctets_markFault (octets : Bytes) : ∃ s : Text, ∀ fuel place read,
    octets.length < fuel →
      readOctets next markFault fuel place octets read = .ok (read.reverse.flatten ++ s) := by
  induction size : octets.length using Nat.strong_induction_on generalizing octets with
  | h length ih =>
    subst size
    -- A step adds its points in front of what is read behind it.
    have step (points : Text) (size : Nat) (some_ : octets ≠ []) (steps : 0 < size)
        (reads : ∀ fuel place read, readOctets next markFault (fuel + 1) place octets read =
          readOctets next markFault fuel (place + size) (octets.drop size) (points :: read)) :
        ∃ s : Text, ∀ fuel place read, octets.length < fuel →
          readOctets next markFault fuel place octets read = .ok (read.reverse.flatten ++ s) := by
      have shorter := drop_shorter octets some_ steps
      obtain ⟨s, behind⟩ := ih _ shorter _ rfl
      refine ⟨points ++ s, fun fuel place read enough => ?_⟩
      obtain ⟨fuel, rfl⟩ := Nat.exists_eq_add_one.mpr (Nat.zero_lt_of_lt enough)
      rw [reads, behind _ _ _ (by omega)]
      simp
    cases reads : next octets with
    | done =>
      refine ⟨[], fun fuel place read enough => ?_⟩
      obtain ⟨fuel, rfl⟩ := Nat.exists_eq_add_one.mpr (Nat.zero_lt_of_lt enough)
      rw [readOctets, reads, List.append_nil]
    | point p size =>
      refine step [p] size ?_ (scalar_of_next reads).2 fun fuel place read => ?_
      · rintro rfl
        cases reads
      · rw [readOctets, reads]
    | fault size reason =>
      refine step [Point.ofNat 0xFFFD] size ?_ (size_pos_of_fault reads) fun fuel place read => ?_
      · rintro rfl
        cases reads
      · rw [readOctets, reads]
        rfl

theorem readOctets_markFault {octets : Bytes} {fuel : Nat} (enough : octets.length < fuel)
    (place : Nat) (read : List Text) :
    readOctets next markFault fuel place octets read =
      .ok (read.reverse.flatten ++ decodeLossy octets) := by
  obtain ⟨s, reads⟩ := exists_readOctets_markFault octets
  have whole : readOctets next (fun _ _ _ => .ok [Point.ofNat 0xFFFD]) (octets.length + 1) 0
      octets [] = .ok s := reads _ 0 [] (Nat.lt_succ_self _)
  rw [decodeLossy, whole]
  exact reads fuel place read enough

/-- A character that is read is the first of what is shown. -/
theorem decodeLossy_point {octets : Bytes} {p : Point} {size : Nat}
    (reads : next octets = .point p size) :
    decodeLossy octets = p :: decodeLossy (octets.drop size) := by
  have shorter := drop_shorter octets (by rintro rfl; cases reads)
    (scalar_of_next reads).2
  have whole := readOctets_markFault (Nat.lt_succ_self octets.length) 0 []
  rw [readOctets, reads] at whole
  exact (Except.ok.inj (whole.symm.trans (readOctets_markFault shorter _ [[p]])))

/-- Octets at fault are shown as one mark. -/
theorem decodeLossy_fault {octets : Bytes} {size : Nat} {reason : String}
    (fault : next octets = .fault size reason) :
    decodeLossy octets = Point.ofNat 0xFFFD :: decodeLossy (octets.drop size) := by
  have shorter := drop_shorter octets (by rintro rfl; cases fault)
    (size_pos_of_fault fault)
  have whole := readOctets_markFault (Nat.lt_succ_self octets.length) 0 []
  rw [readOctets, fault] at whole
  exact (Except.ok.inj (whole.symm.trans (readOctets_markFault shorter _ [[Point.ofNat 0xFFFD]])))

/-- What is read where surrogates are spelled is shown by a reader that marks faults. -/
theorem readOctets_shown {refuse : Nat → Nat → String → Except DecodeFault Text}
    (refuses : ∀ start stop reason, ∃ fault, refuse start stop reason = .error fault) {t : Text}
    {octets : Bytes} {fuel place : Nat} {read : List Text} (enough : octets.length < fuel)
    (strict : readOctets nextLenient refuse fuel place octets read = .ok t) :
    ∃ s, t = read.reverse.flatten ++ s ∧ decodeLossy octets = s.shown := by
  induction fuel generalizing octets place read with
  | zero => cases enough
  | succ fuel ih =>
    rw [readOctets] at strict
    cases reads : next octets with
    | done =>
      have whole := readOctets_markFault (Nat.lt_succ_self octets.length) 0 []
      rw [readOctets, reads] at whole
      simp only [nextLenient, reads] at strict
      exact ⟨[], by rw [List.append_nil, Except.ok.inj strict], (Except.ok.inj whole).symm⟩
    | point p size =>
      obtain ⟨scalar, steps⟩ := scalar_of_next reads
      have shorter := drop_shorter octets (by rintro rfl; cases reads) steps
      simp only [nextLenient, reads] at strict
      obtain ⟨s, rfl, shows_⟩ := ih (by omega) strict
      refine ⟨p :: s, by simp, ?_⟩
      rw [decodeLossy_point reads, shows_, Text.shown, Text.shown, List.flatMap_cons, Point.shown,
        scalar]
      rfl
    | fault size reason =>
      simp only [nextLenient, reads] at strict
      cases spelled : surrogate? octets with
      | none =>
        obtain ⟨fault, refused⟩ := refuses place (place + size) reason
        simp only [spelled, refused] at strict
        cases strict
      | some p =>
        obtain ⟨first, second, third, rest, rfl, surrogate, fault, fault', fault''⟩ :=
          faults_of_surrogate spelled
        simp only [spelled, List.drop_succ_cons, List.drop_zero] at strict
        simp only [List.length_cons] at enough
        obtain ⟨s, rfl, shows_⟩ := ih (by omega) strict
        refine ⟨p :: s, by simp, ?_⟩
        rw [decodeLossy_fault fault, List.drop_one, List.tail_cons, decodeLossy_fault fault',
          List.drop_one, List.tail_cons, decodeLossy_fault fault'', List.drop_one, List.tail_cons,
          shows_, Text.shown, Text.shown, List.flatMap_cons, Point.shown, surrogate]
        rfl

/-- Octets that are read as UTF-8 with surrogates spelled are shown to a host as their text is. -/
theorem decodeLossy_eq_shown {octets whole : Bytes} {place : Nat} {t : Text}
    (decoded : Encoding.decodeFrom .utf8 whole place octets = .ok t) :
    decodeLossy octets = t.shown := by
  obtain ⟨s, rfl, shows_⟩ :=
    readOctets_shown (fun _ _ _ => ⟨_, rfl⟩) (Nat.lt_succ_self _) decoded
  exact shows_

end Utf8

namespace Encoding

/-- The octets that tell another encoding than UTF-8, or a mark: a zero, a part of a mark, the mark
of UTF-8, or a zero behind the first octet. -/
theorem octets_of_detect_ne {octets : Bytes} (other : detect octets ≠ (.utf8, 0)) :
    (∃ first rest, octets = first :: rest ∧ (first = 0 ∨ first = 0xFE ∨ first = 0xFF)) ∨
      (∃ rest, octets = 0xEF :: 0xBB :: 0xBF :: rest) ∨
      ∃ first rest, octets = first :: 0 :: rest ∧ (detect octets = (.utf16 false, 0) ∨
        detect octets = (.utf32 false, 0) ∧ ∃ rest', rest = 0 :: 0 :: rest') := by
  have front {mark : Bytes} {first : UInt8} {more : Bytes} (same : mark = first :: more)
      (fits : mark.isPrefixOf octets = true) : ∃ rest, octets = first :: (more ++ rest) :=
    (List.isPrefixOf_iff_prefix.mp fits).imp fun rest whole => by rw [← whole, same]; rfl
  generalize found : detect octets = told at other
  unfold detect at found
  split at found
  · next fits =>
    obtain ⟨rest, rfl⟩ := front (mark_utf32 true) fits
    exact .inl ⟨_, _, rfl, .inl rfl⟩
  split at found
  · next fits =>
    obtain ⟨rest, rfl⟩ := front (mark_utf32 false) fits
    exact .inl ⟨_, _, rfl, .inr (.inr rfl)⟩
  split at found
  · next fits =>
    obtain ⟨rest, rfl⟩ := front (mark_utf16 true) fits
    exact .inl ⟨_, _, rfl, .inr (.inl rfl)⟩
  split at found
  · next fits =>
    obtain ⟨rest, rfl⟩ := front (mark_utf16 false) fits
    exact .inl ⟨_, _, rfl, .inr (.inr rfl)⟩
  split at found
  · next fits =>
    obtain ⟨rest, rfl⟩ := front mark_utf8 fits
    exact .inr (.inl ⟨rest, rfl⟩)
  -- No mark is in front, so zeros tell the encoding.
  split at found
  case h_1 a b c d rest _ _ _ _ _ =>
    split at found
    · next zero => exact .inl ⟨a, _, rfl, .inl (eq_of_beq zero)⟩
    split at found
    · next zero =>
      obtain rfl := eq_of_beq zero
      refine .inr (.inr ⟨a, _, rfl, ?_⟩)
      split at found
      · next zeros =>
        rw [Bool.and_eq_true, beq_iff_eq, beq_iff_eq] at zeros
        obtain ⟨rfl, rfl⟩ := zeros
        exact .inr ⟨found.symm, rest, rfl⟩
      · exact .inl found.symm
    · exact absurd found.symm other
  case h_2 a b _ _ _ _ _ =>
    split at found
    · next zero => exact .inl ⟨a, _, rfl, .inl (eq_of_beq zero)⟩
    split at found
    · next zero =>
      obtain rfl := eq_of_beq zero
      exact .inr (.inr ⟨a, _, rfl, .inl found.symm⟩)
    · exact absurd found.symm other
  case h_3 => exact absurd found.symm other

/-- The first character that is read is the first of the text. -/
theorem head_of_decodeFrom {encoding : Encoding} {whole octets : Bytes} {place : Nat}
    {p : Point} {t : Text} (size : Nat) (reads : encoding.next octets = .point p size)
    (decoded : encoding.decodeFrom whole place octets = .ok t) : ∃ more, t = p :: more := by
  rw [decodeFrom, readOctets, reads] at decoded
  exact (prefix_of_readOctets decoded).imp fun _ same => same.symm

/-- A message whose encoding has the low octet of its first character in front begins with it. -/
theorem head_of_decodeMessage {first : UInt8} {rest : Bytes} {t : Text}
    (told : detect (first :: 0 :: rest) = (.utf16 false, 0) ∨
      detect (first :: 0 :: rest) = (.utf32 false, 0) ∧ ∃ rest', rest = 0 :: 0 :: rest')
    (decoded : decodeMessage (first :: 0 :: rest) = .ok t) :
    ∃ more, t = Point.ofNat first.toNat :: more := by
  have bound := UInt8.toNat_lt first
  rcases told with told | ⟨told, rest', rfl⟩
  · rw [decodeMessage, told] at decoded
    refine head_of_decodeFrom 2 ?_ decoded
    have value : Utf16.unit false first 0 = first.toNat := Nat.zero_add _
    have single : ¬ (decide (0xD800 ≤ first.toNat) && decide (first.toNat < 0xDC00)) = true := by
      simp only [Bool.and_eq_true, decide_eq_true_eq]
      omega
    simp only [List.drop_zero, next, Utf16.next, value, if_neg single]
  · rw [decodeMessage, told] at decoded
    refine head_of_decodeFrom 4 ?_ decoded
    have zero : (0 : UInt8).toNat = 0 := rfl
    have small : first.toNat < 0x110000 := by omega
    simp only [List.drop_zero, next, Utf32.next, zero, Bool.false_eq_true, if_false, Nat.zero_mul,
      Nat.zero_add, if_pos small]

end Encoding

end PhaseScript
