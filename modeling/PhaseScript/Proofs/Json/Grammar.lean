import PhaseScript.Proofs.Json.Number
import PhaseScript.Proofs.Json.Quoted
import PhaseScript.Proofs.Text.Encoding
/-
The strict grammar of JSON texts, as a relation apart from reader and writer: numbers have no
leading zeros and are finite, strings have no bare control characters, and nothing follows the value
but blanks. What is written strictly is in the grammar, in every style that is laid out with blanks.
In the usual style it is printable ASCII, whatever texts are in it: every other character is escaped.
-/
set_option autoImplicit false

namespace PhaseScript.Json

namespace Grammar

def IsBlank (p : Point) : Prop := p.val = 0x20 ∨ p.val = 0x09 ∨ p.val = 0x0A ∨ p.val = 0x0D

def IsDigit (p : Point) : Prop := 0x30 ≤ p.val ∧ p.val ≤ 0x39

def IsHexDigit (p : Point) : Prop :=
  IsDigit p ∨ (0x41 ≤ p.val ∧ p.val ≤ 0x46) ∨ (0x61 ≤ p.val ∧ p.val ≤ 0x66)

/-- Blanks, perhaps none. -/
def Blanks (t : Text) : Prop := ∀ p ∈ t, IsBlank p

/-- Digits, at least one. -/
def Digits (t : Text) : Prop := t ≠ [] ∧ ∀ p ∈ t, IsDigit p

/-- The whole part of a number. -/
inductive Whole : Text → Prop
  | zero : Whole "0"
  | digits (p : Point) (rest : Text) : 0x31 ≤ p.val → p.val ≤ 0x39 → (∀ q ∈ rest, IsDigit q) →
    Whole (p :: rest)

inductive Fraction : Text → Prop
  | none : Fraction []
  | some (digits : Text) : Digits digits → Fraction (Point.ofChar '.' :: digits)

inductive Sign : Text → Prop
  | none : Sign []
  | plus : Sign "+"
  | minus : Sign "-"

inductive Exponent : Text → Prop
  | none : Exponent []
  | some (letter : Point) (sign digits : Text) : letter.val = 0x65 ∨ letter.val = 0x45 → Sign sign →
        Digits digits →
      Exponent (letter :: (sign ++ digits))

inductive Number : Text → Prop
  | positive (whole fraction exponent : Text) : Whole whole → Fraction fraction →
        Exponent exponent →
      Number (whole ++ fraction ++ exponent)
  | negative (whole fraction exponent : Text) : Whole whole → Fraction fraction →
        Exponent exponent →
      Number (Point.ofChar '-' :: (whole ++ fraction ++ exponent))

/-- One character of a string, as it is or as an escape. -/
inductive Character : Text → Prop
  | plain (p : Point) : 0x20 ≤ p.val → p.val ≠ 0x22 → p.val ≠ 0x5C → Character [p]
  | letter (p : Point) : p.val ∈ [0x22, 0x5C, 0x2F, 0x62, 0x66, 0x6E, 0x72, 0x74] →
      Character [Point.ofChar '\\', p]
  | hex (a b c d : Point) : IsHexDigit a → IsHexDigit b → IsHexDigit c → IsHexDigit d →
      Character [Point.ofChar '\\', Point.ofChar 'u', a, b, c, d]

inductive Quoted : Text → Prop
  | mk (characters : List Text) : (∀ c ∈ characters, Character c) →
      Quoted (Point.ofChar '"' :: characters.flatten ++ [Point.ofChar '"'])

mutual

/-- A value, without blanks around it. -/
inductive Value : Text → Prop
  | null : Value "null"
  | true : Value "true"
  | false : Value "false"
  | number (t : Text) : Number t → Value t
  | string (t : Text) : Quoted t → Value t
  | noItems (gap : Text) : Blanks gap → Value (Point.ofChar '[' :: gap ++ [Point.ofChar ']'])
  | array (items : Text) : Items items → Value (Point.ofChar '[' :: items ++ [Point.ofChar ']'])
  | noMembers (gap : Text) : Blanks gap →
    Value (Point.ofChar '\x7b' :: gap ++ [Point.ofChar '\x7d'])
  | object (members : Text) : Members members →
    Value (Point.ofChar '\x7b' :: members ++ [Point.ofChar '\x7d'])

/-- The items of an array, at least one. -/
inductive Items : Text → Prop
  | last (before value after : Text) : Blanks before → Value value → Blanks after →
    Items (before ++ value ++ after)
  | more (before value after rest : Text) : Blanks before → Value value → Blanks after →
        Items rest →
      Items (before ++ value ++ after ++ Point.ofChar ',' :: rest)

/-- The members of an object, at least one. -/
inductive Members : Text → Prop
  | last (before name behind front value after : Text) : Blanks before → Quoted name →
        Blanks behind → Blanks front →
      Value value → Blanks after → Members (before ++ name ++ behind ++ Point.ofChar ':' :: front ++
      value ++ after)
  | more (before name behind front value after rest : Text) : Blanks before → Quoted name →
        Blanks behind →
      Blanks front → Value value → Blanks after → Members rest →
      Members (before ++ name ++ behind ++ Point.ofChar ':' :: front ++ value ++ after ++
      Point.ofChar ',' :: rest)

end

end Grammar

/-- A whole text in the strict grammar: one value, blanks around it and nothing else. -/
def Strict (t : Text) : Prop :=
  ∃ before value after, t = before ++ value ++ after ∧ Grammar.Blanks before ∧ Grammar.Value value ∧
  Grammar.Blanks after

/-- A style that is laid out with blanks around a comma and a colon. -/
structure Style.Lawful (style : Style) : Prop where
  item : ∃ gap, style.itemSeparator = Point.ofChar ',' :: gap ∧ Grammar.Blanks gap
  name : ∃ gap, style.nameSeparator = Point.ofChar ':' :: gap ∧ Grammar.Blanks gap
  line : ∀ unit, style.indent = some unit → Grammar.Blanks unit

namespace Grammar

theorem blanks_nil : Blanks [] := by
  intro p member
  cases member

theorem blanks_append {a b : Text} (first : Blanks a) (second : Blanks b) : Blanks (a ++ b) := by
  intro p member
  rcases List.mem_append.mp member with left | right
  · exact first p left
  · exact second p right

theorem isDigit_of_isAsciiDigit {p : Point} (digit : p.isAsciiDigit = true) : IsDigit p := by
  rw [Point.isAsciiDigit, Bool.and_eq_true, decide_eq_true_eq, decide_eq_true_eq] at digit
  exact digit

theorem whole_of_wellSpelled {whole fraction : Text} (well : WellSpelled whole fraction) :
    Whole whole := by
  cases digits : whole with
  | nil => exact absurd digits well.some
  | cons p rest =>
    have first := isDigit_of_isAsciiDigit
      (well.digits p (by rw [digits]; exact List.mem_cons_self))
    by_cases zero : p.val = 48
    · rw [well.zero p rest digits zero, show p = Point.ofChar '0' from Fin.ext zero]
      exact Whole.zero
    · refine Whole.digits p rest (by have := first.1; omega) first.2 fun q member => ?_
      exact isDigit_of_isAsciiDigit
        (well.digits q (by rw [digits]; exact List.mem_cons_of_mem p member))

theorem digits_digits (count n : Nat) : Digits (Text.digits count n) := by
  refine ⟨?_, fun p member => isDigit_of_isAsciiDigit
    (Text.isAsciiDigit_of_mem_digits count n p member)⟩
  rw [Text.digits, Text.padLeft, Ne, List.append_eq_nil_iff, not_and]
  exact fun _ => Text.ofNat_ne_nil _

/-- What is well spelled is a number. -/
theorem number_spelled (negative : Bool) (whole fraction : Text) (exponent : Option Int)
    (well : WellSpelled whole fraction) :
    Number (spelled negative whole fraction exponent).text := by
  have isWhole := whole_of_wellSpelled well
  have isFraction : Fraction (fractionPart fraction) := by
    cases digits : fraction with
    | nil => exact Fraction.none
    | cons p rest =>
      refine Fraction.some (p :: rest) ⟨by simp, fun q member => ?_⟩
      exact isDigit_of_isAsciiDigit (well.places q (by rw [digits]; exact member))
  have isExponent : Exponent (exponentPart exponent) := by
    cases exponent with
    | none => exact Exponent.none
    | some exponent =>
      have digits := digits_digits 2 exponent.natAbs
      by_cases negative : exponent < 0
      · simp only [exponentPart, Binary64.exponentText, negative, if_true]
        exact Exponent.some (Point.ofChar 'e') "-" _ (Or.inl rfl) Sign.minus digits
      · simp only [exponentPart, Binary64.exponentText, negative, if_false]
        exact Exponent.some (Point.ofChar 'e') "+" _ (Or.inl rfl) Sign.plus digits
  cases negative with
  | true => exact Number.negative whole _ _ isWhole isFraction isExponent
  | false => exact Number.positive whole _ _ isWhole isFraction isExponent

theorem isHexDigit_digitPoint (n : Nat) (small : n < 16) : IsHexDigit (digitPoint n) := by
  unfold IsHexDigit IsDigit
  interval_cases n <;> decide

/-- An escape by four digits. -/
theorem character_hex (n : Nat) (small : n < 0x10000) : Character ("\\u" ++ Text.hex 4 n) := by
  rw [Text.hex_four n small]
  exact Character.hex _ _ _ _ (isHexDigit_digitPoint _ (by omega))
    (isHexDigit_digitPoint _ (Nat.mod_lt _ (by norm_num)))
    (isHexDigit_digitPoint _ (Nat.mod_lt _ (by norm_num)))
    (isHexDigit_digitPoint _ (Nat.mod_lt _ (by norm_num)))

/-- A point inside quotes is a character or, past FFFF, two escapes. -/
theorem characters_quotedPoint (ascii : Bool) (p : Point) :
    ∃ characters : List Text, (∀ c ∈ characters, Character c) ∧ characters.flatten =
    quotedPoint ascii p := by
  have one (t : Text) (character : Character t) :
      ∃ characters : List Text, (∀ c ∈ characters, Character c) ∧ characters.flatten = t := by
    refine ⟨[t], fun c member => ?_, by simp⟩
    rw [List.mem_singleton.mp member]
    exact character
  generalize text : quotedPoint ascii p = written
  have shape := pointText ascii p
  rw [text] at shape
  cases shape with
  | plain quote slash low _ =>
    exact one _ (Character.plain p low (beq_eq_false_iff_ne.mp quote)
      (beq_eq_false_iff_ne.mp slash))
  | letter q c _ found _ => exact one _ (Character.letter q (val_mem_of_escapeLetter? found))
  | hex small _ => exact one _ (character_hex p.val small)
  | pair _ large =>
    obtain ⟨high, low, shown, isHigh, isLow, -⟩ := surrogateEscapes_halves p.val large p.isLt
    refine ⟨["\\u" ++ Text.hex 4 high, "\\u" ++ Text.hex 4 low], ?_, ?_⟩
    · simp only [List.forall_mem_cons]
      exact ⟨character_hex high (by omega), character_hex low (by omega), nofun⟩
    · rw [shown]
      simp only [List.flatten_cons, List.flatten_nil, List.append_nil, List.append_assoc]

theorem quoted_quoted (ascii : Bool) (t : Text) : Quoted (Json.quoted ascii t) := by
  have all : ∃ characters : List Text, (∀ c ∈ characters, Character c) ∧
      characters.flatten = t.flatMap (quotedPoint ascii) := by
    induction t with
    | nil => exact ⟨[], by simp, rfl⟩
    | cons p rest ih =>
      obtain ⟨first, firstAll, firstText⟩ := characters_quotedPoint ascii p
      obtain ⟨others, othersAll, othersText⟩ := ih
      refine ⟨first ++ others, fun c member => ?_, ?_⟩
      · rcases List.mem_append.mp member with left | right
        · exact firstAll c left
        · exact othersAll c right
      · rw [List.flatten_append, firstText, othersText, List.flatMap_cons]
  obtain ⟨characters, each, text⟩ := all
  rw [Json.quoted, ← text]
  exact Quoted.mk characters each

/-- A new line is blank. -/
theorem blanks_newLine (style : Style) (lawful : style.Lawful) (depth : Nat) :
    Blanks (style.newLine depth) := by
  unfold Style.newLine
  cases unit : style.indent with
  | none => exact blanks_nil
  | some unit_ =>
    intro p member
    rcases List.mem_cons.mp member with line | spaces
    · rw [line]
      exact Or.inr (Or.inr (Or.inl rfl))
    · obtain ⟨part, among, inside⟩ := List.mem_flatten.mp spaces
      rw [List.eq_of_mem_replicate among] at inside
      exact lawful.line unit_ unit p inside

mutual

/-- What may be written strictly is written in the grammar. -/
theorem value_renderAt (style : Style) (lawful : style.Lawful) (depth : Nat) :
    (v : Json) → writeFault? true v = none → Value (renderAt style depth v)
  | .null => fun _ => Value.null
  | .bool true => fun _ => Value.true
  | .bool false => fun _ => Value.false
  | .int n => fun _ => by
    rw [renderAt, ofInt_spelled, intSpelling]
    exact Value.number _ (number_spelled _ _ _ _ (wellSpelled_ofNat _ _ (by simp)))
  | .float x => fun written => by
    have finite := finite_of_written x written
    obtain ⟨magnitude, whole, fraction, exponent, shape, spelling⟩ := floatText_spelled x finite
    rw [renderAt, shape, spelling.spelling]
    exact Value.number _ (number_spelled _ _ _ _ spelling.well)
  | .string t => fun _ => by
    rw [renderAt]
    exact Value.string _ (quoted_quoted style.ascii t)
  | .array [] => fun _ => Value.noItems [] blanks_nil
  | .array (item :: items) => fun written => by
    rw [writeFault?, itemsFault?, Option.or_eq_none_iff] at written
    have first := value_renderAt style lawful (depth + 1) item written.1
    have all := items_renderItems style lawful (depth + 1) items written.2 _ _ _
      (blanks_newLine style lawful (depth + 1)) first (blanks_newLine style lawful depth)
    rw [renderAt]
    exact Value.array _ all
  | .object [] => fun _ => Value.noMembers [] blanks_nil
  | .object ((name, value) :: members) => fun written => by
    rw [writeFault?, membersFault?, Option.or_eq_none_iff] at written
    have first := value_renderAt style lawful (depth + 1) value written.1
    have all := members_renderMembers style lawful (depth + 1) members written.2 _ name _ _
      (blanks_newLine style lawful (depth + 1)) first (blanks_newLine style lawful depth)
    rw [renderAt]
    exact Value.object _ all

/-- The items after one that stands there. -/
theorem items_renderItems (style : Style) (lawful : style.Lawful) (depth : Nat) :
    (items : List Json) → itemsFault? true items = none → (before value after : Text) →
        Blanks before →
      Value value → Blanks after → Items (before ++ value ++ renderItems style depth items ++ after)
  | [] => fun _ before value after front inside behind => by
    rw [renderItems, List.append_nil]
    exact Items.last before value after front inside behind
  | item :: items => fun written before value after front inside behind => by
    rw [itemsFault?, Option.or_eq_none_iff] at written
    obtain ⟨gap, separator, blank⟩ := lawful.item
    have next := value_renderAt style lawful depth item written.1
    have others := items_renderItems style lawful depth items written.2 _ _ after
      (blanks_append blank (blanks_newLine style lawful depth)) next behind
    have all := Items.more before value [] _ front inside blanks_nil others
    rw [renderItems, separator]
    simpa only [List.append_assoc, List.cons_append, List.nil_append] using all

/-- The members after one that stands there. -/
theorem members_renderMembers (style : Style) (lawful : style.Lawful) (depth : Nat) :
    (members : List (Text × Json)) → membersFault? true members = none →
        (before name value after : Text) →
      Blanks before → Value value → Blanks after →
      Members (before ++ Json.quoted style.ascii name ++ style.nameSeparator ++ value
        ++ renderMembers style depth members ++ after)
  | [] => fun _ before name value after front inside behind => by
    obtain ⟨gap, separator, blank⟩ := lawful.name
    have all := Members.last before _ [] gap value after front (quoted_quoted style.ascii name)
      blanks_nil blank inside behind
    rw [renderMembers, separator]
    simpa only [List.append_assoc, List.cons_append, List.nil_append] using all
  | (name', value') :: members => fun written before name value after front inside behind => by
    rw [membersFault?, Option.or_eq_none_iff] at written
    obtain ⟨gap, separator, blank⟩ := lawful.name
    obtain ⟨gap', separator', blank'⟩ := lawful.item
    have next := value_renderAt style lawful depth value' written.1
    have others := members_renderMembers style lawful depth members written.2 _ name' _ after
      (blanks_append blank' (blanks_newLine style lawful depth)) next behind
    have all := Members.more before _ [] gap value [] _ front (quoted_quoted style.ascii name)
      blanks_nil blank inside blanks_nil others
    rw [renderMembers, separator']
    rw [separator] at all ⊢
    simpa only [List.append_assoc, List.cons_append, List.nil_append] using all

end

end Grammar

theorem Grammar.blanks_space : Grammar.Blanks " " := by
  intro p member
  obtain rfl := List.mem_singleton.mp member
  exact Or.inl rfl

theorem Style.spaced_lawful : Style.spaced.Lawful where
  item := ⟨" ", rfl, Grammar.blanks_space⟩
  name := ⟨" ", rfl, Grammar.blanks_space⟩
  line := fun _ unit => by cases unit

theorem Style.compact_lawful : Style.compact.Lawful where
  item := ⟨[], rfl, Grammar.blanks_nil⟩
  name := ⟨[], rfl, Grammar.blanks_nil⟩
  line := fun _ unit => by cases unit

/-- What is written strictly is a text of the strict grammar. -/
theorem strict_of_write (style : Style) (lawful : style.Lawful) (v : Json) (t : Text)
    (written : write style true v = .ok t) : Strict t := by
  unfold write at written
  split at written
  · cases written
  · next clean =>
    obtain rfl := Except.ok.inj written
    exact ⟨[], _, [], by simp [render], Grammar.blanks_nil,
      Grammar.value_renderAt style lawful 0 v clean, Grammar.blanks_nil⟩

theorem printable_hex (n : Nat) (small : n < 0x10000) : (Text.hex 4 n).Printable := by
  have digit (n : Nat) (small : n < 16) : 32 ≤ (digitPoint n).val ∧ (digitPoint n).val < 127 := by
    interval_cases n <;> decide
  rw [Text.hex_four n small]
  intro p among
  simp only [List.mem_cons, List.not_mem_nil, or_false] at among
  obtain rfl | rfl | rfl | rfl := among
  · exact digit _ (by omega)
  all_goals exact digit _ (Nat.mod_lt _ (by norm_num))

namespace Grammar

theorem printable_of_digits {t : Text} (digits : ∀ p ∈ t, IsDigit p) : t.Printable :=
    fun p among => by
  have digit := digits p among
  unfold IsDigit at digit
  omega

theorem Whole.printable {t : Text} (whole : Whole t) : t.Printable := by
  cases whole with
  | zero => exact Text.printable_of_all _ rfl
  | digits p rest low high all =>
    exact Text.printable_cons.mpr ⟨by omega, printable_of_digits all⟩

theorem Fraction.printable {t : Text} (fraction : Fraction t) : t.Printable := by
  cases fraction with
  | none => exact Text.printable_nil
  | some digits all => exact Text.printable_cons.mpr ⟨by decide, printable_of_digits all.2⟩

theorem Exponent.printable {t : Text} (exponent : Exponent t) : t.Printable := by
  cases exponent with
  | none => exact Text.printable_nil
  | some letter sign digits isLetter isSign all =>
    have signs : sign.Printable := by
      cases isSign <;> exact Text.printable_of_all _ rfl
    exact Text.printable_cons.mpr
      ⟨by omega, Text.printable_append.mpr ⟨signs, printable_of_digits all.2⟩⟩

theorem Number.printable {t : Text} (number : Number t) : t.Printable := by
  cases number with
  | positive whole fraction exponent isWhole isFraction isExponent =>
    rw [Text.printable_append, Text.printable_append]
    exact ⟨⟨isWhole.printable, isFraction.printable⟩, isExponent.printable⟩
  | negative whole fraction exponent isWhole isFraction isExponent =>
    rw [Text.printable_cons, Text.printable_append, Text.printable_append]
    exact ⟨by decide, ⟨isWhole.printable, isFraction.printable⟩, isExponent.printable⟩

end Grammar

theorem printable_ofInt (n : Int) : (Text.ofInt n).Printable := by
  rw [ofInt_spelled, intSpelling]
  exact (Grammar.number_spelled (n < 0) _ _ none (wellSpelled_ofNat n.natAbs []
    (by simp))).printable

/-- Numbers are printable, those that are not finite as well. -/
theorem printable_floatText (x : Binary64) : (floatText x).Printable := by
  by_cases finite : x.isFinite = true
  · obtain ⟨magnitude, whole, fraction, exponent, shape, spelling⟩ := floatText_spelled x finite
    rw [shape, spelling.spelling]
    exact (Grammar.number_spelled _ _ _ _ spelling.well).printable
  · unfold floatText
    split
    · exact Text.printable_of_all _ rfl
    split
    · split <;> exact Text.printable_of_all _ rfl
    · next notNaN notInfinite =>
      simp only [Binary64.isFinite, Binary64.isNaN, Binary64.isInfinite, bne_iff_ne, ne_eq, not_not,
        Bool.and_eq_true, beq_iff_eq, not_and] at finite notNaN notInfinite
      exact absurd (notNaN finite) (notInfinite finite)

theorem printable_quotedPoint (p : Point) : (quotedPoint true p).Printable := by
  have escape (n : Nat) (small : n < 0x10000) : Text.Printable ("\\u" ++ Text.hex 4 n) :=
    Text.printable_append.mpr ⟨Text.printable_of_all _ rfl, printable_hex n small⟩
  generalize text : quotedPoint true p = written
  have shape := pointText true p
  rw [text] at shape
  cases shape with
  | plain _ _ low high => exact Text.printable_cons.mpr ⟨⟨low, high rfl⟩, Text.printable_nil⟩
  | letter q c _ found _ =>
    have among := val_mem_of_escapeLetter? found
    simp only [List.mem_cons, List.not_mem_nil, or_false] at among
    exact Text.printable_cons.mpr
      ⟨by decide, Text.printable_cons.mpr ⟨by omega, Text.printable_nil⟩⟩
  | hex small _ => exact escape p.val small
  | pair _ large =>
    obtain ⟨high, low, shown, isHigh, isLow, -⟩ := surrogateEscapes_halves p.val large p.isLt
    rw [shown, List.append_assoc, Text.printable_append]
    exact ⟨escape high (by omega), escape low (by omega)⟩

theorem printable_quoted (t : Text) : (quoted true t).Printable := by
  rw [quoted, Text.printable_append, Text.printable_cons]
  refine ⟨⟨by decide, fun p among => ?_⟩, Text.printable_of_all _ rfl⟩
  obtain ⟨q, _, inside⟩ := List.mem_flatMap.mp among
  exact printable_quotedPoint q p inside

theorem newLine_spaced (depth : Nat) : Style.spaced.newLine depth = [] := rfl

mutual

theorem printable_renderAt (depth : Nat) : (v : Json) → (renderAt .spaced depth v).Printable
  | .null | .bool true | .bool false => Text.printable_of_all _ rfl
  | .int n => printable_ofInt n
  | .float x => printable_floatText x
  | .string t => printable_quoted t
  | .array [] => Text.printable_of_all _ rfl
  | .array (item :: items) => by
    have first := printable_renderAt (depth + 1) item
    have others := printable_renderItems (depth + 1) items
    rw [renderAt]
    simp only [newLine_spaced, List.append_nil, List.cons_append, Text.printable_append,
      Text.printable_cons]
    exact ⟨by decide, ⟨⟨Text.printable_nil, first⟩, others⟩, by decide, Text.printable_nil⟩
  | .object [] => Text.printable_of_all _ rfl
  | .object ((name, value) :: members) => by
    have first := printable_renderAt (depth + 1) value
    have others := printable_renderMembers (depth + 1) members
    rw [renderAt]
    simp only [newLine_spaced, List.append_nil, List.cons_append, Text.printable_append,
      Text.printable_cons]
    have gap : Style.spaced.nameSeparator.Printable := Text.printable_of_all _ rfl
    exact ⟨by decide, ⟨⟨⟨⟨Text.printable_nil, printable_quoted name⟩, gap⟩, first⟩,
      others⟩, by decide, Text.printable_nil⟩

theorem printable_renderItems (depth : Nat) : (items : List Json) →
    (renderItems .spaced depth items).Printable
  | [] => Text.printable_nil
  | item :: items => by
    have first := printable_renderAt depth item
    have others := printable_renderItems depth items
    rw [renderItems, newLine_spaced, List.append_nil, Text.printable_append, Text.printable_append]
    exact ⟨⟨Text.printable_of_all _ rfl, first⟩, others⟩

theorem printable_renderMembers (depth : Nat) :
    (members : List (Text × Json)) → (renderMembers .spaced depth members).Printable
  | [] => Text.printable_nil
  | (name, value) :: members => by
    have first := printable_renderAt depth value
    have others := printable_renderMembers depth members
    simp only [renderMembers, newLine_spaced, List.append_nil, Text.printable_append]
    exact ⟨⟨⟨⟨Text.printable_of_all _ rfl, printable_quoted name⟩, Text.printable_of_all _ rfl⟩,
      first⟩, others⟩

end

end PhaseScript.Json
