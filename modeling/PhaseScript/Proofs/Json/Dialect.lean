import PhaseScript.Proofs.Json.Grammar
import PhaseScript.Proofs.Table
/-
The lax dialect of JSON, as a relation between texts and values apart from the reader. Beside the
strict grammar it has the words for the numbers that are not finite; an integer has 4300 digits at
most, and of several members with one name the last one counts, in the place of the first. So the
names of an object are distinct, what holds of all members holds of those that are kept, and the
object is nested no deeper than its members are.
-/
set_option autoImplicit false

namespace PhaseScript.Json

theorem put_eq_put (name : Text) (value : Json) (members : List (Text × Json)) :
    put name value members = Table.put name value members := by
  induction members with
  | nil => rfl
  | cons member members ih =>
    obtain ⟨n, v⟩ := member
    rw [put, Table.put, ih]

/-- Members with distinct names all stay, in their order. -/
theorem foldl_put_of_nodup (members before : List (Text × Json))
    (distinct : ((before ++ members).map (·.1)).Nodup) :
    members.foldl (fun found (name, value) => put name value found) before = before ++ members := by
  induction members generalizing before with
  | nil => simp
  | cons member members ih =>
    obtain ⟨name, value⟩ := member
    have new : name ∉ before.map (·.1) := by
      rw [List.map_append, List.nodup_append] at distinct
      exact fun among => distinct.2.2 name among name (by simp) rfl
    rw [List.foldl_cons]
    change members.foldl _ (put name value before) = _
    rw [put_eq_put, Table.put_of_new before name value new, ih (before ++ [(name, value)])
      (by simpa using distinct)]
    simp

/-- The names of the members that are kept are distinct. -/
theorem foldl_put_nodup (members before : List (Text × Json))
    (distinct : (before.map (·.1)).Nodup) :
    ((members.foldl (fun found (name, value) => put name value found) before).map (·.1)).Nodup := by
  induction members generalizing before with
  | nil => exact distinct
  | cons member members ih =>
    obtain ⟨name, value⟩ := member
    refine ih (put name value before) ?_
    rw [put_eq_put]
    exact Table.nodup_put before name value distinct

/-- What holds of all members holds of those that are kept. -/
theorem forall_foldl_put (holds : Text × Json → Prop) (members before : List (Text × Json))
    (new : ∀ member ∈ members, holds member) (old : ∀ member ∈ before, holds member) :
    ∀ member ∈ members.foldl (fun found (name, value) => put name value found) before,
    holds member := by
  induction members generalizing before with
  | nil => exact old
  | cons member members ih =>
    obtain ⟨name, value⟩ := member
    refine ih (put name value before) (fun m among => new m (List.mem_cons_of_mem _ among)) ?_
    rw [put_eq_put]
    intro m among
    rcases Table.mem_put before name value m among with rfl | there
    · exact new _ List.mem_cons_self
    · exact old m there

mutual

/-- How many arrays and objects lie inside each other. -/
def nesting : Json → Nat
  | .array items => nestingAll items + 1
  | .object members => nestingMembers members + 1
  | _ => 0

def nestingAll : List Json → Nat
  | [] => 0
  | item :: items => max (nesting item) (nestingAll items)

def nestingMembers : List (Text × Json) → Nat
  | [] => 0
  | (_, value) :: members => max (nesting value) (nestingMembers members)

end

theorem nestingAll_le_iff (items : List Json) (room : Nat) :
    nestingAll items ≤ room ↔ ∀ item ∈ items, nesting item ≤ room := by
  induction items with
  | nil => exact iff_of_true (Nat.zero_le room) nofun
  | cons item items ih => rw [nestingAll, Nat.max_le, ih, List.forall_mem_cons]

theorem nestingMembers_le_iff (members : List (Text × Json)) (room : Nat) :
    nestingMembers members ≤ room ↔ ∀ member ∈ members, nesting member.2 ≤ room := by
  induction members with
  | nil => exact iff_of_true (Nat.zero_le room) nofun
  | cons member members ih =>
    obtain ⟨name, value⟩ := member
    rw [nestingMembers, Nat.max_le, ih, List.forall_mem_cons]

theorem nestingMembers_put (name : Text) (value : Json) (members : List (Text × Json)) (room : Nat)
    (new : nesting value ≤ room) (old : nestingMembers members ≤ room) :
    nestingMembers (put name value members) ≤ room := by
  rw [nestingMembers_le_iff] at old ⊢
  rw [put_eq_put]
  intro member among
  rcases Table.mem_put members name value member among with rfl | there
  · exact new
  · exact old member there

/-- The object that members make is nested one deeper than they are at most. -/
theorem nesting_foldl_put_le {members : List (Text × Json)} {room : Nat}
    (all : ∀ member ∈ members, nesting member.2 ≤ room) :
    nesting (.object (members.foldl (fun found (name, value) => put name value found) [])) ≤
      room + 1 :=
  Nat.succ_le_succ ((nestingMembers_le_iff _ room).mpr
    (forall_foldl_put (fun member => nesting member.2 ≤ room) members [] all nofun))

namespace Dialect

open Grammar (Blanks Digits)

/-- Blanks up to a place in a text. -/
def Gap (t rest : Text) : Prop := ∃ blanks, Blanks blanks ∧ t = blanks ++ rest

/-- A digit to the base of sixteen, and its value. -/
def HexDigit (p : Point) (n : Nat) : Prop :=
  (0x30 ≤ p.val ∧ p.val ≤ 0x39 ∧ n = p.val - 0x30) ∨
  (0x41 ≤ p.val ∧ p.val ≤ 0x46 ∧ n = p.val - 0x41 + 10) ∨
  (0x61 ≤ p.val ∧ p.val ≤ 0x66 ∧ n = p.val - 0x61 + 10)

/-- Four digits at the front of a text, and the number that they spell. -/
inductive Four : Text → Nat → Text → Prop
  | mk {a b c d : Point} {i j k l : Nat} (rest : Text) : HexDigit a i → HexDigit b j →
    HexDigit c k → HexDigit d l → Four (a :: b :: c :: d :: rest) (((i * 16 + j) * 16 + k) * 16 + l)
      rest

def IsHighHalf (n : Nat) : Prop := 0xD800 ≤ n ∧ n < 0xDC00

def IsLowHalf (n : Nat) : Prop := 0xDC00 ≤ n ∧ n < 0xE000

/-- Whether a text goes on with the escape of a low half. -/
def LowNext (t : Text) : Prop :=
  ∃ digits low rest, t = Point.ofChar '\\' :: Point.ofChar 'u' :: digits ∧ Four digits low rest ∧
    IsLowHalf low

/-- The letters of escapes, and the characters that they stand for. -/
def letters : List (Char × Char) :=
  [('"', '"'), ('\\', '\\'), ('/', '/'), ('b', '\x08'), ('f', '\x0c'), ('n', '\n'), ('r', '\r'),
    ('t', '\t')]

/-- A string from behind its opening quote, and what is left behind the closing one. The escapes of
the two halves of a surrogate pair stand for one point. -/
inductive Body : Text → Text → Text → Prop
  | close (rest : Text) : Body (Point.ofChar '"' :: rest) [] rest
  | plain {p : Point} {t s rest : Text} : 0x20 ≤ p.val → p.val ≠ 0x22 → p.val ≠ 0x5C →
    Body t s rest → Body (p :: t) (p :: s) rest
  | letter {c stands : Char} {t s rest : Text} : (c, stands) ∈ letters → Body t s rest →
    Body (Point.ofChar '\\' :: Point.ofChar c :: t) (Point.ofChar stands :: s) rest
  | single {digits t s rest : Text} {n : Nat} : Four digits n t → (IsHighHalf n → ¬ LowNext t) →
    Body t s rest →
    Body (Point.ofChar '\\' :: Point.ofChar 'u' :: digits) (Point.ofNat n :: s) rest
  | pair {digits digits' t s rest : Text} {high low : Nat} :
    Four digits high (Point.ofChar '\\' :: Point.ofChar 'u' :: digits') → IsHighHalf high →
    Four digits' low t → IsLowHalf low → Body t s rest →
    Body (Point.ofChar '\\' :: Point.ofChar 'u' :: digits)
      (Point.ofNat (0x10000 + (high - 0xD800) * 1024 + (low - 0xDC00)) :: s) rest

/-- The digits behind the point of a number. -/
inductive Places : Text → Text → Prop
  | absent : Places [] []
  | point {digits : Text} : Digits digits → Places (Point.ofChar '.' :: digits) digits

/-- The power of ten that a number is multiplied with. -/
inductive Power : Text → Option Int → Prop
  | absent : Power [] none
  | bare {letter : Point} {digits : Text} : letter.val = 0x65 ∨ letter.val = 0x45 →
    Digits digits → Power (letter :: digits) (some (Int.ofNat (digitsValue digits)))
  | plus {letter : Point} {digits : Text} : letter.val = 0x65 ∨ letter.val = 0x45 →
    Digits digits →
    Power (letter :: Point.ofChar '+' :: digits) (some (Int.ofNat (digitsValue digits)))
  | minus {letter : Point} {digits : Text} : letter.val = 0x65 ∨ letter.val = 0x45 →
    Digits digits →
    Power (letter :: Point.ofChar '-' :: digits) (some (-Int.ofNat (digitsValue digits)))

/-- A number at the front of a text. One with a fraction or an exponent is a floating-point number,
even where its value is whole. -/
inductive Number : Text → Json → Text → Prop
  | integer (negative : Bool) {whole : Text} (rest : Text) : Grammar.Whole whole →
    whole.length ≤ maxDigits → Number (signPart negative ++ (whole ++ rest))
      (.int (if negative then -Int.ofNat (digitsValue whole) else Int.ofNat (digitsValue whole)))
      rest
  | real (negative : Bool) {whole fraction places exponent : Text} {power : Option Int}
    (rest : Text) : Grammar.Whole whole → Places fraction places → Power exponent power →
    places ≠ [] ∨ power ≠ none →
    Number (signPart negative ++ (whole ++ (fraction ++ (exponent ++ rest))))
      (.float (floatOf negative whole places (power.getD 0))) rest

mutual

/-- A value at the front of a text. -/
inductive Value : Text → Json → Text → Prop
  | null (rest : Text) : Value ("null" ++ rest) .null rest
  | true (rest : Text) : Value ("true" ++ rest) (.bool true) rest
  | false (rest : Text) : Value ("false" ++ rest) (.bool false) rest
  | nan (rest : Text) : Value ("NaN" ++ rest) (.float Binary64.nan) rest
  | infinity (rest : Text) : Value ("Infinity" ++ rest) (.float (Binary64.infinity false)) rest
  | negativeInfinity (rest : Text) :
    Value ("-Infinity" ++ rest) (.float (Binary64.infinity true)) rest
  | number {t rest : Text} {v : Json} : Number t v rest → Value t v rest
  | string {t s rest : Text} : Body t s rest → Value (Point.ofChar '"' :: t) (.string s) rest
  | noItems {t rest : Text} : Gap t (Point.ofChar ']' :: rest) →
    Value (Point.ofChar '[' :: t) (.array []) rest
  | array {t first rest : Text} {items : List Json} : Gap t first → Items first items rest →
    Value (Point.ofChar '[' :: t) (.array items) rest
  | noMembers {t rest : Text} : Gap t (Point.ofChar '\x7d' :: rest) →
    Value (Point.ofChar '\x7b' :: t) (.object []) rest
  | object {t first rest : Text} {members : List (Text × Json)} : Gap t first →
    Members first members rest → Value (Point.ofChar '\x7b' :: t)
      (.object (members.foldl (fun found (name, value) => put name value found) [])) rest

/-- The items of an array, at least one, up to behind the closing bracket. -/
inductive Items : Text → List Json → Text → Prop
  | last {t behind rest : Text} {v : Json} : Value t v behind →
    Gap behind (Point.ofChar ']' :: rest) → Items t [v] rest
  | more {t behind front next rest : Text} {v : Json} {items : List Json} : Value t v behind →
    Gap behind (Point.ofChar ',' :: front) → Gap front next → Items next items rest →
    Items t (v :: items) rest

/-- The members of an object, at least one, up to behind the closing brace. -/
inductive Members : Text → List (Text × Json) → Text → Prop
  | last {t name behind front value after rest : Text} {v : Json} : Body t name behind →
    Gap behind (Point.ofChar ':' :: front) → Gap front value → Value value v after →
    Gap after (Point.ofChar '\x7d' :: rest) → Members (Point.ofChar '"' :: t) [(name, v)] rest
  | more {t name behind front value after front' next rest : Text} {v : Json}
    {members : List (Text × Json)} : Body t name behind → Gap behind (Point.ofChar ':' :: front) →
    Gap front value → Value value v after → Gap after (Point.ofChar ',' :: front') →
    Gap front' next → Members next members rest →
    Members (Point.ofChar '"' :: t) ((name, v) :: members) rest

end

end Dialect

/-- A whole text in the dialect and its value: blanks may stand around it, and nothing else. -/
def Denotes (t : Text) (v : Json) : Prop :=
  ∃ value rest, Dialect.Gap t value ∧ Dialect.Value value v rest ∧ Grammar.Blanks rest

end PhaseScript.Json
