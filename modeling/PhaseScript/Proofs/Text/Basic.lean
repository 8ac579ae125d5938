import PhaseScript.Text.Quoted
/-
Texts of Unicode scalar values, without a half of a surrogate pair, and the order of texts by code
points. What is spelled out of characters is a text of scalar values, and so is whatever is quoted:
the quotes escape what cannot be printed. A text whose small letters are ASCII has no surrogates.
-/
set_option autoImplicit false

namespace PhaseScript

@[simp] theorem Point.isSurrogate_ofChar (c : Char) : (Point.ofChar c).isSurrogate = false := by
  have valid : c.toNat < 0xD800 ∨ 0xDFFF < c.toNat ∧ c.toNat < 0x110000 := c.valid
  have value : (Point.ofChar c).val = c.toNat := rfl
  simp only [Point.isSurrogate, value, Bool.and_eq_false_iff, decide_eq_false_iff_not]
  omega

theorem Point.is_iff (p : Point) (c : Char) : p.is c = true ↔ p = Point.ofChar c := by
  rw [Point.is, beq_iff_eq, Fin.ext_iff]
  rfl

namespace Text

@[simp] theorem isScalar_append (a b : Text) : (a ++ b).isScalar = (a.isScalar && b.isScalar) :=
  List.all_append

@[simp] theorem isScalar_nil : isScalar [] = true := rfl

@[simp] theorem isScalar_cons (p : Point) (t : Text) : isScalar (p :: t) =
  (!p.isSurrogate && isScalar t) := rfl

/-- A text that may be missing, of scalar values if it is not. -/
def ScalarIfAny (given : Option Text) : Prop := ∀ t, given = some t → t.isScalar = true

theorem scalarIfAny_none : ScalarIfAny none := fun _ same => nomatch same

theorem scalarIfAny_some (t : Text) (scalar : t.isScalar = true) : ScalarIfAny (some t) :=
  fun _ same => Option.some.inj same ▸ scalar

theorem isScalar_ofChars (characters : List Char) : isScalar (characters.map Point.ofChar) =
    true := by
  refine List.all_eq_true.mpr fun p among => ?_
  obtain ⟨c, _, rfl⟩ := List.mem_map.mp among
  rw [Point.isSurrogate_ofChar]
  rfl

@[simp] theorem isScalar_ofString (s : String) : (ofString s).isScalar = true :=
  isScalar_ofChars s.toList

@[simp] theorem isScalar_ofNat (n : Nat) : (ofNat n).isScalar = true := isScalar_ofChars _

@[simp] theorem isScalar_ofInt (n : Int) : (ofInt n).isScalar = true := by
  cases n with
  | ofNat n => exact isScalar_ofNat n
  | negSucc n => rw [ofInt, isScalar_cons, Point.isSurrogate_ofChar, isScalar_ofNat]; rfl

theorem isScalar_hex (width n : Nat) : (hex width n).isScalar = true := by
  have filled : isScalar (List.replicate (width - (ofNatBase 16 n).length) (Point.ofChar '0')) =
      true := by
    rw [← List.map_replicate]
    exact isScalar_ofChars _
  rw [hex, padLeft, isScalar_append, filled, ofNatBase, isScalar_ofChars]
  rfl

theorem isScalar_drop (t : Text) (n : Nat) (scalar : t.isScalar = true) : isScalar (t.drop n) =
    true :=
  List.all_eq_true.mpr fun p among => List.all_eq_true.mp scalar p (List.mem_of_mem_drop among)

theorem isScalar_quotedPoint (quote : Char) (ascii : Bool) (p : Point)
    (scalar : p.isSurrogate = false) :
    (quotedPoint quote ascii p).isScalar = true := by
  have alone : isScalar [p] = true := by rw [isScalar_cons, scalar]; rfl
  unfold quotedPoint
  split
  · rw [isScalar_cons, alone, Point.isSurrogate_ofChar]
    rfl
  repeat' split
  all_goals simp only [alone, isScalar_append, isScalar_ofString, isScalar_hex, Bool.and_self]

@[simp] theorem isScalar_quoted (t : Text) (scalar : t.isScalar = true) : (quoted t).isScalar =
    true := by
  have inside : isScalar (t.flatMap (quotedPoint (quoteFor t) false)) = true := by
    refine List.all_eq_true.mpr fun q among => ?_
    obtain ⟨p, inside, escaped⟩ := List.mem_flatMap.mp among
    have single := List.all_eq_true.mp scalar p inside
    exact List.all_eq_true.mp (isScalar_quotedPoint _ false p (Bool.not_eq_true' _ ▸ single)) q
      escaped
  simp only [quoted, List.cons_append, isScalar_cons, isScalar_append, Point.isSurrogate_ofChar,
    inside]
  rfl

section Order

theorem le_nil_left (t : Text) : le [] t = true := by
  cases t <;> rfl

theorem not_le_nil (p : Point) (s : Text) : le (p :: s) [] = false := rfl

/-- Texts are ordered by their first points that differ. -/
theorem le_cons (p q : Point) (s t : Text) :
    le (p :: s) (q :: t) = true ↔ p.val < q.val ∨ (p.val = q.val ∧ le s t = true) := by
  rw [le, compare]
  by_cases less : p.val < q.val
  · rw [if_pos less]
    exact ⟨fun _ => Or.inl less, fun _ => rfl⟩
  rw [if_neg less]
  by_cases more : q.val < p.val
  · rw [if_pos more]
    constructor
    · intro impossible
      cases impossible
    · intro either
      omega
  · rw [if_neg more]
    have same : p.val = q.val := by omega
    exact ⟨fun rest => Or.inr ⟨same, rest⟩, fun either => (either.resolve_left less).2⟩

theorem le_total (s t : Text) : (le s t || le t s) = true := by
  rw [Bool.or_eq_true]
  induction s generalizing t with
  | nil => exact Or.inl (le_nil_left t)
  | cons p s ih =>
    cases t with
    | nil => exact Or.inr (le_nil_left _)
    | cons q t =>
      rw [le_cons, le_cons]
      rcases Nat.lt_trichotomy p.val q.val with less | same | more
      · exact Or.inl (Or.inl less)
      · rcases ih t with first | second
        · exact Or.inl (Or.inr ⟨same, first⟩)
        · exact Or.inr (Or.inr ⟨same.symm, second⟩)
      · exact Or.inr (Or.inl more)

theorem le_antisymm (s t : Text) (before : le s t = true) (behind : le t s = true) : s = t := by
  induction s generalizing t with
  | nil =>
    cases t with
    | nil => rfl
    | cons q t =>
      rw [not_le_nil] at behind
      cases behind
  | cons p s ih =>
    cases t with
    | nil =>
      rw [not_le_nil] at before
      cases before
    | cons q t =>
      rw [le_cons] at before behind
      have same : p.val = q.val := by omega
      rw [Fin.ext same, ih t (before.resolve_left (by omega)).2 (behind.resolve_left (by omega)).2]

theorem le_trans (r s t : Text) (first : le r s = true) (second : le s t = true) : le r t =
    true := by
  induction r generalizing s t with
  | nil => exact le_nil_left t
  | cons p r ih =>
    cases s with
    | nil =>
      rw [not_le_nil] at first
      cases first
    | cons q s =>
      cases t with
      | nil =>
        rw [not_le_nil] at second
        cases second
      | cons o t =>
        rw [le_cons] at first second ⊢
        rcases first with less | ⟨same, rest⟩
        · left
          rcases second with more | ⟨equal, _⟩ <;> omega
        · rcases second with more | ⟨equal, others⟩
          · left
            omega
          · exact Or.inr ⟨by omega, ih s t rest others⟩

end Order

end Text

namespace Category

/-- The numbers of a packed table from some place on, where a number is begun. -/
def numbersFrom : List Char → Nat → Nat → List Nat
  | [], _, _ => []
  | c :: rest, value, unit =>
    let d := packedDigit c
    if d < 32 then (value + unit * d) :: numbersFrom rest 0 1
    else numbersFrom rest (value + unit * (d - 32)) (unit * 32)

theorem toList_unpack (packed : String) :
    (unpack packed).toList = numbersFrom packed.toList 0 1 := by
  have go (chars : List Char) (acc : Array Nat × Nat × Nat) :
      (chars.foldl (fun (acc : Array Nat × Nat × Nat) c =>
        if packedDigit c < 32 then (acc.1.push (acc.2.1 + acc.2.2 * packedDigit c), 0, 1)
        else (acc.1, acc.2.1 + acc.2.2 * (packedDigit c - 32), acc.2.2 * 32)) acc).1.toList =
      acc.1.toList ++ numbersFrom chars acc.2.1 acc.2.2 := by
    induction chars generalizing acc with
    | nil => exact (List.append_nil _).symm
    | cons c rest ih =>
      rw [List.foldl_cons, numbersFrom, ih]
      split
      · rw [Array.toList_push, List.append_assoc]
        rfl
      · rfl
  exact (go packed.toList (#[], 0, 1)).trans (List.nil_append _)

/-- The entries of a packed table of cases. -/
def entriesOf (chars : List Char) : List (Nat × Text) :=
  caseEntries (numbersFrom chars 0 1).length (numbersFrom chars 0 1) 0

/-- A form that a table has stands in it beside its point. -/
theorem mem_entriesOf {packed : String} {n : Nat} {form : Text}
    (found : (CaseTable.ofPacked packed).form? n = some form) :
    (n, form) ∈ entriesOf packed.toList := by
  have table : CaseTable.ofPacked packed = ⟨((entriesOf packed.toList).map (·.1)).toArray,
      ((entriesOf packed.toList).map (·.2)).toArray⟩ := by
    rw [CaseTable.ofPacked, toList_unpack]
    rfl
  rw [table, CaseTable.form?] at found
  dsimp only at found
  split at found
  · cases found
  · split at found
    · next same =>
      rw [List.getElem?_toArray, List.getElem?_map, Option.map_eq_some_iff] at found
      obtain ⟨entry, inTable, rfl⟩ := found
      rw [Array.getD_eq_getD_getElem?, List.getElem?_toArray, List.getElem?_map, inTable] at same
      rw [← eq_of_beq same]
      exact List.mem_of_getElem? inTable
    · cases found

/-- Whether the forms of the surrogates and of all points behind them are more than ASCII. -/
def formsBeyondAscii (entries : List (Nat × Text)) : Bool :=
  entries.all fun entry => decide (entry.1 < 0xD800) || entry.2.any fun q => decide (128 ≤ q.val)

-- The table is one text of many pieces, which are taken for the rows of characters that they are.
set_option maxRecDepth 100000 in
theorem lowerCases_beyondAscii : formsBeyondAscii (entriesOf Data.lowerCases.toList) = true := by
  unfold Data.lowerCases
  simp only [String.toList_append]
  repeat rw [String.toList_ofList]
  decide +kernel

end Category

theorem Point.lowerForm_beyondAscii {p : Point} (far : 0xD800 ≤ p.val) :
    ∃ q ∈ p.lowerForm, 128 ≤ q.val := by
  rw [lowerForm, if_neg (by omega)]
  cases found : Category.lowerCases.form? p.val with
  | none => exact ⟨p, List.mem_singleton.mpr rfl, by omega⟩
  | some form =>
    have checked := List.all_eq_true.mp Category.lowerCases_beyondAscii _
      (Category.mem_entriesOf found)
    simpa [Nat.not_lt.mpr far] using checked

namespace Text

/-- What is ASCII in small letters has neither a surrogate in it nor a point behind them. -/
theorem lt_of_lower_ascii {t : Text} (ascii : ∀ q ∈ t.lower, q.val < 128) :
    ∀ p ∈ t, p.val < 0xD800 := by
  rw [lower] at ascii
  generalize ([] : List Point) = before at ascii
  induction t generalizing before with
  | nil => nofun
  | cons p rest ih =>
    rw [lowerFrom, List.forall_mem_append] at ascii
    refine List.forall_mem_cons.mpr ⟨Nat.lt_of_not_le fun far => ?_, ih _ ascii.2⟩
    obtain ⟨q, among, large⟩ := Point.lowerForm_beyondAscii far
    have noSigma : ¬ (p.val == 0x3A3) = true := by
      rw [beq_iff_eq]
      omega
    have small := ascii.1
    rw [lowerAmong, if_neg noSigma] at small
    exact Nat.not_lt.mpr large (small q among)

end Text

end PhaseScript
