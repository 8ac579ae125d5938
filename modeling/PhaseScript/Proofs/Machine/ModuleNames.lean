import Mathlib
import PhaseScript.Machine.Modules
import PhaseScript.Proofs.Pattern.Anything
import PhaseScript.Proofs.Text.Basic
/-
The names of modules in a setting. They stand between commas, with blanks around them perhaps, and
what is no plain name of ASCII letters, digits and underscores is passed over. The pattern of such
names is also found before a line end, but what was stripped of its blanks ends with none.
-/
set_option autoImplicit false

namespace PhaseScript

namespace Text

theorem splitAtPoint_eq_splitOn (c : Char) (t : Text) :
    splitAtPoint c t = List.splitOn (Point.ofChar c) t := by
  rw [List.splitOn_eq_splitOnP]
  induction t with
  | nil => rw [List.splitOnP_nil]; rfl
  | cons p rest ih =>
    have same : (p == Point.ofChar c) = p.is c := by
      rw [Bool.eq_iff_iff, beq_iff_eq, Point.is_iff]
    rw [List.splitOnP_cons_eq_if_modifyHead, same, ← ih, splitAtPoint, List.foldr_cons,
      ← splitAtPoint]
    split
    · rfl
    · cases pieces : splitAtPoint c rest with
      | nil => exact absurd (ih.symm.trans pieces) (List.splitOnP_ne_nil _ _)
      | cons piece others => rfl

theorem join_eq_intercalate (separator : Text) (pieces : List Text) :
    join separator pieces = separator.intercalate pieces := by
  induction pieces with
  | nil => rfl
  | cons piece pieces ih =>
    cases pieces with
    | nil => rw [join, List.intercalate_singleton]
    | cons next rest =>
      rw [join, ih, List.intercalate_cons_cons]
      exact List.cons_ne_nil _ _

theorem not_mem_of_mem_splitOn {p : Point} (t : Text) :
    ∀ piece ∈ List.splitOn p t, p ∉ piece := by
  rw [List.splitOn_eq_splitOnP]
  induction t with
  | nil => simp
  | cons q rest ih =>
    rw [List.splitOnP_cons_eq_if_modifyHead]
    split
    · exact List.forall_mem_cons.mpr ⟨List.not_mem_nil, ih⟩
    · next other =>
      rw [beq_iff_eq] at other
      cases pieces : List.splitOnP (fun x => x == p) rest with
      | nil => nofun
      | cons piece others =>
        rw [pieces] at ih
        obtain ⟨first, ih⟩ := List.forall_mem_cons.mp ih
        exact List.forall_mem_cons.mpr
          ⟨fun among => (List.mem_cons.mp among).elim (Ne.symm other) first, ih⟩

/-- A text is split into the pieces without the point that it is joined from with the point between
each two. -/
theorem splitAtPoint_eq_iff {c : Char} {t : Text} {pieces : List Text} :
    splitAtPoint c t = pieces ↔ pieces ≠ [] ∧ (∀ piece ∈ pieces, Point.ofChar c ∉ piece) ∧
      join [Point.ofChar c] pieces = t := by
  rw [splitAtPoint_eq_splitOn, join_eq_intercalate]
  constructor
  · rintro rfl
    exact ⟨List.splitOn_ne_nil _ _, not_mem_of_mem_splitOn t, List.intercalate_splitOn _⟩
  · rintro ⟨some, apart, rfl⟩
    exact List.splitOn_intercalate _ apart some

/-- What is left of a text without the blanks at its ends. -/
structure Trimmed (t core : Text) : Prop where
  around : ∃ before behind : Text, t = before ++ (core ++ behind) ∧
    (∀ p ∈ before, p.isBlank = true) ∧ ∀ p ∈ behind, p.isBlank = true
  opens : ∀ p, core.head? = some p → p.isBlank = false
  ends : ∀ p, core.getLast? = some p → p.isBlank = false

theorem dropWhile_of_head? {test : Point → Bool} {t : Text}
    (opens : ∀ p, t.head? = some p → test p = false) : t.dropWhile test = t := by
  cases t with
  | nil => rfl
  | cons p rest => rw [List.dropWhile_cons, opens p rfl, if_neg Bool.false_ne_true]

theorem head?_dropWhile {test : Point → Bool} {t : Text} {p : Point}
    (first : (t.dropWhile test).head? = some p) : test p = false := by
  have none := List.head?_dropWhile_not test t
  rwa [first] at none

theorem strip_eq_of_trimmed {t core : Text} (trimmed : Trimmed t core) : strip t = core := by
  obtain ⟨⟨before, behind, rfl, blank, blank'⟩, opens, ends⟩ := trimmed
  rw [strip, stripBy, List.dropWhile_append_of_pos blank]
  cases core with
  | nil => rw [List.nil_append, List.dropWhile_eq_nil_iff.mpr blank']; rfl
  | cons p rest =>
    have back : ∀ q ∈ behind.reverse, q.isBlank = true := fun q among =>
      blank' q (List.mem_reverse.mp among)
    have front : (p :: rest ++ behind).dropWhile Point.isBlank = p :: rest ++ behind :=
      dropWhile_of_head? fun q first => opens q first
    rw [front, dropEndWhile, List.reverse_append, List.dropWhile_append_of_pos back,
      dropWhile_of_head?, List.reverse_reverse]
    rwa [List.head?_reverse]

theorem trimmed_strip (t : Text) : Trimmed t (strip t) := by
  let front := t.dropWhile Point.isBlank
  let behind := (front.reverse.takeWhile Point.isBlank).reverse
  have whole : strip t ++ behind = front := by
    rw [strip, stripBy, dropEndWhile, ← List.reverse_append, List.takeWhile_append_dropWhile,
      List.reverse_reverse]
  refine ⟨⟨t.takeWhile Point.isBlank, behind, ?_, fun p => List.mem_takeWhile_imp,
    fun p among => List.mem_takeWhile_imp (List.mem_reverse.mp among)⟩, fun p first => ?_,
    fun p last => ?_⟩
  · rw [whole, List.takeWhile_append_dropWhile]
  · have leads : front.head? = some p := by
      rw [← whole, List.head?_append, first, Option.some_or]
    exact head?_dropWhile leads
  · rw [strip, stripBy, dropEndWhile, List.getLast?_reverse] at last
    exact head?_dropWhile last

/-- Stripping leaves a text without the blanks at its ends, and nothing else does. -/
theorem trimmed_iff {t core : Text} : Trimmed t core ↔ strip t = core :=
  ⟨strip_eq_of_trimmed, fun same => same ▸ trimmed_strip t⟩

end Text

namespace Machine

/-- What a name of a module may begin with: a letter of ASCII, or an underscore. -/
def OpensName (p : Point) : Prop := p.isAsciiLetter = true ∨ p = Point.ofChar '_'

instance (p : Point) : Decidable (OpensName p) := inferInstanceAs (Decidable (_ ∨ _))

/-- A plain name of a module: letters of ASCII, digits and underscores, with no digit in front. -/
inductive IsModuleName : Text → Prop
  | mk {first : Point} {rest : Text} (opens : OpensName first)
      (goesOn : ∀ p ∈ rest, OpensName p ∨ p.isAsciiDigit = true) : IsModuleName (first :: rest)

theorem isModuleName_cons {first : Point} {rest : Text} : IsModuleName (first :: rest) ↔
    OpensName first ∧ ∀ p ∈ rest, OpensName p ∨ p.isAsciiDigit = true :=
  ⟨fun ⟨opens, goesOn⟩ => ⟨opens, goesOn⟩, fun ⟨opens, goesOn⟩ => ⟨opens, goesOn⟩⟩

instance : DecidablePred IsModuleName
  | [] => isFalse nofun
  | _ :: _ => decidable_of_iff _ isModuleName_cons.symm

theorem moduleNames_eq_filter (setting : Text) : moduleNames setting =
    ((Text.splitAtPoint ',' setting).map Text.strip).filter fun t => decide (IsModuleName t) := by
  have opens (p : Point) : (p.isAsciiLetter || p.is '_') = decide (OpensName p) := by
    rw [Bool.eq_iff_iff, decide_eq_true_eq, Bool.or_eq_true, Point.is_iff, OpensName]
  rw [moduleNames]
  refine List.filter_congr fun t _ => ?_
  cases t with
  | nil => rfl
  | cons first rest =>
    rw [Bool.eq_iff_iff, decide_eq_true_eq, isModuleName_cons]
    simp only [opens, Bool.and_eq_true, decide_eq_true_eq, List.all_eq_true, Bool.or_eq_true]

/-- The names that pieces of a setting give in turn: each piece that is a name without the blanks at
its ends gives it, and any other piece gives none. -/
inductive Named : List Text → List Text → Prop
  | none : Named [] []
  | name {piece name : Text} {pieces names : List Text} (trimmed : piece.Trimmed name)
      (isName : IsModuleName name) (others : Named pieces names) :
      Named (piece :: pieces) (name :: names)
  | passed {piece core : Text} {pieces names : List Text} (trimmed : piece.Trimmed core)
      (other : ¬ IsModuleName core) (others : Named pieces names) : Named (piece :: pieces) names

theorem named_iff {pieces names : List Text} : Named pieces names ↔
    ((pieces.map Text.strip).filter fun t => decide (IsModuleName t)) = names := by
  constructor
  · intro named
    induction named with
    | none => rfl
    | name trimmed isName _ ih =>
      rw [List.map_cons, Text.trimmed_iff.mp trimmed,
        List.filter_cons_of_pos (by exact decide_eq_true isName), ih]
    | passed trimmed other _ ih =>
      rw [List.map_cons, Text.trimmed_iff.mp trimmed,
        List.filter_cons_of_neg (by exact mt of_decide_eq_true other), ih]
  · rintro rfl
    induction pieces with
    | nil => exact .none
    | cons piece pieces ih =>
      rw [List.map_cons]
      by_cases isName : IsModuleName piece.strip
      · rw [List.filter_cons_of_pos (by exact decide_eq_true isName)]
        exact .name (Text.trimmed_strip piece) isName ih
      · rw [List.filter_cons_of_neg (by exact mt of_decide_eq_true isName)]
        exact .passed (Text.trimmed_strip piece) isName ih

theorem not_blank_of_isModuleName {name : Text} (isName : IsModuleName name) :
    ∀ p ∈ name, p.isBlank = false ∧ p ≠ Point.ofChar ',' := by
  have going {p : Point} (fits : OpensName p ∨ p.isAsciiDigit = true) :
      p.isBlank = false ∧ p ≠ Point.ofChar ',' := by
    have value : 48 ≤ p.val ∧ p.val ≤ 122 := by
      rcases fits with (letter | rfl) | digit
      · simp only [Point.isAsciiLetter, Bool.or_eq_true, Bool.and_eq_true, decide_eq_true_eq]
          at letter
        omega
      · decide
      · simp only [Point.isAsciiDigit, Bool.and_eq_true, decide_eq_true_eq] at digit
        omega
    refine ⟨?_, ?_⟩
    · simp only [Point.isBlank, Bool.or_eq_false_iff, Bool.and_eq_false_iff,
        decide_eq_false_iff_not, beq_eq_false_iff_ne]
      omega
    · rintro rfl
      exact absurd value (by decide)
  obtain ⟨opens, goesOn⟩ := isName
  exact List.forall_mem_cons.mpr ⟨going (.inl opens), fun p among => going (goesOn p among)⟩

theorem strip_of_isModuleName {name : Text} (isName : IsModuleName name) : name.strip = name :=
  Text.trimmed_iff.mp
    { around := ⟨[], [], by simp, nofun, nofun⟩
      opens := fun p first => (not_blank_of_isModuleName isName p (List.mem_of_mem_head? first)).1
      ends := fun p last =>
        (not_blank_of_isModuleName isName p (List.mem_of_getLast? last)).1 }

/-- Names that are joined by commas are found again. -/
theorem moduleNames_join {names : List Text} (areNames : ∀ name ∈ names, IsModuleName name) :
    moduleNames (Text.join "," names) = names := by
  cases names with
  | nil => rfl
  | cons name rest =>
    have pieces : Text.splitAtPoint ',' (Text.join "," (name :: rest)) = name :: rest :=
      Text.splitAtPoint_eq_iff.mpr ⟨List.cons_ne_nil _ _, fun piece among comma =>
        (not_blank_of_isModuleName (areNames piece among) _ comma).2 rfl, rfl⟩
    have plain : (name :: rest).map Text.strip = name :: rest :=
      (List.map_congr_left fun piece among => strip_of_isModuleName (areNames piece among)).trans
        (List.map_id _)
    rw [moduleNames_eq_filter, pieces, plain, List.filter_eq_self]
    exact fun piece among => decide_eq_true (areNames piece among)

end Machine

namespace Pattern

open Machine (IsModuleName OpensName isModuleName_cons)

def smallLetters : SetItem := .range 97 122
def capitals : SetItem := .range 65 90

/-- What a name begins with, and what it goes on with. -/
def nameStart : Letter := .set ⟨false, false⟩ false [smallLetters, capitals, .point 95]
def nameRest : Letter := .set ⟨false, false⟩ false [smallLetters, capitals, .range 48 57, .point 95]

/-- The pattern of names: from the start of a text up to its end, or to the line end that it ends
with. -/
def ofNames : Pattern where
  nodes := [.anchor .textStart,
    .set ⟨false, false⟩ false [smallLetters, capitals, .point 95],
    .repeated .greedy 0 none
      [.set ⟨false, false⟩ false [smallLetters, capitals, .range 48 57, .point 95]],
    .anchor .beforeLastLineEnd]
  width := ⟨1, boundless⟩
  isText := true

theorem ofText_ofNames : Pattern.ofText "^[a-zA-Z_][a-zA-Z0-9_]*$" = .ok ofNames := by cbv

theorem holds_range {low high p : Point} : (SetItem.range low high).holds ⟨false, false⟩ p = true ↔
    low.val ≤ p.val ∧ p.val ≤ high.val := by
  simp only [SetItem.holds, Bool.false_and, Bool.or_false, Bool.and_eq_true, decide_eq_true_eq]

theorem holds_underscore {p : Point} : (SetItem.point 95).holds ⟨false, false⟩ p = true ↔
    p = Point.ofChar '_' := by
  simp only [SetItem.holds, Comparing.same, Bool.false_and, Bool.or_false, beq_iff_eq]
  exact eq_comm

theorem holds_nameStart {p : Point} : nameStart.holds p = true ↔ OpensName p := by
  have letter : p.isAsciiLetter = true ↔ 97 ≤ p.val ∧ p.val ≤ 122 ∨ 65 ≤ p.val ∧ p.val ≤ 90 := by
    simp only [Point.isAsciiLetter, Bool.or_eq_true, Bool.and_eq_true, decide_eq_true_eq]
    exact or_comm
  simp only [nameStart, Letter.holds, List.any_cons, List.any_nil, Bool.or_false, Bool.bne_false,
    Bool.or_eq_true, smallLetters, capitals, holds_range, holds_underscore, OpensName, letter,
    or_assoc]
  exact Iff.rfl

theorem holds_nameRest {p : Point} : nameRest.holds p = true ↔
    OpensName p ∨ p.isAsciiDigit = true := by
  have digit : p.isAsciiDigit = true ↔ 48 ≤ p.val ∧ p.val ≤ 57 := by
    simp only [Point.isAsciiDigit, Bool.and_eq_true, decide_eq_true_eq]
  have parts : nameRest.holds p = true ↔
      nameStart.holds p = true ∨ (SetItem.range 48 57).holds ⟨false, false⟩ p = true := by
    simp only [nameStart, nameRest, Letter.holds, List.any_cons, List.any_nil, Bool.or_false,
      Bool.bne_false, Bool.or_eq_true, or_assoc]
    exact or_congr_right (or_congr_right or_comm)
  rw [parts, holds_nameStart, holds_range, digit]
  exact Iff.rfl

/-- As many characters are counted as fit in a row. -/
theorem count_toArray (l : Letter) (t : Text) {most place : Nat}
    (enough : t.length ≤ place + most) :
    l.count t.toArray most place = ((t.drop place).takeWhile l.holds).length := by
  induction most generalizing place with
  | zero => rw [List.drop_eq_nil_of_le (by exact enough)]; rfl
  | succ most ih =>
    rw [Letter.count, List.getElem?_toArray]
    rcases Nat.lt_or_ge place t.length with inside | past
    · rw [List.getElem?_eq_getElem inside, List.drop_eq_getElem_cons inside, List.takeWhile_cons,
        ih (by omega)]
      dsimp only
      split <;> rfl
    · rw [List.getElem?_eq_none past, List.drop_eq_nil_of_le past]
      rfl

theorem rowMoves_ofNames : rowMoves ofNames.nodes = [.anchor .textStart, .letter nameStart,
    .letters .greedy 0 none nameRest, .anchor .beforeLastLineEnd] := rfl

theorem endurance_eq : endurance = 999999999995 + 5 := rfl

/-- A text of one character at least matches up to each place that can be its end. -/
theorem follow_ofNames (first : Point) (rest : Text) (fuel : Nat) (wake : Wake) :
    (follow (first :: rest).toArray (fuel + 5) false (rowMoves ofNames.nodes) 0 wake
        arrive).isFound = true ↔
      OpensName first ∧ ∃ n ≤ (rest.takeWhile nameRest.holds).length,
        Anchor.beforeLastLineEnd.holds (first :: rest).toArray (1 + n) = true := by
  have onward (place : Nat) (wake : Wake) : (follow (first :: rest).toArray (fuel + 2) false
      [.anchor .beforeLastLineEnd] place wake arrive).isFound =
        Anchor.beforeLastLineEnd.holds (first :: rest).toArray place := by
    rw [follow]
    dsimp only
    split
    · next ends => rw [follow, ends]; rfl
    · next on => rw [eq_false_of_ne_true on]; rfl
  have here : (first :: rest).toArray[0]? = some first := rfl
  rw [rowMoves_ofNames, follow]
  dsimp only
  rw [if_pos (by rfl), follow]
  simp only [here]
  split
  · next opens =>
    rw [follow]
    simp only [Nat.not_lt_zero, if_false, Nat.zero_add, Letter.run, Option.elim_none, firstLetter?,
      Nat.add_zero, Nat.sub_zero]
    have size : (first :: rest).toArray.size - 1 = rest.length := rfl
    rw [isFound_giveBack onward, size, count_toArray nameRest (first :: rest) (Nat.add_comm _ _).le]
    exact (and_iff_right (holds_nameStart.mp opens)).symm
  · next shut =>
    exact iff_of_false Bool.false_ne_true fun opens => shut (holds_nameStart.mpr opens.1)

theorem le_takeWhile_iff {α : Type} {test : α → Bool} {l : List α} {n : Nat}
    (inside : n ≤ l.length) :
    n ≤ (l.takeWhile test).length ↔ ∀ a ∈ l.take n, test a = true := by
  constructor
  · intro long a among
    have same : (l.takeWhile test ++ l.dropWhile test).take n = (l.takeWhile test).take n :=
      List.take_append_of_le_length long
    rw [List.takeWhile_append_dropWhile] at same
    rw [same] at among
    exact List.mem_takeWhile_imp (List.mem_of_mem_take among)
  · intro all
    have split : (l.take n ++ l.drop n).takeWhile test = l.take n ++ (l.drop n).takeWhile test :=
      List.takeWhile_append_of_pos all
    rw [List.take_append_drop] at split
    rw [split, List.length_append, List.length_take, min_eq_left inside]
    exact Nat.le_add_right _ _

theorem beforeLastLineEnd_iff {t : Text} {place : Nat} (inside : place ≤ t.length) :
    Anchor.beforeLastLineEnd.holds t.toArray place = true ↔
      t.drop place = [] ∨ t.drop place = "\n" := by
  have size : t.toArray.size = t.length := rfl
  rw [Anchor.holds, size, Bool.or_eq_true, Bool.and_eq_true, beq_iff_eq, beq_iff_eq,
    List.drop_eq_nil_iff, List.getElem?_toArray, ← List.head?_drop, Option.any_eq_true]
  refine or_congr (by omega) ?_
  have length : (t.drop place).length = t.length - place := List.length_drop
  constructor
  · rintro ⟨last, p, first, isEnd⟩
    obtain ⟨rest, split⟩ := List.head?_eq_some_iff.mp first
    rw [split] at length ⊢
    rw [List.length_cons] at length
    have none : rest = [] := List.eq_nil_of_length_eq_zero (by omega)
    rw [none, show p = Point.ofChar '\n' from Fin.ext (beq_iff_eq.mp isEnd)]
    rfl
  · intro ends
    rw [ends] at length ⊢
    have one : t.length - place = 1 := length.symm
    exact ⟨by omega, Point.ofChar '\n', rfl, rfl⟩

theorem startsOnly_ofNames {text : Array Point} {place : Nat} (on : place ≠ 0) (wake : Wake) :
    (follow text endurance false (rowMoves ofNames.nodes) place wake arrive).isFound = false := by
  have away : Anchor.textStart.holds text place = false := beq_eq_false_iff_ne.mpr on
  rw [rowMoves_ofNames, endurance_eq, follow]
  dsimp only
  rw [away]
  rfl

/-- The pattern is only found where it is found from the start. -/
theorem occursIn_ofNames_iff_atStart {first : Point} {rest : Text} :
    ofNames.occursIn (first :: rest) = true ↔ (follow (first :: rest).toArray endurance false
      (rowMoves ofNames.nodes) 0 ⟨0, #[]⟩ arrive).isFound = true := by
  have places : startingPlaces ofNames (first :: rest).toArray.size =
      List.range (rest.length + 2) := rfl
  rw [occursIn, places, List.any_eq_true]
  constructor
  · rintro ⟨place, -, found⟩
    rcases eq_or_ne place 0 with rfl | on
    · exact found
    · rw [startsOnly_ofNames on] at found
      exact absurd found Bool.false_ne_true
  · exact fun found => ⟨0, List.mem_range.mpr (Nat.succ_pos _), found⟩

/-- So many characters of a name, up to what can be the end, are a part with a line end at most
behind it. -/
theorem exists_end_iff {first : Point} {rest : Text} :
    (∃ n ≤ (rest.takeWhile nameRest.holds).length,
      Anchor.beforeLastLineEnd.holds (first :: rest).toArray (1 + n) = true) ↔
    ∃ part, (∀ p ∈ part, OpensName p ∨ p.isAsciiDigit = true) ∧
      (rest = part ∨ rest = part ++ "\n") := by
  have ends {n : Nat} (inside : n ≤ rest.length) : Anchor.beforeLastLineEnd.holds
      (first :: rest).toArray (1 + n) = true ↔ rest.drop n = [] ∨ rest.drop n = "\n" := by
    rw [Nat.add_comm, beforeLastLineEnd_iff (Nat.succ_le_succ inside), List.drop_succ_cons]
  constructor
  · rintro ⟨n, fits, found⟩
    have inside := fits.trans (List.takeWhile_prefix _).length_le
    refine ⟨rest.take n, fun p among => holds_nameRest.mp
      ((le_takeWhile_iff inside).mp fits p among), ?_⟩
    have whole := List.take_append_drop n rest
    refine ((ends inside).mp found).imp (fun none => ?_) fun lineEnd => ?_
    · rw [none, List.append_nil] at whole
      exact whole.symm
    · rw [lineEnd] at whole
      exact whole.symm
  · rintro ⟨part, goesOn, split⟩
    obtain ⟨behind, rfl, last⟩ : ∃ behind : Text, rest = part ++ behind ∧
        (behind = [] ∨ behind = "\n") :=
      split.elim (fun same => ⟨[], by rw [same, List.append_nil], .inl rfl⟩)
        fun same => ⟨_, same, .inr rfl⟩
    have inside : part.length ≤ (part ++ behind).length := by simp
    refine ⟨part.length, (le_takeWhile_iff inside).mpr fun p among => ?_, (ends inside).mpr ?_⟩
    · rw [List.take_left] at among
      exact holds_nameRest.mpr (goesOn p among)
    · rwa [List.drop_left]

theorem occursIn_ofNames_cons {first : Point} {rest : Text} :
    ofNames.occursIn (first :: rest) = true ↔
      OpensName first ∧ ∃ part, (∀ p ∈ part, OpensName p ∨ p.isAsciiDigit = true) ∧
        (rest = part ∨ rest = part ++ "\n") := by
  rw [occursIn_ofNames_iff_atStart, endurance_eq, follow_ofNames, exists_end_iff]

/-- The pattern is found in names, and in names with a line end behind them. -/
theorem occursIn_ofNames {t : Text} : ofNames.occursIn t = true ↔
    ∃ name, IsModuleName name ∧ (t = name ∨ t = name ++ "\n") := by
  cases t with
  | nil =>
    refine iff_of_false (by decide +kernel) ?_
    rintro ⟨_, ⟨_, _⟩, same | same⟩ <;> cases same
  | cons first rest =>
    rw [occursIn_ofNames_cons]
    constructor
    · rintro ⟨opens, part, goesOn, rfl | rfl⟩
      · exact ⟨_, ⟨opens, goesOn⟩, .inl rfl⟩
      · exact ⟨_, ⟨opens, goesOn⟩, .inr rfl⟩
    · rintro ⟨name, isName, rfl | same⟩
      · obtain ⟨opens, goesOn⟩ := isName
        exact ⟨opens, rest, goesOn, .inl rfl⟩
      · obtain ⟨opens, goesOn⟩ := isName
        cases same
        exact ⟨opens, _, goesOn, .inr rfl⟩

/-- In a text without blanks at its ends the pattern is found if and only if the text is a name. -/
theorem occursIn_ofNames_strip {t : Text} :
    ofNames.occursIn t.strip = true ↔ IsModuleName t.strip := by
  rw [occursIn_ofNames]
  refine ⟨?_, fun isName => ⟨_, isName, .inl rfl⟩⟩
  rintro ⟨name, isName, same | same⟩
  · rwa [same]
  · have last := (Text.trimmed_strip t).ends (Point.ofChar '\n')
    rw [same] at last
    exact absurd (last List.getLast?_concat) (by decide)

end Pattern

namespace Machine

/-- The names in a setting are those of its pieces that are names without their blanks, in order and
as often as they stand there. They are read the same when they are joined by commas, and the pattern
of names is found in them alone. -/
theorem moduleNames_exact (setting : Text) :
    (∀ names, moduleNames setting = names ↔ ∃ pieces, pieces ≠ [] ∧
      (∀ piece ∈ pieces, Point.ofChar ',' ∉ piece) ∧ Text.join "," pieces = setting ∧
      Named pieces names) ∧
    moduleNames (Text.join "," (moduleNames setting)) = moduleNames setting ∧
    ∃ pattern, Pattern.ofText "^[a-zA-Z_][a-zA-Z0-9_]*$" = .ok pattern ∧
      moduleNames setting =
        ((Text.splitAtPoint ',' setting).map Text.strip).filter pattern.occursIn := by
  refine ⟨fun names => ?_, moduleNames_join fun name among => ?_, Pattern.ofNames,
    Pattern.ofText_ofNames, ?_⟩
  · rw [moduleNames_eq_filter, ← named_iff]
    constructor
    · intro named
      obtain ⟨some, apart, whole⟩ := (Text.splitAtPoint_eq_iff (c := ',') (t := setting)).mp rfl
      exact ⟨_, some, apart, whole, named⟩
    · rintro ⟨pieces, some, apart, whole, named⟩
      rwa [Text.splitAtPoint_eq_iff.mpr ⟨some, apart, whole⟩]
  · rw [moduleNames_eq_filter, List.mem_filter] at among
    exact of_decide_eq_true among.2
  · rw [moduleNames_eq_filter]
    refine List.filter_congr fun t among => ?_
    obtain ⟨piece, -, rfl⟩ := List.mem_map.mp among
    rw [Bool.eq_iff_iff, decide_eq_true_eq, Pattern.occursIn_ofNames_strip]

end Machine

end PhaseScript
