import PhaseScript.Pattern.Reader
import PhaseScript.Proofs.Text.Basic
/-
What is said of a text that is no pattern: it quotes no more than what was read, so of a text of
Unicode scalar values it is again such a text.
-/
set_option autoImplicit false

namespace PhaseScript.Pattern

/-- A reader that is given scalar values leaves scalar values, says scalar values of a fault, and
keeps its promise. -/
def Keeps {α : Type} (x : Reader α) (promised : α → Prop) : Prop :=
  ∀ r : Reading, r.rest.isScalar = true → match x r with
    | .ok a after => promised a ∧ after.rest.isScalar = true
    | .error fault _ => fault.message.isScalar = true

section Rules

variable {α β : Type} {promised : α → Prop} {kept : β → Prop}

theorem keeps_pure {a : α} (holds : promised a) : Keeps (pure a) promised := fun _ scalar =>
    ⟨holds, scalar⟩

theorem keeps_bind {x : Reader α} {next : α → Reader β} (first : Keeps x promised)
    (second : ∀ a, promised a → Keeps (next a) kept) : Keeps (x >>= next) kept := by
  intro r scalar
  have ran := first r scalar
  simp only [bind, EStateM.bind]
  revert ran
  cases x r with
  | ok a after => exact fun ran => second a ran.1 after ran.2
  | error fault after => exact fun ran => ran

/-- What is read after something of which nothing is promised. -/
theorem keeps_then {x : Reader α} {next : α → Reader β} (first : Keeps x fun _ => True)
    (second : ∀ a, Keeps (next a) kept) : Keeps (x >>= next) kept :=
  keeps_bind first fun a _ => second a

theorem keeps_get : Keeps get fun r => r.rest.isScalar = true := fun _ scalar => ⟨scalar, scalar⟩

theorem keeps_set {r : Reading} (scalar : r.rest.isScalar = true) : Keeps (set r) fun _ => True :=
  fun _ _ => ⟨trivial, scalar⟩

theorem keeps_modify {f : Reading → Reading} (scalar : ∀ r : Reading, r.rest.isScalar = true →
    (f r).rest.isScalar = true) : Keeps (modify f) fun _ => True :=
  fun r before => ⟨trivial, scalar r before⟩

theorem keeps_throw {fault : Fault} (scalar : fault.message.isScalar = true) :
    Keeps (throw fault : Reader α) promised := fun _ _ => scalar

/-- A refusal under a condition, and what is read unless it is met. -/
theorem keeps_guard {condition : Prop} [Decidable condition] {refuse : Reader PUnit}
    {next : PUnit → Reader β} (refuses : Keeps refuse fun _ => True)
    (others : Keeps (next ⟨⟩) kept) :
    Keeps (if condition then refuse >>= next else next ⟨⟩) kept := by
  split
  · apply keeps_bind refuses
    intro _ _
    exact others
  · exact others

theorem keeps_ite {condition : Prop} [Decidable condition] {yes no : Reader α}
    (keepsYes : Keeps yes promised) (keepsNo : Keeps no promised) :
    Keeps (if condition then yes else no) promised := by
  split
  · exact keepsYes
  · exact keepsNo

/-- What is read in one of two ways, and what follows either. -/
theorem keeps_either {condition : Prop} [Decidable condition] {yes no : Reader α}
    {next : α → Reader β} (keepsYes : Keeps yes promised) (keepsNo : Keeps no promised)
    (others : ∀ a, promised a → Keeps (next a) kept) :
    Keeps (if condition then yes >>= next else no >>= next) kept :=
  keeps_ite (keeps_bind keepsYes others) (keeps_bind keepsNo others)

end Rules

/-- What is said of a fault at a place adds no more than the place. -/
theorem isScalar_message_at (words : Text) (place : Nat) (whole : Text)
    (scalar : words.isScalar = true) :
    (Fault.at words place whole).message.isScalar = true := by
  dsimp only [Fault.message]
  split <;> simp [scalar]

theorem keeps_failAt {α : Type} {promised : α → Prop} {words : Text} {place : Nat}
    (scalar : words.isScalar = true) :
    Keeps (Reader.failAt words place : Reader α) promised :=
  fun r _ => isScalar_message_at words place r.whole scalar

theorem keeps_fail {α : Type} {promised : α → Prop} {words : Text} {back : Nat}
    (scalar : words.isScalar = true) :
    Keeps (Reader.fail words back : Reader α) promised :=
  fun r _ => isScalar_message_at words _ r.whole scalar

theorem keeps_place : Keeps Reader.place fun _ => True := fun _ scalar => ⟨trivial, scalar⟩

theorem keeps_peek : Keeps Reader.peek Text.ScalarIfAny := by
  apply keeps_bind keeps_get
  intro r scalar
  split
  · exact keeps_pure Text.scalarIfAny_none
  · next p rest => exact keeps_pure (Text.scalarIfAny_some _ (rest ▸ scalar))
  · next p q rest shown =>
    rw [shown, Text.isScalar_cons, Text.isScalar_cons, Bool.and_eq_true, Bool.and_eq_true] at scalar
    refine keeps_pure (Text.scalarIfAny_some _ ?_)
    split
    · rw [Text.isScalar_cons, Text.isScalar_cons, scalar.1, scalar.2.1]; rfl
    · rw [Text.isScalar_cons, scalar.1]; rfl

theorem keeps_checkEnd : Keeps Reader.checkEnd fun _ => True := by
  apply keeps_bind keeps_get
  intro r _
  split
  · refine keeps_ite (keeps_bind keeps_place fun _ _ => keeps_failAt (Text.isScalar_ofString _))
      (keeps_pure trivial)
  · exact keeps_pure trivial

theorem keeps_skip : Keeps Reader.skip fun _ => True := by
  apply keeps_bind keeps_peek
  intro token _
  split
  · exact keeps_pure trivial
  · apply keeps_bind (keeps_modify fun r scalar => Text.isScalar_drop _ _ scalar)
    intro _ _
    exact keeps_checkEnd

theorem keeps_take : Keeps Reader.take Text.ScalarIfAny :=
  keeps_bind keeps_peek fun _ scalar => keeps_bind keeps_skip fun _ _ => keeps_pure scalar

theorem keeps_accept (c : Char) : Keeps (Reader.accept c) fun _ => True := by
  apply keeps_bind keeps_peek
  intro token _
  split
  · exact keeps_ite (keeps_bind keeps_skip fun _ _ => keeps_pure trivial) (keeps_pure trivial)
  · exact keeps_pure trivial

theorem keeps_takeWhile (fits : Point → Bool) (count : Nat) :
    Keeps (Reader.takeWhile fits count) fun t => t.isScalar = true := by
  induction count with
  | zero => exact keeps_pure rfl
  | succ count ih =>
    apply keeps_bind keeps_peek
    intro token scalar
    split
    · next p =>
      refine keeps_ite (keeps_bind keeps_skip fun _ _ => keeps_bind ih fun t more => keeps_pure ?_)
        (keeps_pure rfl)
      have single := scalar [p] rfl
      rw [Text.isScalar_cons, Bool.and_eq_true] at single
      rw [Text.isScalar_cons, single.1, more]
      rfl
    · exact keeps_pure rfl

theorem keeps_takeUntil (closing : Char) (what : Text) (known : what.isScalar = true) (fuel : Nat)
    (found : Text) (scalar : found.isScalar = true) :
    Keeps (Reader.takeUntil closing what fuel found) fun t => t.isScalar = true := by
  induction fuel generalizing found with
  | zero => exact keeps_pure scalar
  | succ fuel ih =>
    apply keeps_bind keeps_take
    intro token more
    split
    · exact keeps_ite (keeps_fail (by simp [known])) (keeps_fail (by simp))
    · next t =>
      refine keeps_ite (keeps_ite (keeps_fail (by simp [known])) (keeps_pure scalar)) (ih _ ?_)
      simp [scalar, more t rfl]

theorem keeps_untilClosing (closing : Char) (what : Text) (known : what.isScalar = true) :
    Keeps (Reader.untilClosing closing what) fun t => t.isScalar = true :=
  keeps_bind keeps_get fun _ _ => keeps_takeUntil closing what known _ [] rfl

theorem keeps_hexEscape (start : Nat) (token : Text) (scalar : token.isScalar = true)
    (count : Nat) :
    Keeps (hexEscape start token count) fun _ => True := by
  apply keeps_bind (keeps_takeWhile isHex count)
  intro digits more
  refine keeps_guard (keeps_failAt (by simp [scalar, more])) ?_
  exact keeps_guard (keeps_failAt (by simp [scalar, more])) (keeps_pure trivial)

theorem keeps_namedEscape (start : Nat) : Keeps (namedEscape start) fun _ => True := by
  apply keeps_bind (keeps_accept _)
  intro _ _
  refine keeps_guard (keeps_fail (by simp)) ?_
  apply keeps_bind (keeps_untilClosing _ _ (by simp))
  intro name scalar
  split
  · exact keeps_pure trivial
  · exact keeps_failAt (by simp [scalar])

theorem keeps_commonEscape? (start : Nat) (token : Text) (scalar : token.isScalar = true)
    (c : Point) :
    Keeps (commonEscape? start token c) fun _ => True := by
  have hex (count : Nat) : Keeps (do return some (← hexEscape start token count)) fun _ => True :=
    keeps_bind (keeps_hexEscape start token scalar count) fun _ _ => keeps_pure trivial
  refine keeps_ite (hex 2) (keeps_bind keeps_get fun r _ => ?_)
  refine keeps_ite (keeps_pure trivial)
    (keeps_ite (hex 4) (keeps_ite (hex 8) (keeps_ite ?_ (keeps_pure trivial))))
  apply keeps_bind (keeps_namedEscape start)
  intro _ _
  exact keeps_pure trivial

theorem keeps_octalPoint (start : Nat) (escape : Text) (scalar : escape.isScalar = true) :
    Keeps (octalPoint start escape) fun _ => True := by
  unfold octalPoint
  exact keeps_guard (keeps_failAt (by simp [scalar])) (keeps_pure trivial)

theorem keeps_plainEscape (start : Nat) (token : Text) (scalar : token.isScalar = true)
    (c : Point) :
    Keeps (plainEscape start token c) fun _ => True := by
  unfold plainEscape
  exact keeps_guard (keeps_failAt (by simp [scalar])) (keeps_pure trivial)

theorem keeps_setEscape (token : Text) (scalar : token.isScalar = true) :
    Keeps (setEscape token) fun _ => True := by
  apply keeps_bind keeps_place
  intro _ _
  dsimp only
  split
  · exact keeps_pure trivial
  · exact keeps_pure trivial
  · apply keeps_bind (keeps_commonEscape? _ token scalar _)
    intro _ _
    split
    · exact keeps_pure trivial
    · refine keeps_ite (keeps_bind (keeps_takeWhile isOctal 2) fun more octal => ?_) ?_
      · apply keeps_bind (keeps_octalPoint _ _ (by simp [scalar, octal]))
        intro _ _
        exact keeps_pure trivial
      · apply keeps_bind (keeps_plainEscape _ token scalar _)
        intro _ _
        exact keeps_pure trivial

theorem keeps_checkReference (group : Nat) (words : Text) (scalar : words.isScalar = true)
    (back : Nat) :
    Keeps (checkReference group words back) fun _ => True :=
  keeps_bind keeps_get fun _ _ => keeps_ite (keeps_fail scalar) (keeps_pure trivial)

theorem keeps_checkBehind (group : Nat) : Keeps (checkBehind group) fun _ => True := by
  apply keeps_bind keeps_get
  intro _ _
  split
  · exact keeps_pure trivial
  · exact keeps_guard (keeps_fail (by simp)) (keeps_ite (keeps_fail (by simp)) (keeps_pure trivial))

theorem keeps_digitEscape (flags : Flags) (start : Nat) (token : Text)
    (scalar : token.isScalar = true) :
    Keeps (digitEscape flags start token) fun _ => True := by
  apply keeps_bind (keeps_takeWhile _ 1)
  intro second more
  refine keeps_either (keeps_takeWhile isOctal 1) (keeps_pure rfl) fun third most => ?_
  refine keeps_ite (keeps_bind (keeps_octalPoint _ _ (by simp [scalar, more, most])) fun _ _ =>
    keeps_pure trivial) ?_
  apply keeps_bind keeps_get
  intro _ _
  refine keeps_ite ?_ (keeps_fail (by simp))
  apply keeps_bind (keeps_checkReference _ _ (by simp) _)
  intro _ _
  apply keeps_bind (keeps_checkBehind _)
  intro _ _
  exact keeps_pure trivial

theorem keeps_escapeNode (flags : Flags) (token : Text) (scalar : token.isScalar = true) :
    Keeps (escapeNode flags token) fun _ => True := by
  apply keeps_bind keeps_place
  intro start _
  refine keeps_ite (keeps_pure trivial)
    (keeps_ite (keeps_pure trivial)
    (keeps_ite (keeps_pure trivial) (keeps_ite (keeps_pure trivial) ?_)))
  split
  · exact keeps_pure trivial
  · exact keeps_pure trivial
  · apply keeps_bind (keeps_commonEscape? _ token scalar _)
    intro _ _
    split
    · exact keeps_pure trivial
    · refine keeps_ite (keeps_bind (keeps_takeWhile isOctal 2) fun _ _ => keeps_pure trivial)
        (keeps_ite ?_ ?_)
      · exact keeps_digitEscape flags _ token scalar
      · apply keeps_bind (keeps_plainEscape _ token scalar _)
        intro _ _
        exact keeps_pure trivial

theorem keeps_setMember (token : Text) (scalar : token.isScalar = true) :
    Keeps (setMember token) fun _ => True := by
  unfold setMember
  split
  · exact keeps_pure trivial
  · exact keeps_setEscape token scalar

theorem keeps_setItems (here fuel : Nat) (found : List SetItem) :
    Keeps (setItems here fuel found) fun _ => True := by
  induction fuel generalizing found with
  | zero => exact keeps_pure trivial
  | succ fuel ih =>
    apply keeps_bind keeps_take
    intro token scalar
    split
    · exact keeps_failAt (by simp)
    · next token =>
      have known := scalar token rfl
      refine keeps_ite (keeps_pure trivial) (keeps_bind (keeps_setMember token known) fun first _ =>
        ?_)
      apply keeps_bind (keeps_accept '-')
      intro _ _
      refine keeps_ite (ih _) (keeps_bind keeps_take fun second more => ?_)
      split
      · exact keeps_failAt (by simp)
      · next second =>
        have last := more second rfl
        refine keeps_ite (keeps_pure trivial) (keeps_bind (keeps_setMember second last) fun _ _ =>
          ?_)
        dsimp only
        split
        · exact keeps_ite (keeps_fail (by simp [known, last])) (ih _)
        · exact keeps_fail (by simp [known, last])

theorem keeps_setNode (flags : Flags) : Keeps (setNode flags) fun _ => True := by
  apply keeps_bind keeps_place
  intro _ _
  apply keeps_bind (keeps_accept '^')
  intro _ _
  apply keeps_bind keeps_get
  intro _ _
  apply keeps_bind (keeps_setItems _ _ [])
  intro _ _
  exact keeps_pure trivial

theorem keeps_repetitions? (mark : Point) : Keeps (repetitions? mark) fun _ => True := by
  refine keeps_ite (keeps_pure trivial)
    (keeps_ite (keeps_pure trivial) (keeps_ite (keeps_pure trivial) ?_))
  apply keeps_bind keeps_place
  intro here _
  apply keeps_bind keeps_get
  intro r scalar
  apply keeps_bind keeps_peek
  intro token _
  extract_lets count bound rest
  have bounded (digits : Text) : Keeps (bound digits) fun _ => True := by
    refine keeps_ite (keeps_pure trivial)
      (keeps_guard (keeps_throw ?_) (keeps_guard (keeps_throw ?_) ?_))
    · simp [Fault.message, Json.digitLimit]
    · simp [Fault.message]
    · exact keeps_pure trivial
  have onward : Keeps (rest ⟨⟩) fun _ => True := by
    apply keeps_bind (keeps_takeWhile _ count)
    intro low _
    apply keeps_bind (keeps_accept ',')
    intro _ _
    refine keeps_either (keeps_takeWhile _ count) (keeps_pure ‹_›) fun high _ => ?_
    apply keeps_bind (keeps_accept _)
    intro _ _
    refine keeps_ite (keeps_bind (keeps_modify fun _ _ => scalar) fun _ _ => keeps_pure trivial) ?_
    apply keeps_bind (bounded low)
    intro _ _
    apply keeps_bind (bounded high)
    intro most _
    dsimp only
    split
    · exact keeps_guard (keeps_failAt (by simp)) (keeps_pure trivial)
    · exact keeps_pure trivial
  split
  · exact keeps_ite (keeps_pure trivial) onward
  · exact onward

theorem keeps_repeatLast (mark least : Nat) (most : Option Nat) (found : List Node) :
    Keeps (repeatLast mark least most found) fun _ => True := by
  unfold repeatLast
  split
  · exact keeps_failAt (by simp)
  · exact keeps_failAt (by simp)
  · exact keeps_failAt (by simp)
  · apply keeps_bind (keeps_accept '?')
    intro _ _
    refine keeps_ite (keeps_pure trivial) ?_
    apply keeps_bind (keeps_accept '+')
    intro _ _
    exact keeps_ite (keeps_pure trivial) (keeps_pure trivial)

theorem keeps_refuseFlag {α : Type} {promised : α → Prop} (token otherwise : Text)
    (scalar : otherwise.isScalar = true) : Keeps (refuseFlag token otherwise : Reader α)
    promised := by
  refine keeps_fail ?_
  split
  · simp
  · exact scalar

/-- What ends the flags is a token of scalar values. -/
theorem keeps_flagsOn (fuel : Nat) (flag : Flag) (found : Flags) :
    Keeps (flagsOn fuel flag found) fun _ => True := by
  induction fuel generalizing flag found with
  | zero => exact keeps_pure trivial
  | succ fuel ih =>
    apply keeps_bind keeps_get
    intro _ _
    refine keeps_guard (keeps_fail (by simp)) (keeps_guard (keeps_fail (by simp)) ?_)
    refine keeps_guard (keeps_fail (by simp)) (keeps_bind keeps_take fun token _ => ?_)
    split
    · exact keeps_fail (by simp)
    · refine keeps_ite (keeps_pure trivial) ?_
      split
      · exact ih _ _
      · exact keeps_refuseFlag _ _ (by simp)

theorem keeps_flagsOff (fuel : Nat) (flag : Flag) (found : Flags) :
    Keeps (flagsOff fuel flag found) fun _ => True := by
  induction fuel generalizing flag found with
  | zero => exact keeps_pure trivial
  | succ fuel ih =>
    unfold flagsOff
    refine keeps_guard (keeps_fail (by simp)) (keeps_bind keeps_take fun token _ => ?_)
    split
    · exact keeps_fail (by simp)
    · refine keeps_ite (keeps_pure trivial) ?_
      split
      · exact ih _ _
      · exact keeps_refuseFlag _ _ (by simp)

theorem keeps_readFlags (token : Text) : Keeps (readFlags token) fun _ => True := by
  apply keeps_bind keeps_get
  intro _ _
  extract_lets fuel rest
  have onward (read : Flags × Text) : Keeps (rest read) fun _ => True := by
    refine keeps_ite (keeps_bind (keeps_modify fun _ scalar => scalar) fun _ _ =>
      keeps_pure trivial) ?_
    refine keeps_guard (keeps_fail (by simp)) ?_
    extract_lets ending
    have closing (off : Flags) : Keeps (ending off) fun _ => True :=
      keeps_guard (keeps_fail (by simp)) (keeps_guard (keeps_fail (by simp)) (keeps_pure trivial))
    refine keeps_ite (keeps_bind keeps_take fun second _ => ?_) (closing [])
    split
    · exact keeps_then (keeps_fail (by simp)) closing
    · split
      · apply keeps_bind (keeps_flagsOff fuel _ [])
        intro _ _
        exact closing _
      · exact keeps_then (keeps_refuseFlag _ _ (by simp)) closing
  split
  · apply keeps_bind (keeps_flagsOn fuel _ [])
    intro _ _
    exact onward _
  · exact onward ([], token)

theorem keeps_close (start : Nat) : Keeps (close start) fun _ => True :=
  keeps_bind (keeps_accept ')') fun _ _ => keeps_ite (keeps_failAt (by simp)) (keeps_pure trivial)

theorem keeps_checkName (name : Text) (scalar : name.isScalar = true) :
    Keeps (checkName name) fun _ => True :=
  keeps_ite (keeps_fail (by simp [scalar])) (keeps_pure trivial)

theorem keeps_groupNamed (name : Text) (scalar : name.isScalar = true) :
    Keeps (groupNamed name) fun _ => True := by
  apply keeps_bind keeps_get
  intro _ _
  split
  · exact keeps_pure trivial
  · exact keeps_fail (by simp [scalar])

theorem keeps_openGroup (name : Option Text) (scalar : Text.ScalarIfAny name) :
    Keeps (openGroup name) fun _ => True := by
  apply keeps_bind keeps_get
  intro r known
  dsimp only
  split
  · exact keeps_bind (keeps_set known) fun _ _ => keeps_pure trivial
  · next name =>
    split
    · refine keeps_then (keeps_fail ?_) fun _ => keeps_pure trivial
      simp [scalar name rfl]
    · exact keeps_bind (keeps_set known) fun _ _ => keeps_pure trivial

/-- Readers of what stands inside brackets that keep to scalar values. -/
structure Inner.Keep (inner : Inner) : Prop where
  alternatives (s : Setting) : Keeps (inner.alternatives s) fun _ => True
  row (s : Setting) : Keeps (inner.row s) fun _ => True

section Brackets

variable {inner : Inner} (keep : inner.Keep) (s : Setting) (start : Nat)

include keep

theorem keeps_captured (name : Option Text) (scalar : Text.ScalarIfAny name) :
    Keeps (captured inner s start name) fun _ => True := by
  apply keeps_bind (keeps_openGroup name scalar)
  intro _ _
  apply keeps_bind (keep.alternatives _)
  intro _ _
  apply keeps_bind (keeps_close start)
  intro _ _
  exact keeps_bind (keeps_modify fun _ scalar => scalar) fun _ _ => keeps_pure trivial

theorem keeps_lookNode (isBehind isNegated : Bool) :
    Keeps (lookNode inner s start isBehind isNegated) fun _ => True := by
  apply keeps_bind keeps_get
  intro _ _
  refine keeps_guard (keeps_modify fun _ scalar => scalar) ?_
  apply keeps_bind (keep.alternatives _)
  intro _ _
  refine keeps_guard (keeps_modify fun _ scalar => scalar) ?_
  apply keeps_bind (keeps_close start)
  intro _ _
  apply keeps_bind keeps_get
  intro _ _
  exact keeps_pure trivial

omit keep in
theorem keeps_conditionGroup : Keeps conditionGroup fun _ => True := by
  apply keeps_bind (keeps_untilClosing _ _ (by simp))
  intro name scalar
  refine keeps_ite (keeps_groupNamed name scalar) ?_
  extract_lets refuse
  have refused : Keeps refuse fun _ => True := keeps_fail (by simp [scalar])
  split
  · exact refused
  · refine keeps_ite refused
      (keeps_ite (keeps_fail (by simp)) (keeps_ite (keeps_fail (by simp)) ?_))
    apply keeps_bind keeps_place
    intro _ _
    refine keeps_bind (keeps_modify fun r before => ?_) fun _ _ => keeps_pure trivial
    split <;> exact before

theorem keeps_conditional : Keeps (conditional inner s start) fun _ => True := by
  apply keeps_bind keeps_conditionGroup
  intro group _
  apply keeps_bind (keeps_checkBehind group)
  intro _ _
  apply keeps_bind (keep.row _)
  intro _ _
  apply keeps_bind (keeps_accept '|')
  intro _ _
  extract_lets rest
  have onward (no : List Node) : Keeps (rest no) fun _ => True :=
    keeps_bind (keeps_close start) fun _ _ => keeps_pure trivial
  refine keeps_ite (keeps_bind (keep.row _) fun _ _ => keeps_bind keeps_peek fun _ _ => ?_)
    (onward [])
  dsimp only
  split
  · exact keeps_guard (keeps_fail (by simp)) (onward _)
  · exact onward _

omit keep in
theorem keeps_skipRemark (fuel : Nat) : Keeps (skipRemark start fuel) fun _ => True := by
  induction fuel with
  | zero => exact keeps_pure trivial
  | succ fuel ih =>
    apply keeps_bind keeps_take
    intro _ _
    split
    · exact keeps_failAt (by simp)
    · exact keeps_ite (keeps_pure trivial) ih

theorem keeps_namedGroup : Keeps (namedGroup inner s start) fun _ => True := by
  have named (closing : Char) : Keeps (Reader.untilClosing closing "group name") fun t =>
      t.isScalar = true :=
    keeps_untilClosing closing _ (by simp)
  apply keeps_bind (keeps_accept '<')
  intro _ _
  refine keeps_ite ?_ (keeps_bind (keeps_accept '=') fun _ _ => keeps_ite ?_ ?_)
  · apply keeps_bind (named '>')
    intro name scalar
    apply keeps_bind (keeps_checkName name scalar)
    intro _ _
    exact keeps_captured keep s start (some name) (Text.scalarIfAny_some name scalar)
  · refine keeps_bind (named ')') fun name scalar =>
      keeps_bind (keeps_checkName name scalar) fun _ _ => ?_
    apply keeps_bind (keeps_groupNamed name scalar)
    intro group _
    apply keeps_bind (keeps_checkReference group _ (by simp) _)
    intro _ _
    apply keeps_bind (keeps_checkBehind group)
    intro _ _
    exact keeps_pure trivial
  · apply keeps_bind keeps_take
    intro token scalar
    split
    · exact keeps_fail (by simp)
    · next token => exact keeps_fail (by simp [scalar token rfl])

theorem keeps_flagGroup (on off : Flags) : Keeps (flagGroup inner s start on off) fun _ => True :=
  keeps_bind (keep.alternatives _) fun _ _ => keeps_bind (keeps_close start) fun _ _ =>
  keeps_pure trivial

theorem keeps_extension (isRowEmpty : Bool) : Keeps (extension inner s start isRowEmpty) fun _ =>
    True := by
  have part {x : Reader Node} (keeps : Keeps x fun _ => True) :
      Keeps (do return Bracketed.parts [← x]) fun _ => True :=
    keeps_bind keeps fun _ _ => keeps_pure trivial
  apply keeps_bind keeps_take
  intro token scalar
  split
  · exact keeps_fail (by simp)
  · next token =>
    refine keeps_ite (part (keeps_namedGroup keep s start)) ?_
    refine keeps_ite (part (keeps_flagGroup keep s start [] [])) ?_
    refine keeps_ite (keeps_bind keeps_get fun _ _ =>
      keeps_bind (keeps_skipRemark start _) fun _ _ => keeps_pure trivial) ?_
    refine keeps_ite (part (keeps_lookNode keep s start false false)) ?_
    refine keeps_ite (part (keeps_lookNode keep s start false true)) ?_
    refine keeps_ite (keeps_bind keeps_take fun second more => ?_) ?_
    · split
      · exact keeps_fail (by simp)
      · next second =>
        exact keeps_ite (part (keeps_lookNode keep s start true false))
          (keeps_ite (part (keeps_lookNode keep s start true true))
          (keeps_fail (by simp [more second rfl])))
    refine keeps_ite (part (keeps_conditional keep s start)) ?_
    refine keeps_ite ?_ (keeps_ite (keeps_bind (keeps_readFlags token) fun flags _ => ?_)
      (keeps_fail ?_))
    · apply keeps_bind (keep.alternatives _)
      intro _ _
      apply keeps_bind (keeps_close start)
      intro _ _
      exact keeps_pure trivial
    · split
      · exact part (keeps_flagGroup keep s start _ _)
      · exact keeps_guard (keeps_failAt (by simp)) (keeps_pure trivial)
    · simp [scalar token rfl]

end Brackets

theorem keeps_skipLine (fuel : Nat) : Keeps (skipLine fuel) fun _ => True := by
  induction fuel with
  | zero => exact keeps_pure trivial
  | succ fuel ih =>
    apply keeps_bind keeps_take
    intro _ _
    split
    · exact keeps_pure trivial
    · exact keeps_ite (keeps_pure trivial) ih

/-- The readers of what stands inside brackets, at one depth less. -/
theorem keep_inner {fuel : Nat} (all : ∀ s, Keeps (alternatives fuel s) fun _ => True)
    (rows : ∀ s found, Keeps (row fuel s found) fun _ => True) :
    Inner.Keep ⟨fun s => alternatives fuel s, fun s => row fuel s []⟩ :=
  ⟨all, fun s => rows s []⟩

theorem keeps_row {fuel : Nat} (all : ∀ s, Keeps (alternatives fuel s) fun _ => True)
    (rows : ∀ s found, Keeps (row fuel s found) fun _ => True) (s : Setting) (found : List Node) :
    Keeps (row (fuel + 1) s found) fun _ => True := by
  unfold row
  apply keeps_bind keeps_peek
  intro token scalar
  split
  · exact keeps_pure trivial
  · next token =>
    refine keeps_ite (keeps_pure trivial) (keeps_bind keeps_skip fun _ _ => ?_)
    split
    · next p =>
      refine keeps_ite (rows s found)
        (keeps_ite ?_
        (keeps_ite ?_
        (keeps_ite ?_ (keeps_ite (rows _ _) (keeps_ite ?_ (keeps_ite (rows _ _) (rows _ _)))))))
      · apply keeps_bind keeps_get
        intro _ _
        apply keeps_bind (keeps_skipLine _)
        intro _ _
        exact rows s found
      · apply keeps_bind (keeps_setNode _)
        intro _ _
        exact rows s _
      · apply keeps_bind keeps_place
        intro _ _
        apply keeps_bind (keeps_repetitions? p)
        intro bounds _
        split
        · exact rows s _
        · apply keeps_bind (keeps_repeatLast _ _ _ found)
          intro _ _
          exact rows s _
      · have inner := keep_inner all rows
        apply keeps_bind keeps_place
        intro _ _
        apply keeps_bind (keeps_accept '?')
        intro _ _
        refine keeps_ite ?_ ?_
        · apply keeps_bind (keeps_extension inner s _ _)
          intro bracketed _
          split
          · exact rows s _
          · apply keeps_bind keeps_get
            intro _ _
            exact rows _ found
        · apply keeps_bind (keeps_captured inner s _ none Text.scalarIfAny_none)
          intro _ _
          exact rows s _
    · apply keeps_bind (keeps_escapeNode _ token (scalar token rfl))
      intro _ _
      exact rows s _

theorem keeps_alternatives {fuel : Nat} (all : ∀ s, Keeps (alternatives fuel s) fun _ => True)
    (rows : ∀ s found, Keeps (row fuel s found) fun _ => True) (s : Setting) :
    Keeps (alternatives (fuel + 1) s) fun _ => True := by
  unfold alternatives
  apply keeps_bind (rows s [])
  intro _ _
  apply keeps_bind (keeps_accept '|')
  intro _ _
  refine keeps_ite ?_ (keeps_pure trivial)
  apply keeps_bind keeps_get
  intro _ _
  apply keeps_bind (all _)
  intro _ _
  exact keeps_pure trivial

/-- Whatever is read at any depth keeps to scalar values. -/
theorem keeps_deep (fuel : Nat) : (∀ s, Keeps (alternatives fuel s) fun _ => True) ∧
    ∀ s found, Keeps (row fuel s found) fun _ => True := by
  induction fuel with
  | zero =>
    refine ⟨fun s => ?_, fun s found => ?_⟩
    · unfold alternatives
      exact keeps_pure trivial
    · unfold row
      exact keeps_pure trivial
  | succ fuel ih => exact ⟨keeps_alternatives ih.1 ih.2, keeps_row ih.1 ih.2⟩

theorem keeps_readWhole : Keeps readWhole fun _ => True := by
  apply keeps_bind keeps_get
  intro r _
  apply keeps_bind keeps_checkEnd
  intro _ _
  apply keeps_bind ((keeps_deep _).1 _)
  intro options _
  apply keeps_bind keeps_get
  intro after _
  extract_lets nodes told fixed asked balanced locale
  have keepsFixed : Keeps (fixed ⟨⟩) fun _ => True :=
    keeps_guard (keeps_throw (by simp [Fault.message])) (keeps_pure trivial)
  have keepsAsked : Keeps (asked ⟨⟩) fun _ => True := by
    dsimp only [asked]
    split
    · apply keeps_then (keeps_failAt (by simp))
      intro _
      exact keepsFixed
    · exact keepsFixed
  have keepsBalanced : Keeps (balanced ⟨⟩) fun _ => True :=
    keeps_guard (keeps_fail (by simp)) keepsAsked
  refine keeps_ite (keeps_guard (keeps_throw (by simp [Fault.message])) ?_) keepsBalanced
  exact keeps_guard (keeps_throw (by simp [Fault.message])) keepsBalanced

/-- What is said of a text of scalar values that is no pattern is a text of scalar values. -/
theorem isScalar_message_of_ofText (t : Text) (scalar : t.isScalar = true) (fault : Fault)
    (read : Pattern.ofText t = .error fault) : fault.message.isScalar = true := by
  have kept := keeps_readWhole ⟨t, true, t, [], #[], [], none, []⟩ scalar
  rw [Pattern.ofText] at read
  split at read
  · cases read
  · next other after ran =>
    rw [ran] at kept
    rw [← Except.error.inj read]
    exact kept

end PhaseScript.Pattern
