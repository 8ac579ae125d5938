import PhaseScript.Proofs.Json.Dialect.Numbers
import PhaseScript.Proofs.Json.Dialect.Strings
/-
Reading texts of the dialect. Whatever is read is in the dialect, and whatever is in the dialect is
read, unless it is too deep.
-/
set_option autoImplicit false

namespace PhaseScript.Json

theorem isBlank_iff (p : Point) : isBlank p = true ↔ Grammar.IsBlank p := by
  simp only [isBlank, Bool.or_eq_true, beq_iff_eq, Grammar.IsBlank, or_assoc]

/-- Blanks are skipped up to what is none. -/
theorem skipBlank_append (gap t : Text) (blank : Grammar.Blanks gap)
    (stop : ∀ p, t.head? = some p → isBlank p = false) : skipBlank (gap ++ t) = t := by
  rw [skipBlank, List.dropWhile_append_of_pos fun p member => (isBlank_iff p).mpr (blank p member)]
  cases t with
  | nil => rfl
  | cons p rest => rw [List.dropWhile_cons, stop p rfl, if_neg Bool.false_ne_true]

theorem skipBlank_cons (p : Point) (rest : Text) (stop : isBlank p = false) :
    skipBlank (p :: rest) = p :: rest := by
  rw [skipBlank, List.dropWhile_cons, stop, if_neg Bool.false_ne_true]

/-- Blanks do not go on with a number. -/
theorem endsNumber_blanks (gap t : Text) (blank : Grammar.Blanks gap) (ends : EndsNumber t) :
    EndsNumber (gap ++ t) := by
  cases gap with
  | nil => exact ends
  | cons p rest =>
    have plain := blank p List.mem_cons_self
    have no (c : Char) (other : c.toNat ≠ 0x20 ∧ c.toNat ≠ 0x09 ∧ c.toNat ≠ 0x0A ∧ c.toNat ≠ 0x0D) :
        p.is c = false := by
      simp only [Point.is, beq_eq_false_iff_ne]
      unfold Grammar.IsBlank at plain
      omega
    refine endsNumber_cons p _ ?_ (no '.' (by decide)) (no 'e' (by decide)) (no 'E' (by decide))
    simp only [Point.isAsciiDigit, Bool.and_eq_false_iff, decide_eq_false_iff_not]
    unfold Grammar.IsBlank at plain
    omega

/-- The first point of a value. -/
structure Opens (p : Point) : Prop where
  blank : isBlank p = false
  closes : p.is ']' = false
  mark : p.val ≠ 0xFEFF

theorem opens_digit (p : Point) (digit : p.isAsciiDigit = true) : Opens p := by
  simp only [Point.isAsciiDigit, Bool.and_eq_true, decide_eq_true_eq] at digit
  refine ⟨?_, ?_, by omega⟩
  · simp only [isBlank, Bool.or_eq_false_iff, beq_eq_false_iff_ne]
    omega
  · simp only [Point.is, beq_eq_false_iff_ne]
    change p.val ≠ 93
    omega

/-- A scalar is read from its first point on. -/
theorem readValue_scalar (fuel room : Nat) (p : Point) (rest : Text) (quote : p.is '"' = false)
    (array : p.is '[' = false) (object : p.is '\x7b' = false) :
    readValue Maker.json true (fuel + 1) room (p :: rest) = readScalar Maker.json (p :: rest) := by
  simp only [readValue, quote, array, object, Bool.or_self, Bool.false_eq_true, if_false]

/-- An array goes on with its first item. -/
theorem readValue_array (fuel room : Nat) (rest after : Text) (q : Point)
    (skipped : skipBlank rest = q :: after) (some : q.is ']' = false) :
    readValue Maker.json true (fuel + 1) (room + 1) (Point.ofChar '[' :: rest) =
      readItems Maker.json true fuel room (q :: after) [] := by
  have notQuote : (Point.ofChar '[').is '"' = false := rfl
  have bracket : (Point.ofChar '[').is '[' = true := rfl
  rw [readValue]
  simp only [notQuote, bracket, Bool.true_or, Bool.false_eq_true, if_false, if_true, skipped, some,
    Bool.and_false, Bool.not_true, Bool.false_and]

/-- An object goes on with its first member. -/
theorem readValue_object (fuel room : Nat) (rest after : Text) (q : Point)
    (skipped : skipBlank rest = q :: after) (some : q.is '\x7d' = false) :
    readValue Maker.json true (fuel + 1) (room + 1) (Point.ofChar '\x7b' :: rest) =
      readMembers Maker.json true fuel room (q :: after) [] := by
  have notQuote : (Point.ofChar '\x7b').is '"' = false := rfl
  have bracket : (Point.ofChar '\x7b').is '[' = false := rfl
  have brace : (Point.ofChar '\x7b').is '\x7b' = true := rfl
  rw [readValue]
  simp only [notQuote, bracket, brace, Bool.or_true, Bool.false_eq_true, if_false, if_true, skipped,
    some, Bool.and_false, Bool.false_and]

theorem readItems_last (fuel room : Nat) (t after rest : Text) (item : Json) (read : List Json)
    (value : readValue Maker.json true fuel room t = .ok (item, after))
    (skipped : skipBlank after = Point.ofChar ']' :: rest) :
    readItems Maker.json true (fuel + 1) room t read =
    .ok (.array (item :: read).reverse, rest) := by
  have closing : (Point.ofChar ']').is ']' = true := rfl
  rw [readItems, value]
  simp only [skipped, closing, if_true, bind, Except.bind, pure, Except.pure, Maker.json]

theorem readItems_more (fuel room : Nat) (t after rest : Text) (item : Json) (read : List Json)
    (value : readValue Maker.json true fuel room t = .ok (item, after))
    (skipped : skipBlank after = Point.ofChar ',' :: rest) :
    readItems Maker.json true (fuel + 1) room t read =
      readItems Maker.json true fuel room (skipBlank rest) (item :: read) := by
  have notClosing : (Point.ofChar ',').is ']' = false := rfl
  have comma : (Point.ofChar ',').is ',' = true := rfl
  rw [readItems, value]
  simp only [skipped, notClosing, comma, Bool.false_eq_true, if_false, if_true, bind, Except.bind]

namespace Dialect

open Point (is_iff)

theorem gap_skipBlank (t : Text) : Gap t (skipBlank t) :=
  ⟨t.takeWhile isBlank, fun p among => (isBlank_iff p).mp (List.mem_takeWhile_imp among),
    List.takeWhile_append_dropWhile.symm⟩

theorem Gap.refl (t : Text) : Gap t t := ⟨[], Grammar.blanks_nil, rfl⟩

/-- Blanks are skipped up to what is none. -/
theorem Gap.skipBlank_eq {t rest : Text} (gap : Gap t rest)
    (stop : ∀ p, rest.head? = some p → isBlank p = false) : skipBlank t = rest := by
  obtain ⟨blanks, blank, rfl⟩ := gap
  exact skipBlank_append blanks rest blank stop

theorem Gap.skipBlank_cons {t rest : Text} {p : Point} (gap : Gap t (p :: rest))
    (stop : isBlank p = false) : skipBlank t = p :: rest :=
  gap.skipBlank_eq fun q head => by
    obtain rfl := Option.some.inj head
    exact stop

theorem Number.nesting_eq {t rest : Text} {v : Json} (number : Number t v rest) :
    nesting v = 0 := by
  cases number with
  | integer | real => rfl

/-- What is read as a scalar is a word or a number, inside which nothing lies. -/
theorem value_of_readScalar {t rest : Text} {v : Json}
    (scalar : readScalar Maker.json t = .ok (v, rest)) : Value t v rest ∧ nesting v = 0 := by
  have cut {word : Text} (isPrefix_ : word.isPrefixOf t = true) : t = word ++ t.drop word.length :=
    (List.prefix_iff_eq_append.mp (List.isPrefixOf_iff_prefix.mp isPrefix_)).symm
  unfold readScalar at scalar
  split at scalar
  · next word value found =>
    obtain ⟨rfl, rfl⟩ := Prod.mk.inj (Except.ok.inj scalar)
    have front := List.find?_some found
    dsimp only at front
    have among := List.mem_of_find?_eq_some found
    simp only [words, List.mem_cons, Prod.mk.injEq, List.not_mem_nil, or_false] at among
    rw [cut front]
    rcases among with ⟨rfl, rfl⟩ | ⟨rfl, rfl⟩ | ⟨rfl, rfl⟩
    · exact ⟨.null _, rfl⟩
    · exact ⟨.true _, rfl⟩
    · exact ⟨.false _, rfl⟩
  · next word x _ found =>
    obtain ⟨rfl, rfl⟩ := Prod.mk.inj (Except.ok.inj scalar)
    have front := List.find?_some found
    dsimp only at front
    have among := List.mem_of_find?_eq_some found
    simp only [numberWords, List.mem_cons, Prod.mk.injEq, List.not_mem_nil, or_false] at among
    rw [cut front]
    rcases among with ⟨rfl, rfl⟩ | ⟨rfl, rfl⟩ | ⟨rfl, rfl⟩
    · exact ⟨.nan _, rfl⟩
    · exact ⟨.infinity _, rfl⟩
    · exact ⟨.negativeInfinity _, rfl⟩
  · cases number : readNumber t with
    | error refusal =>
      rw [number] at scalar
      cases scalar
    | ok found =>
      obtain ⟨s, after⟩ := found
      rw [number] at scalar
      cases made : s.value with
      | error refusal =>
        simp only [orRefuse, Maker.json, made, bind, Except.bind, pure, Except.pure] at scalar
        cases scalar
      | ok w =>
        simp only [orRefuse, Maker.json, made, bind, Except.bind, pure, Except.pure] at scalar
        obtain ⟨rfl, rfl⟩ := Prod.mk.inj (Except.ok.inj scalar)
        have isNumber := number_of_readNumber number made
        exact ⟨.number isNumber, isNumber.nesting_eq⟩

/-- What is read on from a fuel is in the dialect, with what was read before in front of it, and
nested no deeper than there is room. -/
structure Sound (fuel : Nat) : Prop where
  value : ∀ {room t v rest}, readValue Maker.json true fuel room t = .ok (v, rest) →
    Value t v rest ∧ nesting v ≤ room
  items : ∀ {room t read v rest}, readItems Maker.json true fuel room t read = .ok (v, rest) →
    ∃ items, Items t items rest ∧ (∀ item ∈ items, nesting item ≤ room) ∧
      v = .array (read.reverse ++ items)
  members : ∀ {room t read v rest}, readMembers Maker.json true fuel room t read = .ok (v, rest) →
    ∃ members, Members t members rest ∧ (∀ member ∈ members, nesting member.2 ≤ room) ∧ v = .object
      ((read.reverse ++ members).foldl (fun found (name, value) => put name value found) [])

theorem sound_zero : Sound 0 where
  value read := by
    rw [readValue] at read
    cases read
  items read := by
    rw [readItems] at read
    cases read
  members read := by
    rw [readMembers] at read
    cases read

section Succ

variable {fuel : Nat} (sound : Sound fuel)

theorem string_of_readValue {room : Nat} {more rest : Text} {v : Json}
    (read : readValue Maker.json true (fuel + 1) room (Point.ofChar '"' :: more) = .ok (v, rest)) :
    Value (Point.ofChar '"' :: more) v rest ∧ nesting v ≤ room := by
  have quote : (Point.ofChar '"').is '"' = true := rfl
  rw [readValue, if_pos quote] at read
  cases string : readString true (more.length + 1) (more.length + 1) more [] with
  | error refusal =>
    rw [string] at read
    cases read
  | ok found =>
    rw [string] at read
    obtain ⟨rfl, rfl⟩ := Prod.mk.inj (Except.ok.inj read)
    obtain ⟨s, body, same⟩ := body_of_readString string
    rw [same]
    exact ⟨.string body, Nat.zero_le room⟩

include sound

theorem Sound.array {room : Nat} {more rest : Text} {v : Json}
    (read : readValue Maker.json true (fuel + 1) room (Point.ofChar '[' :: more) = .ok (v, rest)) :
    Value (Point.ofChar '[' :: more) v rest ∧ nesting v ≤ room := by
  have quote : (Point.ofChar '[').is '"' = false := rfl
  have isArray : (Point.ofChar '[').is '[' = true := rfl
  rw [readValue, if_neg (by rw [quote]; exact Bool.false_ne_true)] at read
  simp only [isArray, Bool.true_or, if_true] at read
  cases room with
  | zero => cases read
  | succ room =>
    have gap := gap_skipBlank more
    cases skipped : skipBlank more with
    | nil =>
      rw [skipped] at read gap
      obtain ⟨items, isItems, deep, rfl⟩ := sound.items read
      exact ⟨.array gap isItems, Nat.succ_le_succ ((nestingAll_le_iff items room).mpr deep)⟩
    | cons q behind =>
      rw [skipped] at read gap
      simp only [Bool.true_and, Bool.not_true, Bool.false_and, Bool.false_eq_true, if_false] at read
      split at read
      · next closing =>
        obtain ⟨rfl, rfl⟩ := Prod.mk.inj (Except.ok.inj read)
        exact ⟨.noItems ((is_iff _ _).mp closing ▸ gap), Nat.succ_le_succ (Nat.zero_le room)⟩
      · obtain ⟨items, isItems, deep, rfl⟩ := sound.items read
        exact ⟨.array gap isItems, Nat.succ_le_succ ((nestingAll_le_iff items room).mpr deep)⟩

theorem Sound.object {room : Nat} {more rest : Text} {v : Json}
    (read : readValue Maker.json true (fuel + 1) room (Point.ofChar '\x7b' :: more) =
      .ok (v, rest)) : Value (Point.ofChar '\x7b' :: more) v rest ∧ nesting v ≤ room := by
  have quote : (Point.ofChar '\x7b').is '"' = false := rfl
  have isObject : (Point.ofChar '\x7b').is '[' = false := rfl
  have brace : (Point.ofChar '\x7b').is '\x7b' = true := rfl
  rw [readValue, if_neg (by rw [quote]; exact Bool.false_ne_true)] at read
  simp only [isObject, brace, Bool.false_or, if_true] at read
  cases room with
  | zero => cases read
  | succ room =>
    have gap := gap_skipBlank more
    cases skipped : skipBlank more with
    | nil =>
      rw [skipped] at read gap
      obtain ⟨members, isMembers, deep, rfl⟩ := sound.members read
      exact ⟨.object gap isMembers, nesting_foldl_put_le deep⟩
    | cons q behind =>
      rw [skipped] at read gap
      simp only [Bool.false_and, Bool.not_false, Bool.true_and, Bool.false_eq_true,
        if_false] at read
      split at read
      · next closing =>
        obtain ⟨rfl, rfl⟩ := Prod.mk.inj (Except.ok.inj read)
        exact ⟨.noMembers ((is_iff _ _).mp closing ▸ gap), Nat.succ_le_succ (Nat.zero_le room)⟩
      · obtain ⟨members, isMembers, deep, rfl⟩ := sound.members read
        exact ⟨.object gap isMembers, nesting_foldl_put_le deep⟩

theorem Sound.value_succ {room : Nat} {t rest : Text} {v : Json}
    (read : readValue Maker.json true (fuel + 1) room t = .ok (v, rest)) :
    Value t v rest ∧ nesting v ≤ room := by
  cases t with
  | nil =>
    rw [readValue] at read
    cases read
  | cons p more =>
    by_cases quote : p.is '"' = true
    · obtain rfl := (is_iff _ _).mp quote
      exact string_of_readValue read
    by_cases bracket : p.is '[' = true
    · obtain rfl := (is_iff _ _).mp bracket
      exact sound.array read
    by_cases brace : p.is '\x7b' = true
    · obtain rfl := (is_iff _ _).mp brace
      exact sound.object read
    have neither : ¬ (p.is '[' || p.is '\x7b') = true := by
      rw [Bool.or_eq_true]
      exact not_or.mpr ⟨bracket, brace⟩
    rw [readValue, if_neg quote, if_neg neither] at read
    obtain ⟨isValue, flat⟩ := value_of_readScalar read
    exact ⟨isValue, by rw [flat]; exact Nat.zero_le room⟩

theorem Sound.items_succ {room : Nat} {t rest : Text} {read : List Json} {v : Json}
    (readOn : readItems Maker.json true (fuel + 1) room t read = .ok (v, rest)) :
    ∃ items, Items t items rest ∧ (∀ item ∈ items, nesting item ≤ room) ∧
      v = .array (read.reverse ++ items) := by
  rw [readItems] at readOn
  cases value : readValue Maker.json true fuel room t with
  | error refusal =>
    rw [value] at readOn
    cases readOn
  | ok found =>
    obtain ⟨item, after⟩ := found
    rw [value] at readOn
    obtain ⟨isValue, deep⟩ := sound.value value
    have gap := gap_skipBlank after
    dsimp only [bind, Except.bind] at readOn
    split at readOn
    · cases readOn
    next q close skipped =>
    rw [skipped] at gap
    split at readOn
    · next bracket =>
      obtain ⟨rfl, rfl⟩ := Prod.mk.inj (Except.ok.inj readOn)
      rw [(is_iff _ _).mp bracket] at gap
      exact ⟨[item], .last isValue gap, List.forall_mem_singleton.mpr deep,
        by rw [List.reverse_cons]⟩
    split at readOn
    · next comma =>
      rw [(is_iff _ _).mp comma] at gap
      obtain ⟨items, isItems, deeper, rfl⟩ := sound.items readOn
      refine ⟨item :: items, .more isValue gap (gap_skipBlank close) isItems,
        List.forall_mem_cons.mpr ⟨deep, deeper⟩, ?_⟩
      rw [List.reverse_cons, List.append_assoc, List.singleton_append]
    · cases readOn

theorem Sound.members_succ {room : Nat} {t rest : Text} {read : List (Text × Json)} {v : Json}
    (readOn : readMembers Maker.json true (fuel + 1) room t read = .ok (v, rest)) :
    ∃ members, Members t members rest ∧ (∀ member ∈ members, nesting member.2 ≤ room) ∧ v = .object
      ((read.reverse ++ members).foldl (fun found (name, value) => put name value found) []) := by
  cases t with
  | nil =>
    rw [readMembers] at readOn
    cases readOn
  | cons p more =>
    rw [readMembers] at readOn
    split at readOn
    · cases readOn
    next quote =>
    rw [Bool.not_eq_true', Bool.not_eq_false, is_iff] at quote
    cases string : readString true (more.length + 1) (more.length + 1) more [] with
    | error refusal =>
      rw [string] at readOn
      cases readOn
    | ok found =>
      obtain ⟨name, behind⟩ := found
      rw [string] at readOn
      obtain ⟨s, body, same⟩ := body_of_readString string
      obtain rfl : name = s := same
      have afterName := gap_skipBlank behind
      dsimp only [orRefuse, bind, Except.bind, pure, Except.pure] at readOn
      split at readOn
      · cases readOn
      next c afterColon skipped =>
      rw [skipped] at afterName
      split at readOn
      · cases readOn
      next colon =>
      rw [Bool.not_eq_true', Bool.not_eq_false, is_iff] at colon
      split at readOn
      · cases readOn
      next found value =>
      obtain ⟨item, after⟩ := found
      obtain ⟨isValue, deep⟩ := sound.value value
      have afterValue := gap_skipBlank after
      dsimp only at readOn
      split at readOn
      · cases readOn
      next q close skipped' =>
      rw [skipped'] at afterValue
      rw [quote]
      rw [colon] at afterName
      split at readOn
      · next brace =>
        obtain ⟨rfl, rfl⟩ := Prod.mk.inj (Except.ok.inj readOn)
        refine ⟨[(name, item)], .last body afterName (gap_skipBlank afterColon) isValue
          ((is_iff _ _).mp brace ▸ afterValue), List.forall_mem_singleton.mpr deep, ?_⟩
        rw [← List.reverse_cons]
      split at readOn
      · next comma =>
        obtain ⟨members, isMembers, deeper, rfl⟩ := sound.members readOn
        refine ⟨(name, item) :: members, .more body afterName (gap_skipBlank afterColon) isValue
          ((is_iff _ _).mp comma ▸ afterValue) (gap_skipBlank close) isMembers,
          List.forall_mem_cons.mpr ⟨deep, deeper⟩, ?_⟩
        rw [List.reverse_cons, List.append_assoc, List.singleton_append]
      · cases readOn

/-- One more unit of fuel. -/
theorem Sound.succ : Sound (fuel + 1) where
  value := sound.value_succ
  items := sound.items_succ
  members := sound.members_succ

end Succ

theorem sound (fuel : Nat) : Sound fuel := by
  induction fuel with
  | zero => exact sound_zero
  | succ fuel ih => exact ih.succ

theorem Gap.length_le {t rest : Text} (gap : Gap t rest) : rest.length ≤ t.length := by
  obtain ⟨blanks, -, rfl⟩ := gap
  rw [List.length_append]
  exact Nat.le_add_left _ _

/-- Neither a quote nor a bracket begins a number. -/
theorem Number.readValue_eq {t rest : Text} {v : Json} (number : Number t v rest)
    (ends : EndsNumber rest) (fuel room : Nat) :
    readValue Maker.json true (fuel + 1) room t = .ok (v, rest) := by
  have scalar := number.readScalar_eq ends
  obtain ⟨negative, p, more, digit, rfl, -⟩ := number.head
  cases negative with
  | true =>
    exact (readValue_scalar fuel room (Point.ofChar '-') (p :: more) rfl rfl rfl).trans scalar
  | false =>
    exact (readValue_scalar fuel room p more (is_of_digit p '"' digit (by decide))
      (is_of_digit p '[' digit (by decide)) (is_of_digit p '\x7b' digit (by decide))).trans scalar

theorem Value.opens {t rest : Text} {v : Json} (value : Value t v rest) :
    ∃ p more, t = p :: more ∧ Opens p := by
  cases value with
  | number number =>
    obtain ⟨negative, p, more, digit, rfl, -⟩ := number.head
    cases negative with
    | true => exact ⟨Point.ofChar '-', p :: more, rfl, rfl, rfl, by decide⟩
    | false => exact ⟨p, more, rfl, opens_digit p digit⟩
  | null | true | false | nan | infinity | negativeInfinity | string | noItems | array | noMembers |
    object => exact ⟨_, _, rfl, rfl, rfl, by decide⟩

theorem Items.opens {t rest : Text} {items : List Json} (isItems : Items t items rest) :
    ∃ p more, t = p :: more ∧ Opens p := by
  cases isItems with
  | last value _ | more value _ _ _ => exact value.opens

theorem Members.opens {t rest : Text} {members : List (Text × Json)}
    (isMembers : Members t members rest) : ∃ more, t = Point.ofChar '"' :: more := by
  cases isMembers with
  | last | more => exact ⟨_, rfl⟩

/-- Blanks are skipped in front of what begins as a value does. -/
theorem Gap.skipBlank_opens {t rest : Text} (gap : Gap t rest)
    (opens : ∃ p more, rest = p :: more ∧ Opens p) : skipBlank t = rest := by
  obtain ⟨p, more, rfl, opens⟩ := opens
  exact gap.skipBlank_cons opens.blank

theorem Gap.endsNumber {t rest : Text} (gap : Gap t rest) (ends : EndsNumber rest) :
    EndsNumber t := by
  obtain ⟨blanks, blank, rfl⟩ := gap
  exact endsNumber_blanks blanks rest blank ends

mutual

theorem Value.shorter {t rest : Text} {v : Json} : Value t v rest → rest.length < t.length
  | .null _ | .true _ | .false _ | .nan _ | .infinity _ | .negativeInfinity _ => by
    rw [List.length_append]
    exact Nat.lt_add_of_pos_left (by decide)
  | .number number => by
    obtain ⟨negative, p, more, -, rfl, shorter⟩ := number.head
    rw [List.length_append, List.length_cons]
    omega
  | .string body => Nat.lt_succ_of_lt body.shorter
  | .noItems gap | .noMembers gap =>
    Nat.lt_of_lt_of_le (Nat.lt_succ_self _) (Nat.le_succ_of_le gap.length_le)
  | .array gap items => Nat.lt_succ_of_lt (Nat.lt_of_lt_of_le items.shorter gap.length_le)
  | .object gap members => Nat.lt_succ_of_lt (Nat.lt_of_lt_of_le members.shorter gap.length_le)

theorem Items.shorter {t rest : Text} {items : List Json} : Items t items rest →
    rest.length < t.length
  | .last value gap => by
    have := value.shorter
    have := gap.length_le
    rw [List.length_cons] at this
    omega
  | .more value gap front items => by
    have := value.shorter
    have := gap.length_le
    rw [List.length_cons] at this
    have := front.length_le
    have := items.shorter
    omega

theorem Members.shorter {t rest : Text} {members : List (Text × Json)} : Members t members rest →
    rest.length < t.length
  | .last body colon front value gap => by
    have := body.shorter
    have := colon.length_le
    have := front.length_le
    have := value.shorter
    have := gap.length_le
    simp only [List.length_cons] at *
    omega
  | .more body colon front value gap front' members => by
    have := body.shorter
    have := colon.length_le
    have := front.length_le
    have := value.shorter
    have := gap.length_le
    have := front'.length_le
    have := members.shorter
    simp only [List.length_cons] at *
    omega

end

/-- What is found is a value and what is left behind it, or too deep. -/
def Found (read : Except Refusal (Json × Text)) (v : Json) (rest : Text) : Prop :=
  read = .ok (v, rest) ∨ ∃ isArray, read = .error (.tooDeep isArray)

theorem endsNumber_close {behind rest : Text} {p : Point} (gap : Gap behind (p :: rest))
    (close : p = Point.ofChar ']' ∨ p = Point.ofChar '\x7d' ∨ p = Point.ofChar ',') :
    EndsNumber behind := by
  refine gap.endsNumber ?_
  rcases close with rfl | rfl | rfl <;> exact endsNumber_cons _ _ rfl rfl rfl rfl

theorem readValue_string (fuel room : Nat) {t s rest : Text} (body : Body t s rest) :
    readValue Maker.json true (fuel + 1) room (Point.ofChar '"' :: t) = .ok (.string s, rest) := by
  have opening : (Point.ofChar '"').is '"' = true := rfl
  simp only [readValue, opening, if_true, body.readString_nil, orRefuse, Maker.json, bind,
    Except.bind, pure, Except.pure]

/-- A value inside which nothing lies is read in whatever room there is. -/
theorem Value.readValue_flat {t rest : Text} {v : Json} (value : Value t v rest)
    (flat : nesting v = 0) (ends : EndsNumber rest) (fuel room : Nat) :
    readValue Maker.json Bool.true (fuel + 1) room t = .ok (v, rest) := by
  cases value with
  | null => exact readValue_scalar fuel room (Point.ofChar 'n') ("ull" ++ rest) rfl rfl rfl
  | true => exact readValue_scalar fuel room (Point.ofChar 't') ("rue" ++ rest) rfl rfl rfl
  | false => exact readValue_scalar fuel room (Point.ofChar 'f') ("alse" ++ rest) rfl rfl rfl
  | nan => exact readValue_scalar fuel room (Point.ofChar 'N') ("aN" ++ rest) rfl rfl rfl
  | infinity => exact readValue_scalar fuel room (Point.ofChar 'I') ("nfinity" ++ rest) rfl rfl rfl
  | negativeInfinity =>
    exact readValue_scalar fuel room (Point.ofChar '-') ("Infinity" ++ rest) rfl rfl rfl
  | number number => exact number.readValue_eq ends fuel room
  | string body => exact readValue_string fuel room body
  | noItems | array | noMembers | object => exact absurd flat (Nat.succ_ne_zero _)

/-- A member is read up to its value; then it is the value that counts. -/
theorem readMembers_body (fuel room : Nat) {t name behind front value : Text}
    (read : List (Text × Json)) (body : Body t name behind)
    (colon : Gap behind (Point.ofChar ':' :: front)) (gap : Gap front value)
    (opens : ∃ p more, value = p :: more ∧ Opens p) :
    readMembers Maker.json true (fuel + 1) room (Point.ofChar '"' :: t) read =
      (do
        let (value, rest) ← readValue Maker.json true fuel room value
        let members := (name, value) :: read
        match skipBlank rest with
        | [] => refuseAt .comma []
        | q :: after =>
          if q.is '\x7d' then return (← Maker.json.object members.reverse, after)
          else if q.is ',' then readMembers Maker.json true fuel room (skipBlank after) members
          else refuseAt .comma (q :: after)) := by
  have quote : (Point.ofChar '"').is '"' = true := rfl
  have isColon : (Point.ofChar ':').is ':' = true := rfl
  have named := colon.skipBlank_cons rfl
  have valued := gap.skipBlank_opens opens
  rw [readMembers, body.readString_nil]
  simp only [quote, Bool.not_true, Bool.false_eq_true, if_false, orRefuse, named, isColon, valued,
    bind, Except.bind, pure, Except.pure]
  -- the matches of the two sides differ in their names at most
  all_goals rfl

mutual

theorem Value.found {t rest : Text} {v : Json} : Value t v rest → EndsNumber rest →
    (fuel room : Nat) → 2 * t.length ≤ fuel → Found (readValue Maker.json true fuel room t) v rest
  | value, ends, 0, room, enough => by
    have := value.shorter
    omega
  | .null rest, ends, fuel + 1, room, _ =>
    .inl ((Value.null rest).readValue_flat rfl ends fuel room)
  | .true rest, ends, fuel + 1, room, _ =>
    .inl ((Value.true rest).readValue_flat rfl ends fuel room)
  | .false rest, ends, fuel + 1, room, _ =>
    .inl ((Value.false rest).readValue_flat rfl ends fuel room)
  | .nan rest, ends, fuel + 1, room, _ => .inl ((Value.nan rest).readValue_flat rfl ends fuel room)
  | .infinity rest, ends, fuel + 1, room, _ =>
    .inl ((Value.infinity rest).readValue_flat rfl ends fuel room)
  | .negativeInfinity rest, ends, fuel + 1, room, _ =>
    .inl ((Value.negativeInfinity rest).readValue_flat rfl ends fuel room)
  | .number number, ends, fuel + 1, room, _ => .inl (number.readValue_eq ends fuel room)
  | .string body, _, fuel + 1, room, _ => .inl (readValue_string fuel room body)
  | .noItems gap, _, fuel + 1, 0, _ => .inr ⟨true, rfl⟩
  | .noItems gap, _, fuel + 1, room + 1, _ => by
    rw [readValue, gap.skipBlank_cons rfl]
    exact .inl rfl
  | .array gap items, _, fuel + 1, 0, _ => .inr ⟨true, rfl⟩
  | .array gap items, _, fuel + 1, room + 1, enough => by
    obtain ⟨p, more, rfl, opens⟩ := items.opens
    have size := gap.length_le
    rw [List.length_cons] at enough
    rw [readValue_array fuel room _ more p (gap.skipBlank_cons opens.blank) opens.closes]
    exact items.found fuel room [] (by omega)
  | .noMembers gap, _, fuel + 1, 0, _ => .inr ⟨false, rfl⟩
  | .noMembers gap, _, fuel + 1, room + 1, _ => by
    rw [readValue, gap.skipBlank_cons rfl]
    exact .inl rfl
  | .object gap members, _, fuel + 1, 0, _ => .inr ⟨false, rfl⟩
  | .object gap members, _, fuel + 1, room + 1, enough => by
    obtain ⟨more, rfl⟩ := members.opens
    have size := gap.length_le
    rw [List.length_cons] at enough
    rw [readValue_object fuel room _ more _ (gap.skipBlank_cons rfl) rfl]
    exact members.found fuel room [] (by omega)

theorem Items.found {t rest : Text} {items : List Json} : Items t items rest →
    (fuel room : Nat) → (read : List Json) → 2 * t.length < fuel →
    Found (readItems Maker.json true fuel room t read) (.array (read.reverse ++ items)) rest
  | .last value gap, fuel + 1, room, read, enough => by
    rcases value.found (endsNumber_close gap (.inl rfl)) fuel room (by omega) with
      found | ⟨isArray, deep⟩
    · refine .inl ?_
      rw [readItems_last fuel room _ _ _ _ read found (gap.skipBlank_cons rfl), List.reverse_cons]
    · refine .inr ⟨isArray, ?_⟩
      rw [readItems, deep]
      rfl
  | @Items.more _ _ _ _ _ item _ value gap front items, fuel + 1, room, read, enough => by
    rcases value.found (endsNumber_close gap (.inr (.inr rfl))) fuel room (by omega) with
      found | ⟨isArray, deep⟩
    · rw [readItems_more fuel room _ _ _ _ read found (gap.skipBlank_cons rfl),
        front.skipBlank_opens items.opens]
      have := value.shorter
      have := gap.length_le
      rw [List.length_cons] at this
      have := front.length_le
      have inside := items.found fuel room (item :: read) (by omega)
      rwa [List.reverse_cons, List.append_assoc] at inside
    · refine .inr ⟨isArray, ?_⟩
      rw [readItems, deep]
      rfl

theorem Members.found {t rest : Text} {members : List (Text × Json)} : Members t members rest →
    (fuel room : Nat) → (read : List (Text × Json)) → 2 * t.length < fuel →
    Found (readMembers Maker.json true fuel room t read) (.object ((read.reverse ++ members).foldl
      (fun found (name, value) => put name value found) [])) rest
  | .last body colon front value gap, fuel + 1, room, read, enough => by
    have := body.shorter
    have := colon.length_le
    have := front.length_le
    simp only [List.length_cons] at *
    rw [readMembers_body fuel room read body colon front value.opens]
    rcases value.found (endsNumber_close gap (.inr (.inl rfl))) fuel room (by omega) with
      found | ⟨isArray, deep⟩
    · refine .inl ?_
      simp only [found, gap.skipBlank_cons rfl, List.reverse_cons, bind, Except.bind]
      rfl
    · refine .inr ⟨isArray, ?_⟩
      rw [deep]
      rfl
  | @Members.more _ name _ _ _ _ _ _ _ v _ body colon front value gap front' members, fuel + 1,
    room, read, enough => by
    have := body.shorter
    have := colon.length_le
    have := front.length_le
    have := value.shorter
    have := gap.length_le
    have := front'.length_le
    simp only [List.length_cons] at *
    rw [readMembers_body fuel room read body colon front value.opens]
    rcases value.found (endsNumber_close gap (.inr (.inr rfl))) fuel room (by omega) with
      found | ⟨isArray, deep⟩
    · obtain ⟨more, rfl⟩ := members.opens
      have next := front'.skipBlank_cons rfl
      have inside := members.found fuel room ((name, v) :: read) (by omega)
      rw [List.reverse_cons, List.append_assoc] at inside
      have notClosing : (Point.ofChar ',').is '\x7d' = false := rfl
      have comma : (Point.ofChar ',').is ',' = true := rfl
      simp only [found, gap.skipBlank_cons rfl, notClosing, comma, next, Bool.false_eq_true,
        if_false, if_true, bind, Except.bind]
      exact inside
    · refine .inr ⟨isArray, ?_⟩
      rw [deep]
      rfl

end

end Dialect

open Dialect

/-- A whole text is read as the value behind its first blanks, and nothing else but blanks follow
that. -/
theorem readValue_of_read {t : Text} {v : Json} (accepted : read t = .ok v) :
    ∃ rest, readValue Maker.json true (2 * t.length + 2) maxDepth (skipBlank t) = .ok (v, rest) ∧
      skipBlank rest = [] := by
  rw [read, readWithin, readWith.eq_def] at accepted
  cases t with
  | nil => cases accepted
  | cons p more =>
    dsimp only at accepted
    split at accepted
    · cases accepted
    cases value : readValue Maker.json true (2 * (p :: more).length + 2) maxDepth
      (skipBlank (p :: more)) with
    | error refusal =>
      rw [value] at accepted
      cases accepted
    | ok found =>
      obtain ⟨w, rest⟩ := found
      rw [value] at accepted
      dsimp only [bind, Except.bind] at accepted
      split at accepted
      · next blank =>
        obtain rfl := Except.ok.inj accepted
        exact ⟨rest, rfl, blank⟩
      · cases accepted

/-- Whatever is read is in the dialect. -/
theorem denotes_of_read {t : Text} {v : Json} (accepted : read t = .ok v) : Denotes t v := by
  obtain ⟨rest, value, blank⟩ := readValue_of_read accepted
  obtain ⟨blanks, isBlanks, same⟩ := gap_skipBlank rest
  rw [blank, List.append_nil] at same
  exact ⟨_, rest, gap_skipBlank t, ((sound _).value value).1, same ▸ isBlanks⟩

/-- Arrays and objects lie no deeper inside each other than a reader goes. -/
theorem nesting_le_of_read {t : Text} {v : Json} (accepted : read t = .ok v) :
    nesting v ≤ maxDepth := by
  obtain ⟨rest, value, -⟩ := readValue_of_read accepted
  exact ((sound _).value value).2

/-- A text is read as a value exactly where it is in the dialect with that value, unless arrays and
objects lie too deep inside each other. -/
theorem read_eq_ok_iff {t : Text} (usual : ∀ isArray, read t ≠ .error (.tooDeep isArray))
    (v : Json) : read t = .ok v ↔ Denotes t v := by
  refine ⟨denotes_of_read, fun ⟨value, rest, gap, isValue, blanks⟩ => ?_⟩
  have ends := endsNumber_blanks rest [] blanks endsNumber_nil
  have behind := skipBlank_append rest [] blanks nofun
  rw [List.append_nil] at ends behind
  have shorter := gap.length_le
  have skipped := gap.skipBlank_opens isValue.opens
  have found := isValue.found ends (2 * t.length + 2) maxDepth (by omega)
  obtain ⟨first, more, rfl, notMark⟩ : ∃ first more, t = first :: more ∧ first.val ≠ 0xFEFF := by
    obtain ⟨spaces, isBlanks, rfl⟩ := gap
    cases spaces with
    | nil =>
      obtain ⟨p, more, rfl, opens⟩ := isValue.opens
      exact ⟨p, more, rfl, opens.mark⟩
    | cons space spaces =>
      refine ⟨space, spaces ++ value, rfl, ?_⟩
      have := isBlanks space List.mem_cons_self
      unfold Grammar.IsBlank at this
      omega
  rw [read, readWithin, readWith.eq_def] at usual ⊢
  simp only [beq_iff_eq, if_neg notMark, skipped] at usual ⊢
  rcases found with found | ⟨isArray, deep⟩
  · simp only [found, behind, bind, Except.bind]
    rfl
  · refine absurd ?_ (usual isArray)
    rw [deep]
    rfl

end PhaseScript.Json
