import PhaseScript.Proofs.Json.RoundTrip
import PhaseScript.Proofs.Text.Basic
/-
What a reader accepts: integers of few digits, distinct names in each object, and no more arrays and
objects inside each other than it has room for. With finite numbers and texts of characters, such a
value is unchanged by writing and reading. A text of characters has halves only in escapes, and an
escape of a low half behind that of a high half is read as one point with it; so in a string that
was read the two never stand side by side.
-/
set_option autoImplicit false

namespace PhaseScript.Json

mutual

/-- Integers have few digits, and the names of each object are distinct. -/
def Limited : Json → Prop
  | .int n => tooManyDigits n = false
  | .array items => LimitedAll items
  | .object members => LimitedMembers members ∧ (members.map (·.1)).Nodup
  | _ => True

def LimitedAll : List Json → Prop
  | [] => True
  | item :: items => Limited item ∧ LimitedAll items

def LimitedMembers : List (Text × Json) → Prop
  | [] => True
  | (_, value) :: members => Limited value ∧ LimitedMembers members

end

theorem limitedAll_iff (items : List Json) :
    LimitedAll items ↔ ∀ item ∈ items, Limited item := by
  induction items with
  | nil => exact ⟨fun _ => nofun, fun _ => trivial⟩
  | cons item items ih => rw [List.forall_mem_cons, LimitedAll, ih]

theorem limitedMembers_iff (members : List (Text × Json)) :
    LimitedMembers members ↔ ∀ member ∈ members, Limited member.2 := by
  induction members with
  | nil => exact ⟨fun _ => nofun, fun _ => trivial⟩
  | cons member members ih =>
    obtain ⟨name, value⟩ := member
    rw [List.forall_mem_cons, LimitedMembers, ih]

mutual

/-- Numbers are finite, and texts are made of characters. -/
def Proper : Json → Prop
  | .float x => x.isFinite = true
  | .string t => t.isScalar = true
  | .array items => ProperAll items
  | .object members => ProperMembers members
  | _ => True

def ProperAll : List Json → Prop
  | [] => True
  | item :: items => Proper item ∧ ProperAll items

def ProperMembers : List (Text × Json) → Prop
  | [] => True
  | (name, value) :: members => name.isScalar = true ∧ Proper value ∧ ProperMembers members

end

mutual

theorem writeFault?_of_limited : (v : Json) → Limited v → Proper v → writeFault? true v = none
  | .null => fun _ _ => rfl
  | .bool _ => fun _ _ => rfl
  | .int n => fun limited _ => by
    rw [Limited] at limited
    rw [writeFault?, limited, if_neg Bool.false_ne_true]
  | .float x => fun _ proper => by
    rw [Proper] at proper
    rw [writeFault?, proper, Bool.not_true, Bool.and_false, if_neg Bool.false_ne_true]
  | .string _ => fun _ _ => rfl
  | .array items => fun limited proper => by
    rw [writeFault?, itemsFault?_of_limited items limited proper]
  | .object members => fun limited proper => by
    rw [writeFault?, membersFault?_of_limited members limited.1 proper]

theorem itemsFault?_of_limited : (items : List Json) → LimitedAll items → ProperAll items →
    itemsFault? true items = none
  | [] => fun _ _ => rfl
  | item :: items => fun limited proper => by
    rw [itemsFault?, writeFault?_of_limited item limited.1 proper.1,
      itemsFault?_of_limited items limited.2 proper.2, Option.or_none]

theorem membersFault?_of_limited : (members : List (Text × Json)) → LimitedMembers members →
      ProperMembers members →
    membersFault? true members = none
  | [] => fun _ _ => rfl
  | (name, value) :: members => fun limited proper => by
    rw [membersFault?, writeFault?_of_limited value limited.1 proper.2.1,
      membersFault?_of_limited members limited.2 proper.2.2, Option.or_none]

end

mutual

/-- In no text do the two halves of a surrogate pair stand side by side. -/
def Whole : Json → Prop
  | .string t => t.Joined
  | .array items => WholeAll items
  | .object members => WholeMembers members
  | _ => True

def WholeAll : List Json → Prop
  | [] => True
  | item :: items => Whole item ∧ WholeAll items

def WholeMembers : List (Text × Json) → Prop
  | [] => True
  | (name, value) :: members => name.Joined ∧ Whole value ∧ WholeMembers members

end

theorem wholeAll_iff (items : List Json) : WholeAll items ↔ ∀ item ∈ items, Whole item := by
  induction items with
  | nil => exact iff_of_true trivial nofun
  | cons item items ih => rw [List.forall_mem_cons, WholeAll, ih]

theorem wholeMembers_iff (members : List (Text × Json)) :
    WholeMembers members ↔ ∀ member ∈ members, member.1.Joined ∧ Whole member.2 := by
  induction members with
  | nil => exact iff_of_true trivial nofun
  | cons member members ih =>
    obtain ⟨name, value⟩ := member
    rw [List.forall_mem_cons, WholeMembers, ih, and_assoc]

mutual

theorem whole_of_proper : (v : Json) → Proper v → Whole v
  | .null | .bool _ | .int _ | .float _ => fun _ => trivial
  | .string t => Text.joined_of_scalar t
  | .array items => wholeAll_of_proper items
  | .object members => wholeMembers_of_proper members

theorem wholeAll_of_proper : (items : List Json) → ProperAll items → WholeAll items
  | [] => id
  | item :: items => And.imp (whole_of_proper item) (wholeAll_of_proper items)

theorem wholeMembers_of_proper : (members : List (Text × Json)) → ProperMembers members →
    WholeMembers members
  | [] => id
  | (name, value) :: members => And.imp (Text.joined_of_scalar name)
    (And.imp (whole_of_proper value) (wholeMembers_of_proper members))

end

mutual

/-- A value of whole texts and distinct names comes back as it was. -/
theorem reread_of_whole (ascii : Bool) : (v : Json) → Limited v → Whole v → reread ascii v = v
  | .null => fun _ _ => rfl
  | .bool _ => fun _ _ => rfl
  | .int _ => fun _ _ => rfl
  | .float _ => fun _ _ => rfl
  | .string t => fun _ whole => by
    rw [reread, rereadText_of_joined ascii t whole]
  | .array items => fun limited whole => by
    rw [reread, rereadAll_of_whole ascii items limited whole]
  | .object members => fun limited whole => by
    have distinct : ((([] : List (Text × Json)) ++ members).map (·.1)).Nodup := limited.2
    rw [reread, rereadMembers_of_whole ascii members limited.1 whole,
      foldl_put_of_nodup members [] distinct, List.nil_append]

theorem rereadAll_of_whole (ascii : Bool) : (items : List Json) → LimitedAll items →
    WholeAll items → rereadAll ascii items = items
  | [] => fun _ _ => rfl
  | item :: items => fun limited whole => by
    rw [rereadAll, reread_of_whole ascii item limited.1 whole.1,
      rereadAll_of_whole ascii items limited.2 whole.2]

theorem rereadMembers_of_whole (ascii : Bool) : (members : List (Text × Json)) →
    LimitedMembers members → WholeMembers members → rereadMembers ascii members = members
  | [] => fun _ _ => rfl
  | (name, value) :: members => fun limited whole => by
    rw [rereadMembers, rereadText_of_joined ascii name whole.1,
      reread_of_whole ascii value limited.1 whole.2.1,
      rereadMembers_of_whole ascii members limited.2 whole.2.2]

end

/-- A value of characters and distinct names comes back as it was. -/
theorem reread_of_limited (ascii : Bool) (v : Json) (limited : Limited v) (proper : Proper v) :
    reread ascii v = v :=
  reread_of_whole ascii v limited (whole_of_proper v proper)

/-- Such a value is unchanged by writing and reading. -/
theorem read_render_of_limited (style : Style) (lawful : style.Lawful) (v : Json)
    (limited : Limited v) (proper : Proper v) (deep : nesting v ≤ maxDepth) :
    read (render style v) = .ok v := by
  have legible := legible_of_written v (writeFault?_of_limited v limited proper)
  rw [read_render style lawful v legible deep,
    reread_of_limited style.ascii v limited proper]

/-- What is within the limits of a reader with some room. -/
def Held (room : Nat) (v : Json) : Prop := Limited v ∧ nesting v ≤ room

theorem held_array (room : Nat) (items : List Json) (all : ∀ item ∈ items, Held room item) :
    Held (room + 1) (.array items) :=
  ⟨(limitedAll_iff items).mpr fun item among => (all item among).1, Nat.succ_le_succ
    ((nestingAll_le_iff items room).mpr fun item among => (all item among).2)⟩

theorem held_object (room : Nat) (members : List (Text × Json)) (all : ∀ member ∈ members,
    Held room member.2) (distinct : (members.map (·.1)).Nodup) : Held (room + 1)
    (.object members) :=
  ⟨⟨(limitedMembers_iff members).mpr fun member among => (all member among).1, distinct⟩,
    Nat.succ_le_succ ((nestingMembers_le_iff members room).mpr fun member among =>
      (all member among).2)⟩

/-- So many digits spell a number below that power of ten. -/
theorem digitsValue_lt (digits : Text) (all : ∀ p ∈ digits, p.isAsciiDigit = true) :
    digitsValue digits < 10 ^ digits.length := by
  induction digits using List.reverseRecOn with
  | nil => exact Nat.one_pos
  | append_singleton front last ih =>
    have before := ih fun p among => all p (List.mem_append_left _ among)
    have digit := all last (List.mem_append_right _ List.mem_cons_self)
    simp only [Point.isAsciiDigit, Bool.and_eq_true, decide_eq_true_eq] at digit
    have one : digitsValue [last] = last.val - 48 := by simp [digitsValue]
    rw [digitsValue_append, one, List.length_append, List.length_singleton, pow_one, pow_succ]
    omega

namespace Dialect

/-- An integer of the dialect has few digits when it is written, too. -/
theorem Number.limited {t rest : Text} {v : Json} (number : Number t v rest) : Limited v := by
  cases number with
  | real => trivial
  | @integer negative whole _ isWhole few =>
    obtain ⟨-, -, -, digits, -⟩ := whole_head isWhole
    have small := Nat.lt_of_lt_of_le (digitsValue_lt whole digits)
      (Nat.pow_le_pow_right (show 0 < 10 by norm_num) few)
    have size : (if negative = true then -Int.ofNat (digitsValue whole) else
        Int.ofNat (digitsValue whole)).natAbs = digitsValue whole := by
      split <;> simp
    rw [maxDigits] at small
    rw [Limited, tooManyDigits, size]
    exact decide_eq_false (Nat.not_le_of_lt small)

mutual

theorem Value.limited {t rest : Text} {v : Json} : Value t v rest → Limited v
  | .null _ | .true _ | .false _ | .nan _ | .infinity _ | .negativeInfinity _ | .string _ => trivial
  | .number number => number.limited
  | .noItems _ => trivial
  | .array _ items => (limitedAll_iff _).mpr items.limited
  | .noMembers _ => ⟨trivial, List.nodup_nil⟩
  | .object _ members =>
    ⟨(limitedMembers_iff _).mpr
      (forall_foldl_put (fun member => Limited member.2) _ [] members.limited nofun),
      foldl_put_nodup _ [] List.nodup_nil⟩

theorem Items.limited {t rest : Text} {items : List Json} : Items t items rest →
    ∀ item ∈ items, Limited item
  | .last value _ => List.forall_mem_singleton.mpr value.limited
  | .more value _ _ items => List.forall_mem_cons.mpr ⟨value.limited, items.limited⟩

theorem Members.limited {t rest : Text} {members : List (Text × Json)} : Members t members rest →
    ∀ member ∈ members, Limited member.2
  | .last _ _ _ value _ => List.forall_mem_singleton.mpr value.limited
  | .more _ _ _ value _ _ members => List.forall_mem_cons.mpr ⟨value.limited, members.limited⟩

end

end Dialect

/-- Whatever a reader accepts is within its limits. -/
theorem held_of_read (t : Text) (v : Json) (accepted : read t = .ok v) : Held maxDepth v := by
  obtain ⟨_, _, _, value, _⟩ := denotes_of_read accepted
  exact ⟨value.limited, nesting_le_of_read accepted⟩

mutual

/-- Values that are found the same are equal. -/
theorem eq_of_same : (a b : Json) → same a b = true → a = b
  | .null, b => fun found => by
    cases b with
    | null => rfl
    | _ => cases found
  | .bool a, b => fun found => by
    cases b with
    | bool b => rw [beq_iff_eq.mp found]
    | _ => cases found
  | .int a, b => fun found => by
    cases b with
    | int b => rw [beq_iff_eq.mp found]
    | _ => cases found
  | .float a, b => fun found => by
    cases b with
    | float b => rw [beq_iff_eq.mp found]
    | _ => cases found
  | .string a, b => fun found => by
    cases b with
    | string b => rw [beq_iff_eq.mp found]
    | _ => cases found
  | .array as, b => fun found => by
    cases b with
    | array bs => rw [eq_of_sameItems as bs found]
    | _ => cases found
  | .object as, b => fun found => by
    cases b with
    | object bs => rw [eq_of_sameMembers as bs found]
    | _ => cases found

theorem eq_of_sameItems : (as bs : List Json) → sameItems as bs = true → as = bs
  | [], [] => fun _ => rfl
  | a :: as, b :: bs => fun found => by
    rw [sameItems, Bool.and_eq_true] at found
    rw [eq_of_same a b found.1, eq_of_sameItems as bs found.2]
  | [], _ :: _ | _ :: _, [] => fun found => nomatch found

theorem eq_of_sameMembers : (as bs : List (Text × Json)) → sameMembers as bs = true → as = bs
  | [], [] => fun _ => rfl
  | (m, a) :: as, (n, b) :: bs => fun found => by
    rw [sameMembers, Bool.and_eq_true, Bool.and_eq_true, beq_iff_eq] at found
    rw [found.1.1, eq_of_same a b found.1.2, eq_of_sameMembers as bs found.2]
  | [], _ :: _ | _ :: _, [] => fun found => nomatch found

end

/-- Whether a text is read as a value. -/
def readsAs (t : Text) (v : Json) : Bool :=
  match read t with
  | .ok found => same found v
  | .error _ => false

theorem read_of_readsAs (t : Text) (v : Json) (reads : readsAs t v = true) : read t = .ok v := by
  unfold readsAs at reads
  split at reads
  · next found isRead => rw [isRead, eq_of_same found v reads]
  · cases reads

theorem not_half_of_single {p : Point} (single : p.isSurrogate = false) :
    p.isHigh = false ∧ p.isLow = false := by
  simp only [Point.isSurrogate, Point.isHigh, Point.isLow, Bool.and_eq_false_iff,
    decide_eq_false_iff_not] at single ⊢
  omega

theorem isScalar_tail {p : Point} {t : Text} (scalar : Text.isScalar (p :: t) = true) :
    t.isScalar = true :=
  (Bool.and_eq_true_iff.mp scalar).2

theorem not_half_of_scalar {p : Point} {t : Text} (scalar : Text.isScalar (p :: t) = true) :
    p.isHigh = false ∧ p.isLow = false :=
  not_half_of_single ((Bool.not_eq_true' _).mp (Bool.and_eq_true_iff.mp scalar).1)

namespace Dialect

theorem Gap.scalar {t rest : Text} (gap : Gap t rest) (scalar : t.isScalar = true) :
    rest.isScalar = true := by
  obtain ⟨blanks, -, rfl⟩ := gap
  rw [Text.isScalar_append, Bool.and_eq_true] at scalar
  exact scalar.2

theorem Four.scalar {t rest : Text} {n : Nat} (four : Four t n rest) (scalar : t.isScalar = true) :
    rest.isScalar = true := by
  obtain ⟨rest, -, -, -, -⟩ := four
  exact isScalar_tail (isScalar_tail (isScalar_tail (isScalar_tail scalar)))

theorem Four.lt {t rest : Text} {n : Nat} (four : Four t n rest) : n < 0x10000 := by
  obtain ⟨rest, a, b, c, d⟩ := four
  have smallA := ((hexDigit_iff _ _).mp a).2
  have smallB := ((hexDigit_iff _ _).mp b).2
  have smallC := ((hexDigit_iff _ _).mp c).2
  have smallD := ((hexDigit_iff _ _).mp d).2
  omega

/-- The point of a surrogate pair lies past those of four digits, and is no half. -/
theorem not_half_of_pair {high low : Nat} (isHigh : IsHighHalf high) (isLow : IsLowHalf low) :
    (Point.ofNat (0x10000 + (high - 0xD800) * 1024 + (low - 0xDC00))).isSurrogate = false := by
  obtain ⟨-, highEnd⟩ := isHigh
  obtain ⟨-, lowEnd⟩ := isLow
  simp only [Point.isSurrogate, Bool.and_eq_false_iff, decide_eq_false_iff_not]
  rw [Point.val_ofNat _ (by omega)]
  omega

theorem Body.scalar {t s rest : Text} (body : Body t s rest) (scalar : t.isScalar = true) :
    rest.isScalar = true := by
  induction body with
  | close => exact isScalar_tail scalar
  | plain _ _ _ _ ih => exact ih (isScalar_tail scalar)
  | letter _ _ ih => exact ih (isScalar_tail (isScalar_tail scalar))
  | single four _ _ ih => exact ih (four.scalar (isScalar_tail (isScalar_tail scalar)))
  | pair four _ four' _ _ ih =>
    have behind := four.scalar (isScalar_tail (isScalar_tail scalar))
    exact ih (four'.scalar (isScalar_tail (isScalar_tail behind)))

/-- A text of characters gives a string a low half only by an escape. -/
theorem Body.lowNext {t s rest : Text} {q : Point} (body : Body t (q :: s) rest)
    (scalar : t.isScalar = true) (low : q.isLow = true) : LowNext t := by
  have none_ (notHalf : q.isHigh = false ∧ q.isLow = false) : LowNext t :=
    nomatch notHalf.2.symm.trans low
  generalize shape : q :: s = whole at body
  cases body with
  | close => cases shape
  | plain =>
    obtain ⟨head, -⟩ := List.cons.inj shape
    exact none_ (head ▸ not_half_of_scalar scalar)
  | letter =>
    obtain ⟨head, -⟩ := List.cons.inj shape
    exact none_ (head ▸ not_half_of_single (Point.isSurrogate_ofChar _))
  | pair _ isHigh _ isLow _ =>
    obtain ⟨head, -⟩ := List.cons.inj shape
    exact none_ (head ▸ not_half_of_single (not_half_of_pair isHigh isLow))
  | @single digits t _ _ n four _ _ =>
    obtain ⟨head, -⟩ := List.cons.inj shape
    have small := four.lt
    rw [head, Point.isLow, Point.val_ofNat n (by omega), Bool.and_eq_true, decide_eq_true_eq,
      decide_eq_true_eq] at low
    exact ⟨digits, n, t, rfl, four, low⟩

/-- In a string from a text of characters no halves stand side by side: the escapes of two that
belong together give one point. -/
theorem Body.joined {t s rest : Text} (body : Body t s rest) (scalar : t.isScalar = true) :
    s.Joined := by
  have apart {p : Point} {s : Text} (single : p.isHigh = false ∧ p.isLow = false)
      (others : s.Joined) : Text.Joined (p :: s) :=
    List.isChain_cons.mpr ⟨fun q _ => by rw [single.1, Bool.false_and], others⟩
  induction body with
  | close => exact .nil
  | plain _ _ _ _ ih => exact apart (not_half_of_scalar scalar) (ih (isScalar_tail scalar))
  | letter _ _ ih =>
    exact apart (not_half_of_single (Point.isSurrogate_ofChar _))
      (ih (isScalar_tail (isScalar_tail scalar)))
  | pair four isHigh four' isLow _ ih =>
    have behind := four.scalar (isScalar_tail (isScalar_tail scalar))
    exact apart (not_half_of_single (not_half_of_pair isHigh isLow))
      (ih (four'.scalar (isScalar_tail (isScalar_tail behind))))
  | @single digits t s _ n four alone body ih =>
    have behind := four.scalar (isScalar_tail (isScalar_tail scalar))
    refine List.isChain_cons.mpr ⟨fun q head => ?_, ih behind⟩
    -- Behind a high half that was read alone there is no escape of a low one.
    rw [← Bool.not_eq_true, Bool.and_eq_true]
    rintro ⟨high, low⟩
    have small := four.lt
    rw [Point.isHigh, Point.val_ofNat n (by omega), Bool.and_eq_true, decide_eq_true_eq,
      decide_eq_true_eq] at high
    cases s with
    | nil => cases head
    | cons p s =>
      obtain rfl := Option.some.inj head
      exact alone high (body.lowNext behind low)

theorem Number.whole {t rest : Text} {v : Json} (number : Number t v rest)
    (scalar : t.isScalar = true) : Whole v ∧ rest.isScalar = true := by
  cases number with
  | integer =>
    simp only [Text.isScalar_append, Bool.and_eq_true] at scalar
    exact ⟨trivial, scalar.2.2⟩
  | real =>
    simp only [Text.isScalar_append, Bool.and_eq_true] at scalar
    exact ⟨trivial, scalar.2.2.2.2⟩

mutual

/-- A value from a text of characters has whole texts. -/
theorem Value.whole {t rest : Text} {v : Json} : Value t v rest → t.isScalar = true →
    Whole v ∧ rest.isScalar = true
  | .null _ | .true _ | .false _ | .nan _ | .infinity _ | .negativeInfinity _ => fun scalar => by
    rw [Text.isScalar_append, Bool.and_eq_true] at scalar
    exact ⟨trivial, scalar.2⟩
  | .number number => number.whole
  | .string body => fun scalar =>
    ⟨body.joined (isScalar_tail scalar), body.scalar (isScalar_tail scalar)⟩
  | .noItems gap | .noMembers gap => fun scalar =>
    ⟨trivial, isScalar_tail (gap.scalar (isScalar_tail scalar))⟩
  | .array gap items => fun scalar =>
    (items.whole (gap.scalar (isScalar_tail scalar))).imp_left (wholeAll_iff _).mpr
  | .object gap members => fun scalar =>
    (members.whole (gap.scalar (isScalar_tail scalar))).imp_left fun all =>
      (wholeMembers_iff _).mpr
        (forall_foldl_put (fun member => member.1.Joined ∧ Whole member.2) _ [] all nofun)

theorem Items.whole {t rest : Text} {items : List Json} : Items t items rest →
    t.isScalar = true → (∀ item ∈ items, Whole item) ∧ rest.isScalar = true
  | .last value gap => fun scalar => by
    obtain ⟨first, behind⟩ := value.whole scalar
    exact ⟨List.forall_mem_singleton.mpr first, isScalar_tail (gap.scalar behind)⟩
  | .more value gap front items => fun scalar => by
    obtain ⟨first, behind⟩ := value.whole scalar
    obtain ⟨others, left⟩ := items.whole (front.scalar (isScalar_tail (gap.scalar behind)))
    exact ⟨List.forall_mem_cons.mpr ⟨first, others⟩, left⟩

theorem Members.whole {t rest : Text} {members : List (Text × Json)} : Members t members rest →
    t.isScalar = true →
    (∀ member ∈ members, member.1.Joined ∧ Whole member.2) ∧ rest.isScalar = true
  | .last body colon front value gap => fun scalar => by
    have name := body.joined (isScalar_tail scalar)
    have atColon := colon.scalar (body.scalar (isScalar_tail scalar))
    obtain ⟨first, behind⟩ := value.whole (front.scalar (isScalar_tail atColon))
    exact ⟨List.forall_mem_singleton.mpr ⟨name, first⟩, isScalar_tail (gap.scalar behind)⟩
  | .more body colon front value gap front' members => fun scalar => by
    have name := body.joined (isScalar_tail scalar)
    have atColon := colon.scalar (body.scalar (isScalar_tail scalar))
    obtain ⟨first, behind⟩ := value.whole (front.scalar (isScalar_tail atColon))
    obtain ⟨others, left⟩ := members.whole (front'.scalar (isScalar_tail (gap.scalar behind)))
    exact ⟨List.forall_mem_cons.mpr ⟨⟨name, first⟩, others⟩, left⟩

end

end Dialect

/-- What is read from a text of characters is whole. -/
theorem whole_of_read {t : Text} {v : Json} (scalar : t.isScalar = true)
    (accepted : read t = .ok v) : Whole v := by
  obtain ⟨_, _, gap, value, _⟩ := denotes_of_read accepted
  exact (value.whole (gap.scalar scalar)).1

/-- A text in which only points before the halves are left held none. -/
theorem joinHalves_eq_of_lt {t : Text} (small : ∀ p ∈ joinHalves t, p.val < 0xD800) :
    joinHalves t = t := by
  induction t using joinHalves.induct with
  | case1 p q rest pair _ =>
    rw [joinHalves, if_pos pair] at small
    have joined_small := small _ List.mem_cons_self
    have large := le_joined pair
    omega
  | case2 p q rest pair ih =>
    rw [joinHalves, if_neg pair] at small ⊢
    rw [ih fun r among => small r (List.mem_cons_of_mem _ among)]
  | case3 | case4 => rfl

/-- No halves are joined to a text that is ASCII in small letters, nor to any other text by them. -/
theorem lower_joinHalves_eq_iff {t word : Text} (ascii : ∀ q ∈ word, q.val < 128) :
    (joinHalves t).lower = word ↔ t.lower = word := by
  constructor
  · rintro rfl
    rw [joinHalves_eq_of_lt (Text.lt_of_lower_ascii ascii)]
  · rintro rfl
    have small := Text.lt_of_lower_ascii ascii
    have scalar : t.isScalar = true := List.all_eq_true.mpr fun p among => by
      have := small p among
      simp only [Point.isSurrogate, Bool.not_eq_true', Bool.and_eq_false_iff,
        decide_eq_false_iff_not]
      omega
    rw [joinHalves_of_joined t (t.joined_of_scalar scalar)]

end PhaseScript.Json
