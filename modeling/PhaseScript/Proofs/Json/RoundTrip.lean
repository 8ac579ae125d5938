import PhaseScript.Proofs.Json.Dialect.Reading
/-
Reading what was written. A value that its text tells is read back from it in every style that is
laid out with blanks, as long as it is not too deep; it comes back unchanged when its texts are made
of characters and the names of each object are distinct.
-/
set_option autoImplicit false

namespace PhaseScript.Json

section

variable (kind : Json → Prop)

mutual

/-- Whether all values inside a value that hold no others are of a kind. -/
def Leaves : Json → Prop
  | .array items => LeavesAll items
  | .object members => LeavesMembers members
  | v => kind v

def LeavesAll : List Json → Prop
  | [] => True
  | item :: items => Leaves item ∧ LeavesAll items

def LeavesMembers : List (Text × Json) → Prop
  | [] => True
  | (_, value) :: members => Leaves value ∧ LeavesMembers members

end

theorem leavesAll_iff (items : List Json) :
    LeavesAll kind items ↔ ∀ item ∈ items, Leaves kind item := by
  induction items with
  | nil => exact iff_of_true trivial nofun
  | cons item items ih => rw [LeavesAll, ih, List.forall_mem_cons]

theorem leavesMembers_iff (members : List (Text × Json)) :
    LeavesMembers kind members ↔ ∀ member ∈ members, Leaves kind member.2 := by
  induction members with
  | nil => exact iff_of_true trivial nofun
  | cons member members ih =>
    obtain ⟨name, value⟩ := member
    rw [LeavesMembers, ih, List.forall_mem_cons]

end

/-- A value inside which there are no others, and which its text tells: no integer with too many
digits, and not the number that is none, of which there are several. -/
def LegibleLeaf : Json → Prop
  | .int n => tooManyDigits n = false
  | .float x => x.isNaN = false
  | _ => True

/-- A value that its text tells. -/
abbrev Legible (v : Json) : Prop := Leaves LegibleLeaf v

mutual

/-- What may be written strictly is told by its text. -/
theorem legible_of_written : (v : Json) → writeFault? true v = none → Legible v
  | .null | .bool _ | .string _ => fun _ => trivial
  | .int n => few_of_written n
  | .float x => fun written => Binary64.isNaN_of_isFinite (finite_of_written x written)
  | .array items => legibleAll_of_written items
  | .object members => legibleMembers_of_written members

theorem legibleAll_of_written : (items : List Json) → itemsFault? true items = none →
    LeavesAll LegibleLeaf items
  | [] => fun _ => trivial
  | item :: items => fun written => by
    rw [itemsFault?, Option.or_eq_none_iff] at written
    exact ⟨legible_of_written item written.1, legibleAll_of_written items written.2⟩

theorem legibleMembers_of_written : (members : List (Text × Json)) →
    membersFault? true members = none → LeavesMembers LegibleLeaf members
  | [] => fun _ => trivial
  | (_, value) :: members => fun written => by
    rw [membersFault?, Option.or_eq_none_iff] at written
    exact ⟨legible_of_written value written.1, legibleMembers_of_written members written.2⟩

end

mutual

/-- A value as it comes back from its text. -/
def reread (ascii : Bool) : Json → Json
  | .string t => .string (rereadText ascii t)
  | .array items => .array (rereadAll ascii items)
  | .object members =>
    .object ((rereadMembers ascii members).foldl (fun found (name, value) => put name value found)
    [])
  | v => v

def rereadAll (ascii : Bool) : List Json → List Json
  | [] => []
  | item :: items => reread ascii item :: rereadAll ascii items

def rereadMembers (ascii : Bool) : List (Text × Json) → List (Text × Json)
  | [] => []
  | (name, value) :: members => (rereadText ascii name, reread ascii value) ::
    rereadMembers ascii members

end

/-- The items of an array with what stands between them. -/
def row (style : Style) (depth : Nat) : List Json → Text
  | [] => []
  | item :: items => renderAt style depth item ++ renderItems style depth items

/-- The members of an object with what stands between them. -/
def memberRow (style : Style) (depth : Nat) : List (Text × Json) → Text
  | [] => []
  | (name, value) :: members =>
    quoted style.ascii name ++ style.nameSeparator ++ renderAt style depth value ++
    renderMembers style depth members

/-- A number past all others is written as a word. -/
theorem floatText_infinite {x : Binary64} (unbounded : x.isFinite = false)
    (told : LegibleLeaf (.float x)) : ∃ negative, x = Binary64.infinity negative ∧
      floatText x = (if negative then ("-Infinity" : Text) else "Infinity") := by
  have noNumber : x.isNaN = false := told
  have field : x.exponentField = 2047 := by simpa [Binary64.isFinite] using unbounded
  have fraction : x.fraction = 0 := by simpa [Binary64.isNaN, field] using noNumber
  have infinite : x.isInfinite = true := by simp [Binary64.isInfinite, field, fraction]
  have magnitude : x.bits.toNat % 2 ^ 63 = 2047 * 2 ^ 52 := by
    unfold Binary64.exponentField at field
    unfold Binary64.fraction at fraction
    omega
  refine ⟨x.isNegative, ?_, ?_⟩
  · rw [Binary64.infinity, ← magnitude, Binary64.ofParts_parts]
  · rw [floatText, noNumber, infinite, if_neg Bool.false_ne_true, if_pos rfl]

theorem quoted_append (ascii : Bool) (t rest : Text) : quoted ascii t ++ rest =
    Point.ofChar '"' :: (t.flatMap (quotedPoint ascii) ++ Point.ofChar '"' :: rest) := by
  simp only [quoted, List.append_assoc, List.cons_append, List.nil_append]

/-- A value inside which there are no others is written as one of the dialect. -/
theorem value_leaf (style : Style) (depth : Nat) (v : Json) (legible : Legible v)
    (flat : nesting v = 0) (rest : Text) :
    Dialect.Value (renderAt style depth v ++ rest) (reread style.ascii v) rest := by
  cases v with
  | null => exact .null rest
  | bool b =>
    cases b with
    | true => exact .true rest
    | false => exact .false rest
  | int n =>
    rw [renderAt, ofInt_spelled]
    exact .number (Dialect.number_of_spelled (wellSpelled_ofNat _ _ (by simp))
      (value_intSpelling n legible) rest)
  | float x =>
    rw [renderAt]
    cases finite : x.isFinite with
    | true =>
      obtain ⟨magnitude, whole, fraction, exponent, shape, spelling⟩ := floatText_spelled x finite
      rw [shape, spelling.spelling]
      exact .number (Dialect.number_of_spelled spelling.well spelling.value rest)
    | false =>
      obtain ⟨negative, rfl, word⟩ := floatText_infinite finite legible
      rw [word]
      cases negative with
      | true => exact .negativeInfinity rest
      | false => exact .infinity rest
  | string t =>
    rw [renderAt, quoted_append, reread]
    exact .string (Dialect.body_quoted style.ascii t rest)
  | array | object => exact absurd flat (Nat.succ_ne_zero _)

theorem renderAt_opens (style : Style) (depth : Nat) (v : Json) (legible : Legible v) :
    ∃ p more, renderAt style depth v = p :: more ∧ Opens p := by
  have leaf (flat : nesting v = 0) : ∃ p more, renderAt style depth v = p :: more ∧ Opens p := by
    have value := value_leaf style depth v legible flat []
    rw [List.append_nil] at value
    exact value.opens
  cases v with
  | null | bool _ | int _ | float _ | string _ => exact leaf rfl
  | array items =>
    cases items with
    | nil => exact ⟨Point.ofChar '[', _, rfl, ⟨rfl, rfl, by decide⟩⟩
    | cons item items => exact ⟨Point.ofChar '[', _, by rw [renderAt]; rfl, ⟨rfl, rfl, by decide⟩⟩
  | object members =>
    cases members with
    | nil => exact ⟨Point.ofChar '\x7b', _, rfl, ⟨rfl, rfl, by decide⟩⟩
    | cons member members =>
      exact ⟨Point.ofChar '\x7b', _, by rw [renderAt]; rfl, ⟨rfl, rfl, by decide⟩⟩

theorem gap_newLine (style : Style) (lawful : style.Lawful) (depth : Nat) (rest : Text) :
    Dialect.Gap (style.newLine depth ++ rest) rest :=
  ⟨_, Grammar.blanks_newLine style lawful depth, rfl⟩

theorem opens_append {t : Text} (opened : ∃ p more, t = p :: more ∧ Opens p) (rest : Text) :
    ∃ p more, t ++ rest = p :: more ∧ Opens p := by
  obtain ⟨p, more, rfl, opens⟩ := opened
  exact ⟨p, more ++ rest, rfl, opens⟩

theorem row_opens (style : Style) (depth : Nat) (item : Json) (items : List Json)
    (legible : Legible item) : ∃ p more, row style depth (item :: items) = p :: more ∧ Opens p := by
  obtain ⟨p, more, shape, opens⟩ := renderAt_opens style depth item legible
  exact ⟨p, more ++ renderItems style depth items, by rw [row, shape, List.cons_append], opens⟩

theorem memberRow_quote (style : Style) (depth : Nat) (member : Text × Json)
    (members : List (Text × Json)) :
    ∃ more, memberRow style depth (member :: members) = Point.ofChar '"' :: more := by
  rw [memberRow, List.append_assoc, List.append_assoc, quoted_append]
  exact ⟨_, rfl⟩

/-- Between two items there is a comma with blanks behind it. -/
theorem row_cons_cons (style : Style) (lawful : style.Lawful) (depth : Nat) (item next : Json)
    (items : List Json) : ∃ gap, Grammar.Blanks gap ∧
      row style depth (item :: next :: items) = renderAt style depth item ++
        Point.ofChar ',' :: (gap ++ row style depth (next :: items)) := by
  obtain ⟨gap, separator, blank⟩ := lawful.item
  refine ⟨gap ++ style.newLine depth,
    Grammar.blanks_append blank (Grammar.blanks_newLine style lawful depth), ?_⟩
  simp only [row, renderItems, separator, List.append_assoc, List.cons_append]

/-- A member is its name, a colon with blanks behind it, and its value. -/
theorem memberRow_cons (style : Style) (lawful : style.Lawful) (depth : Nat) (name : Text)
    (value : Json) (members : List (Text × Json)) : ∃ gap, Grammar.Blanks gap ∧
      memberRow style depth ((name, value) :: members) = quoted style.ascii name ++
        Point.ofChar ':' :: (gap ++ (renderAt style depth value ++
          renderMembers style depth members)) := by
  obtain ⟨gap, separator, blank⟩ := lawful.name
  refine ⟨gap, blank, ?_⟩
  simp only [memberRow, separator, List.append_assoc, List.cons_append]

theorem renderMembers_cons (style : Style) (lawful : style.Lawful) (depth : Nat)
    (member : Text × Json) (members : List (Text × Json)) : ∃ gap, Grammar.Blanks gap ∧
      renderMembers style depth (member :: members) =
        Point.ofChar ',' :: (gap ++ memberRow style depth (member :: members)) := by
  obtain ⟨gap, separator, blank⟩ := lawful.item
  refine ⟨gap ++ style.newLine depth,
    Grammar.blanks_append blank (Grammar.blanks_newLine style lawful depth), ?_⟩
  simp only [renderMembers, memberRow, separator, List.append_assoc, List.cons_append]

theorem length_renderAt_pos (style : Style) (depth : Nat) (v : Json) (legible : Legible v) :
    0 < (renderAt style depth v).length := by
  obtain ⟨p, more, shape, _⟩ := renderAt_opens style depth v legible
  rw [shape]
  exact Nat.succ_pos _

theorem length_arrayText (style : Style) (depth : Nat) (item : Json) (items : List Json) :
    (row style (depth + 1) (item :: items)).length + 2 ≤
      (renderAt style depth (.array (item :: items))).length := by
  simp only [renderAt, row, List.length_append, List.length_cons]
  omega

theorem length_objectText (style : Style) (depth : Nat) (member : Text × Json)
    (members : List (Text × Json)) :
    (memberRow style (depth + 1) (member :: members)).length + 2 ≤
      (renderAt style depth (.object (member :: members))).length := by
  simp only [renderAt, memberRow, List.length_append, List.length_cons]
  omega

/-- The text of an array is read on from its first item. -/
theorem readValue_arrayText (style : Style) (lawful : style.Lawful) (depth fuel room : Nat)
    (item : Json) (items : List Json) (legible : Legible item) (rest : Text) :
    readValue Maker.json true (fuel + 1) (room + 1)
        (renderAt style depth (.array (item :: items)) ++ rest) =
      readItems Maker.json true fuel room (row style (depth + 1) (item :: items) ++
        (style.newLine depth ++ Point.ofChar ']' :: rest)) [] := by
  have shape : renderAt style depth (.array (item :: items)) ++ rest = Point.ofChar '[' ::
      (style.newLine (depth + 1) ++ (row style (depth + 1) (item :: items) ++
        (style.newLine depth ++ Point.ofChar ']' :: rest))) := by
    simp only [renderAt, row, List.append_assoc, List.cons_append, List.nil_append]
  have opened := opens_append (row_opens style (depth + 1) item items legible)
    (style.newLine depth ++ Point.ofChar ']' :: rest)
  have skipped := (gap_newLine style lawful (depth + 1) _).skipBlank_opens opened
  obtain ⟨p, more, head, opens⟩ := opened
  rw [shape]
  rw [head] at skipped ⊢
  exact readValue_array fuel room _ _ p skipped opens.closes

/-- The text of an object is read on from its first member. -/
theorem readValue_objectText (style : Style) (lawful : style.Lawful) (depth fuel room : Nat)
    (member : Text × Json) (members : List (Text × Json)) (rest : Text) :
    readValue Maker.json true (fuel + 1) (room + 1)
        (renderAt style depth (.object (member :: members)) ++ rest) =
      readMembers Maker.json true fuel room (memberRow style (depth + 1) (member :: members) ++
        (style.newLine depth ++ Point.ofChar '\x7d' :: rest)) [] := by
  have shape : renderAt style depth (.object (member :: members)) ++ rest = Point.ofChar '\x7b' ::
      (style.newLine (depth + 1) ++ (memberRow style (depth + 1) (member :: members) ++
        (style.newLine depth ++ Point.ofChar '\x7d' :: rest))) := by
    simp only [renderAt, memberRow, List.append_assoc, List.cons_append, List.nil_append]
  obtain ⟨more, head⟩ := memberRow_quote style (depth + 1) member members
  rw [shape, head]
  exact readValue_object fuel room _ _ _ ((gap_newLine style lawful (depth + 1) _).skipBlank_cons
    rfl) rfl

section

variable {ascii : Bool} {fuel room : Nat} {name front text after rest : Text} {value : Json}
  (read : List (Text × Json)) (gap : Dialect.Gap front text)
  (opens : ∃ p more, text = p :: more ∧ Opens p)
  (valued : readValue Maker.json true fuel room text = .ok (value, after))

include gap opens valued

/-- A member up to its value. -/
theorem readMembers_last (skipped : skipBlank after = Point.ofChar '\x7d' :: rest) :
    readMembers Maker.json true (fuel + 1) room (quoted ascii name ++ Point.ofChar ':' :: front)
        read =
      .ok (.object (((rereadText ascii name, value) :: read).reverse.foldl
        (fun found (name, value) => put name value found) []), rest) := by
  have closing : (Point.ofChar '\x7d').is '\x7d' = true := rfl
  rw [quoted_append, Dialect.readMembers_body fuel room read (Dialect.body_quoted ascii name _)
    (Dialect.Gap.refl _) gap opens, valued]
  simp only [skipped, closing, if_true, bind, Except.bind, pure, Except.pure]
  rfl

theorem readMembers_more (skipped : skipBlank after = Point.ofChar ',' :: rest) :
    readMembers Maker.json true (fuel + 1) room (quoted ascii name ++ Point.ofChar ':' :: front)
        read =
      readMembers Maker.json true fuel room (skipBlank rest)
        ((rereadText ascii name, value) :: read) := by
  have notClosing : (Point.ofChar ',').is '\x7d' = false := rfl
  have comma : (Point.ofChar ',').is ',' = true := rfl
  rw [quoted_append, Dialect.readMembers_body fuel room read (Dialect.body_quoted ascii name _)
    (Dialect.Gap.refl _) gap opens, valued]
  simp only [skipped, notClosing, comma, Bool.false_eq_true, if_false, if_true, bind, Except.bind]

end

mutual

/-- A value is read back from its text, up to where the text ends. -/
theorem readValue_renderAt (style : Style) (lawful : style.Lawful) :
    (v : Json) → Legible v → (depth fuel room : Nat) → (rest : Text) →
        nesting v ≤ room →
      2 * (renderAt style depth v).length ≤ fuel + 1 → EndsNumber rest →
      readValue Maker.json true (fuel + 1) room (renderAt style depth v ++ rest) =
      .ok (reread style.ascii v, rest)
  | .null | .bool _ | .int _ | .float _ | .string _ => fun legible depth fuel room rest _ _ ends =>
    (value_leaf style depth _ legible rfl rest).readValue_flat rfl ends fuel room
  | .array [] => fun _ depth fuel room rest deep _ _ => by
    obtain ⟨room, rfl⟩ : ∃ k, room = k + 1 := ⟨room - 1, by rw [nesting] at deep; omega⟩
    rw [renderAt, reread, rereadAll]
    rfl
  | .array (item :: items) => fun legible depth fuel room rest deep enough _ => by
    rw [Legible, Leaves, LeavesAll] at legible
    rw [nesting] at deep
    obtain ⟨room, rfl⟩ : ∃ k, room = k + 1 := ⟨room - 1, by omega⟩
    have size := length_arrayText style depth item items
    obtain ⟨p, more, head, -⟩ := row_opens style (depth + 1) item items legible.1
    have some := congrArg List.length head
    rw [List.length_cons] at some
    obtain ⟨fuel, rfl⟩ : ∃ k, fuel = k + 2 := ⟨fuel - 2, by omega⟩
    rw [readValue_arrayText style lawful depth _ room item items legible.1 rest, reread]
    exact readItems_row style lawful (item :: items) legible (depth + 1) depth fuel room rest []
      (List.cons_ne_nil _ _) (by omega) (by omega)
  | .object [] => fun _ depth fuel room rest deep _ _ => by
    obtain ⟨room, rfl⟩ : ∃ k, room = k + 1 := ⟨room - 1, by rw [nesting] at deep; omega⟩
    rw [renderAt, reread, rereadMembers]
    rfl
  | .object (member :: members) => fun legible depth fuel room rest deep enough _ => by
    rw [Legible, Leaves] at legible
    rw [nesting] at deep
    obtain ⟨room, rfl⟩ : ∃ k, room = k + 1 := ⟨room - 1, by omega⟩
    have size := length_objectText style depth member members
    obtain ⟨more, head⟩ := memberRow_quote style (depth + 1) member members
    have some := congrArg List.length head
    rw [List.length_cons] at some
    obtain ⟨fuel, rfl⟩ : ∃ k, fuel = k + 2 := ⟨fuel - 2, by omega⟩
    rw [readValue_objectText style lawful depth _ room member members rest, reread]
    exact readMembers_row style lawful (member :: members) legible (depth + 1) depth fuel room rest
      [] (List.cons_ne_nil _ _) (by omega) (by omega)

/-- The items of an array are read back from their row. -/
theorem readItems_row (style : Style) (lawful : style.Lawful) :
    (items : List Json) → LeavesAll LegibleLeaf items → (depth outer fuel room : Nat) →
        (rest : Text) →
      (read : List Json) → items ≠ [] → nestingAll items ≤ room →
        2 * (row style depth items).length + 1 ≤ fuel + 2 →
      readItems Maker.json true (fuel + 2) room
        (row style depth items ++ (style.newLine outer ++ Point.ofChar ']' :: rest)) read =
        .ok (.array (read.reverse ++ rereadAll style.ascii items), rest)
  | [] => fun _ _ _ _ _ _ _ some => absurd rfl some
  | [item] => fun legible depth outer fuel room rest read _ deep enough => by
    rw [LeavesAll] at legible
    rw [nestingAll] at deep
    rw [row, renderItems, List.append_nil] at enough ⊢
    have closing := gap_newLine style lawful outer (Point.ofChar ']' :: rest)
    have value := readValue_renderAt style lawful item legible.1 depth fuel room
      (style.newLine outer ++ Point.ofChar ']' :: rest) (by omega) (by omega)
      (Dialect.endsNumber_close closing (.inl rfl))
    rw [readItems_last (fuel + 1) room _ _ rest _ read value (closing.skipBlank_cons rfl),
      List.reverse_cons]
    rfl
  | item :: next :: items => fun legible depth outer fuel room rest read _ deep enough => by
    rw [LeavesAll, LeavesAll] at legible
    rw [nestingAll] at deep
    obtain ⟨gap, blank, shape⟩ := row_cons_cons style lawful depth item next items
    have size := congrArg List.length shape
    simp only [List.length_append, List.length_cons] at size
    have positive := length_renderAt_pos style depth item legible.1
    obtain ⟨fuel, rfl⟩ : ∃ k, fuel = k + 1 := ⟨fuel - 1, by omega⟩
    have opened := opens_append (row_opens style depth next items legible.2.1)
      (style.newLine outer ++ Point.ofChar ']' :: rest)
    have behind := Dialect.Gap.skipBlank_opens ⟨gap, blank, rfl⟩ opened
    have value := readValue_renderAt style lawful item legible.1 depth (fuel + 1) room
      (Point.ofChar ',' :: (gap ++ (row style depth (next :: items) ++
        (style.newLine outer ++ Point.ofChar ']' :: rest)))) (by omega) (by omega)
      (endsNumber_cons _ _ rfl rfl rfl rfl)
    have others := readItems_row style lawful (next :: items) legible.2 depth outer fuel room rest
      (reread style.ascii item :: read) (List.cons_ne_nil _ _) (by omega) (by omega)
    rw [shape, List.append_assoc, List.cons_append, List.append_assoc,
      readItems_more (fuel + 2) room _ _ _ _ read value (skipBlank_cons _ _ rfl), behind, others,
      List.reverse_cons, List.append_assoc]
    rfl

/-- The members of an object are read back from their row. -/
theorem readMembers_row (style : Style) (lawful : style.Lawful) :
    (members : List (Text × Json)) → LeavesMembers LegibleLeaf members →
        (depth outer fuel room : Nat) →
      (rest : Text) → (read : List (Text × Json)) → members ≠ [] → nestingMembers members ≤ room →
      2 * (memberRow style depth members).length + 1 ≤ fuel + 2 →
      readMembers Maker.json true (fuel + 2) room
        (memberRow style depth members ++ (style.newLine outer ++ Point.ofChar '\x7d' :: rest))
          read =
        .ok (.object ((read.reverse ++ rereadMembers style.ascii members).foldl
          (fun found (name, value) => put name value found) []), rest)
  | [] => fun _ _ _ _ _ _ _ some => absurd rfl some
  | [(name, value)] => fun legible depth outer fuel room rest read _ deep enough => by
    rw [LeavesMembers] at legible
    rw [nestingMembers] at deep
    obtain ⟨gap, blank, shape⟩ := memberRow_cons style lawful depth name value []
    have size := congrArg List.length shape
    simp only [List.length_append, List.length_cons] at size
    have closing := gap_newLine style lawful outer (Point.ofChar '\x7d' :: rest)
    have valued := readValue_renderAt style lawful value legible.1 depth fuel room
      (style.newLine outer ++ Point.ofChar '\x7d' :: rest) (by omega) (by omega)
      (Dialect.endsNumber_close closing (.inr (.inl rfl)))
    rw [shape, renderMembers, List.append_nil, List.append_assoc, List.cons_append,
      List.append_assoc, readMembers_last read ⟨gap, blank, rfl⟩
        (opens_append (renderAt_opens style depth value legible.1) _) valued
        (closing.skipBlank_cons rfl), List.reverse_cons]
    rfl
  | (name, value) :: next :: members =>
      fun legible depth outer fuel room rest read _ deep enough => by
    rw [LeavesMembers] at legible
    rw [nestingMembers] at deep
    obtain ⟨gap, blank, shape⟩ := memberRow_cons style lawful depth name value (next :: members)
    obtain ⟨gap', blank', comma⟩ := renderMembers_cons style lawful depth next members
    rw [comma] at shape
    have size := congrArg List.length shape
    simp only [List.length_append, List.length_cons] at size
    obtain ⟨fuel, rfl⟩ : ∃ k, fuel = k + 1 := ⟨fuel - 1, by omega⟩
    have valued := readValue_renderAt style lawful value legible.1 depth (fuel + 1) room
      (Point.ofChar ',' :: (gap' ++ (memberRow style depth (next :: members) ++
        (style.newLine outer ++ Point.ofChar '\x7d' :: rest)))) (by omega) (by omega)
      (endsNumber_cons _ _ rfl rfl rfl rfl)
    obtain ⟨more, head⟩ := memberRow_quote style depth next members
    have behind : skipBlank (gap' ++ (memberRow style depth (next :: members) ++
        (style.newLine outer ++ Point.ofChar '\x7d' :: rest))) =
        memberRow style depth (next :: members) ++
          (style.newLine outer ++ Point.ofChar '\x7d' :: rest) := by
      rw [head]
      exact Dialect.Gap.skipBlank_cons ⟨gap', blank', rfl⟩ rfl
    have others := readMembers_row style lawful (next :: members) legible.2 depth outer fuel room
      rest ((rereadText style.ascii name, reread style.ascii value) :: read) (List.cons_ne_nil _ _)
      (by omega) (by omega)
    rw [shape]
    simp only [List.append_assoc, List.cons_append]
    rw [readMembers_more read ⟨gap, blank, rfl⟩
      (opens_append (renderAt_opens style depth value legible.1) _) valued (skipBlank_cons _ _ rfl),
      behind, others, List.reverse_cons, List.append_assoc]
    rfl

end

/-- A value that its text tells and that is not too deep is read back from its text. -/
theorem read_render (style : Style) (lawful : style.Lawful) (v : Json) (legible : Legible v)
    (deep : nesting v ≤ maxDepth) : read (render style v) = .ok (reread style.ascii v) := by
  obtain ⟨p, more, shape, opens⟩ := renderAt_opens style 0 v legible
  have value := readValue_renderAt style lawful v legible 0 (2 * (renderAt style 0 v).length + 1)
    maxDepth [] deep (by omega) endsNumber_nil
  rw [List.append_nil] at value
  have mark : (p.val == 0xFEFF) = false := beq_eq_false_iff_ne.mpr opens.mark
  have start : skipBlank (p :: more) = p :: more := skipBlank_cons p more opens.blank
  rw [render, read, readWithin, readWith.eq_def]
  rw [shape] at value ⊢
  simp only [mark, Bool.false_eq_true, if_false, start, value, bind, Except.bind]
  rfl

end PhaseScript.Json
