import PhaseScript.Proofs.Json.Limits
/-
Values without the numbers that are not finite. Such a number becomes null, at any depth, and all
else stays as it is; a value that was read can then be written, and is read back as it was.
-/
set_option autoImplicit false

namespace PhaseScript.Json

mutual

/-- The value with null for each number that is not finite. -/
def finite : Json → Json
  | .float x => if x.isFinite then .float x else .null
  | .array items => .array (finiteAll items)
  | .object members => .object (finiteMembers members)
  | v => v

def finiteAll : List Json → List Json
  | [] => []
  | item :: items => finite item :: finiteAll items

def finiteMembers : List (Text × Json) → List (Text × Json)
  | [] => []
  | (name, value) :: members => (name, finite value) :: finiteMembers members

end

/-- The names of members stay. -/
theorem names_finiteMembers (members : List (Text × Json)) :
    (finiteMembers members).map (·.1) = members.map (·.1) := by
  induction members with
  | nil => rfl
  | cons member members ih =>
    obtain ⟨name, value⟩ := member
    rw [finiteMembers, List.map_cons, List.map_cons, ih]

mutual

@[simp] theorem nesting_finite : (v : Json) → nesting (finite v) = nesting v
  | .null | .bool _ | .int _ | .string _ => rfl
  | .float x => by
    rw [finite]
    split <;> rfl
  | .array items => by rw [finite, nesting, nesting, nestingAll_finiteAll items]
  | .object members => by rw [finite, nesting, nesting, nestingMembers_finiteMembers members]

theorem nestingAll_finiteAll : (items : List Json) → nestingAll (finiteAll items) = nestingAll items
  | [] => rfl
  | item :: items => by
    rw [finiteAll, nestingAll, nestingAll, nesting_finite item, nestingAll_finiteAll items]

theorem nestingMembers_finiteMembers : (members : List (Text × Json)) →
    nestingMembers (finiteMembers members) = nestingMembers members
  | [] => rfl
  | (_, value) :: members => by
    rw [finiteMembers, nestingMembers, nestingMembers, nesting_finite value,
      nestingMembers_finiteMembers members]

end

mutual

theorem limited_finite : (v : Json) → (Limited (finite v) ↔ Limited v)
  | .null | .bool _ | .int _ | .string _ => Iff.rfl
  | .float x => by
    rw [finite]
    split <;> exact Iff.rfl
  | .array items => limitedAll_finiteAll items
  | .object members => by
    rw [finite, Limited, Limited, limitedMembers_finiteMembers members, names_finiteMembers]

theorem limitedAll_finiteAll : (items : List Json) →
    (LimitedAll (finiteAll items) ↔ LimitedAll items)
  | [] => Iff.rfl
  | item :: items => and_congr (limited_finite item) (limitedAll_finiteAll items)

theorem limitedMembers_finiteMembers : (members : List (Text × Json)) →
    (LimitedMembers (finiteMembers members) ↔ LimitedMembers members)
  | [] => Iff.rfl
  | (_, value) :: members =>
    and_congr (limited_finite value) (limitedMembers_finiteMembers members)

end

mutual

theorem whole_finite : (v : Json) → (Whole (finite v) ↔ Whole v)
  | .null | .bool _ | .int _ | .string _ => Iff.rfl
  | .float x => by
    rw [finite]
    split <;> exact Iff.rfl
  | .array items => wholeAll_finiteAll items
  | .object members => wholeMembers_finiteMembers members

theorem wholeAll_finiteAll : (items : List Json) → (WholeAll (finiteAll items) ↔ WholeAll items)
  | [] => Iff.rfl
  | item :: items => and_congr (whole_finite item) (wholeAll_finiteAll items)

theorem wholeMembers_finiteMembers : (members : List (Text × Json)) →
    (WholeMembers (finiteMembers members) ↔ WholeMembers members)
  | [] => Iff.rfl
  | (_, value) :: members =>
    and_congr Iff.rfl (and_congr (whole_finite value) (wholeMembers_finiteMembers members))

end

mutual

/-- Without other numbers, a value of few digits may be written. -/
theorem writeFault?_finite : (v : Json) → Limited v → writeFault? true (finite v) = none
  | .null | .bool _ | .string _ => fun _ => rfl
  | .int n => fun limited => by
    rw [Limited] at limited
    change writeFault? true (.int n) = none
    rw [writeFault?, limited, if_neg Bool.false_ne_true]
  | .float x => fun _ => by
    rw [finite]
    split
    · next isFinite =>
      rw [writeFault?, isFinite, Bool.not_true, Bool.and_false, if_neg Bool.false_ne_true]
    · rfl
  | .array items => itemsFault?_finiteAll items
  | .object members => fun limited => membersFault?_finiteMembers members limited.1

theorem itemsFault?_finiteAll : (items : List Json) → LimitedAll items →
    itemsFault? true (finiteAll items) = none
  | [] => fun _ => rfl
  | item :: items => fun limited => by
    rw [finiteAll, itemsFault?, writeFault?_finite item limited.1,
      itemsFault?_finiteAll items limited.2, Option.or_none]

theorem membersFault?_finiteMembers : (members : List (Text × Json)) → LimitedMembers members →
    membersFault? true (finiteMembers members) = none
  | [] => fun _ => rfl
  | (_, value) :: members => fun limited => by
    rw [finiteMembers, membersFault?, writeFault?_finite value limited.1,
      membersFault?_finiteMembers members limited.2, Option.or_none]

end

/-- What is written of such a value is read back as it was. -/
theorem read_render_finite (style : Style) (lawful : style.Lawful) (v : Json) (limited : Limited v)
    (whole : Whole v) (deep : nesting v ≤ maxDepth) :
    read (render style (finite v)) = .ok (finite v) := by
  rw [read_render style lawful (finite v) (legible_of_written _ (writeFault?_finite v limited))
      ((nesting_finite v).trans_le deep),
    reread_of_whole style.ascii (finite v) ((limited_finite v).mpr limited)
      ((whole_finite v).mpr whole)]

end PhaseScript.Json
