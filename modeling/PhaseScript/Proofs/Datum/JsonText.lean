import PhaseScript.Datum.JsonText
import PhaseScript.Proofs.Json.Limits
import PhaseScript.Datum.JsonSafe
/-
The JSON text of a datum that came from a JSON value is the text of that value. The JSON-safe form
of a datum is nested no deeper than the datum, the place of a day in its week apart, which becomes
an array.
-/
set_option autoImplicit false

namespace PhaseScript.Datum

open Json (writeFault? itemsFault? membersFault? nesting nestingAll nestingMembers)

mutual

/-- A JSON value is found again in its datum, whatever the rules say about other data. -/
theorem toJson_ofJson (rules : JsonRules) : (v : Json) → writeFault? true v = Option.none →
    toJson rules (ofJson v) = .ok v
  | .null => fun _ => rfl
  | .bool _ => fun _ => rfl
  | .int n => fun written => by
    have few := Json.few_of_written n written
    rw [ofJson, toJson, few, if_neg Bool.false_ne_true]
  | .float x => fun written => by
    have finite := Json.finite_of_written x written
    rw [ofJson, toJson, finite, Bool.not_true, Bool.false_and, if_neg Bool.false_ne_true]
  | .string _ => fun _ => rfl
  | .array items => fun written => by
    rw [ofJson, toJson, toJsonAll_ofJson rules items written]
    rfl
  | .object members => fun written => by
    rw [ofJson, toJson, toJsonMembers_ofJson rules members written]
    rfl

theorem toJsonAll_ofJson (rules : JsonRules) : (items : List Json) → itemsFault? true items =
      Option.none →
    toJsonAll rules (ofJsonItems items) = .ok items
  | [] => fun _ => rfl
  | item :: items => fun written => by
    rw [itemsFault?, Option.or_eq_none_iff] at written
    rw [ofJsonItems, toJsonAll, toJson_ofJson rules item written.1,
      toJsonAll_ofJson rules items written.2]
    rfl

theorem toJsonMembers_ofJson (rules : JsonRules) : (members : List (Text × Json)) →
    membersFault? true members = Option.none → toJsonMembers rules (ofJsonMembers members) =
    .ok members
  | [] => fun _ => rfl
  | (name, value) :: members => fun written => by
    rw [membersFault?, Option.or_eq_none_iff] at written
    rw [ofJsonMembers, toJsonMembers, memberName, toJson_ofJson rules value written.1,
      toJsonMembers_ofJson rules members written.2]
    rfl

end

mutual

theorem depth_ofJson : (v : Json) → depth (ofJson v) = nesting v
  | .null | .bool _ | .int _ | .float _ | .string _ => rfl
  | .array items => by rw [ofJson, depth, nesting, depthOfAll_ofJson items]
  | .object members => by rw [ofJson, depth, nesting, depthOfEntries_ofJson members]

theorem depthOfAll_ofJson : (items : List Json) → depthOfAll (ofJsonItems items) = nestingAll items
  | [] => rfl
  | item :: items => by rw [ofJsonItems, depthOfAll, nestingAll, depth_ofJson item,
    depthOfAll_ofJson items]

theorem depthOfEntries_ofJson : (members : List (Text × Json)) →
    depthOfEntries (ofJsonMembers members) = nestingMembers members
  | [] => rfl
  | (name, value) :: members => by
    rw [ofJsonMembers, depthOfEntries, nestingMembers, depth_ofJson value,
      depthOfEntries_ofJson members]
    rw [show depth (.text name) = 0 from rfl, Nat.zero_max]

end

/-- The JSON text of a datum whose members stay in their order. -/
theorem jsonTextBy_unsorted (rules : JsonRules) (style : Json.Style) (d : Datum)
    (unsorted : rules.sortKeys = false) :
    d.jsonTextBy rules style =
      if depthLimit < d.depth && !d.hasCycle then .error .tooDeep else (d.toJson rules).map
        (Json.render style) := by
  cases deep : decide (depthLimit < d.depth) && !d.hasCycle with
  | true => simp only [jsonTextBy, deep, if_true, bind, Except.bind]
  | false =>
    simp only [jsonTextBy, deep, unsorted, Bool.false_eq_true, if_false, bind, Except.bind, pure,
      Except.pure]
    rfl

/-- The JSON text of a datum that came from a value is the text of the value. -/
theorem jsonTextBy_ofJson (rules : JsonRules) (style : Json.Style) (v : Json)
    (unsorted : rules.sortKeys = false) (written : writeFault? true v = Option.none)
    (deep : nesting v ≤ depthLimit) :
    jsonTextBy rules style (ofJson v) = .ok (Json.render style v) := by
  rw [jsonTextBy_unsorted rules style _ unsorted, depth_ofJson, decide_eq_false (not_lt.mpr deep),
    Bool.false_and, if_neg Bool.false_ne_true, toJson_ofJson rules v written]
  rfl

mutual

theorem nesting_jsonSafe_le : (d : Datum) → nesting (jsonSafe d) ≤ depth d + 1
  | .list items => Nat.succ_le_succ (nestingAll_jsonSafeAll_le items)
  | .tuple items => Nat.succ_le_succ (nestingAll_jsonSafeAll_le items)
  | .set _ items => by
    rw [jsonSafe]
    refine Nat.succ_le_succ ((Json.nestingAll_le_iff _ _).mpr fun form among => ?_)
    obtain ⟨pair, inside, rfl⟩ := List.mem_map.mp among
    exact nesting_textsAndForms_le items pair (List.mem_mergeSort.mp inside)
  | .dict entries =>
    Nat.succ_le_succ (nestingMembers_jsonSafeEntries_le entries [] _ (Nat.zero_le _) le_rfl)
  | .week _ _ _ => le_rfl
  | .float x => by
    rw [jsonSafe]
    split <;> exact Nat.zero_le _
  | .decimal d => by
    rw [jsonSafe]
    split
    · exact Nat.zero_le _
    · split <;> exact Nat.zero_le _
  | .none | .bool _ | .int _ | .complex _ _ | .text _ | .bytes _ | .date _ | .clock _ | .moment
    _ | .duration _ | .uuid _
  | .exception _ _ _ | .promise _ _ | .response _ _ | .thing _ _ | .object
    _ _ | .coroutine | .awaitable | .stub _ _ _
  | .builtin _ | .cycle _ => Nat.zero_le _

theorem nestingAll_jsonSafeAll_le : (items : List Datum) → nestingAll (jsonSafeAll items) ≤
    depthOfAll items + 1
  | [] => Nat.zero_le _
  | item :: items => by
    have first := nesting_jsonSafe_le item
    have others := nestingAll_jsonSafeAll_le items
    rw [jsonSafeAll, nestingAll, depthOfAll]
    omega

theorem nesting_textsAndForms_le :
    (items : List Datum) → ∀ pair ∈ textsAndForms items, nesting pair.2 ≤ depthOfAll items + 1
  | [] => fun _ among => nomatch among
  | item :: items => fun pair among => by
    rw [textsAndForms] at among
    rw [depthOfAll]
    rcases List.mem_cons.mp among with rfl | there
    · exact (nesting_jsonSafe_le item).trans (Nat.succ_le_succ (le_max_left _ _))
    · have others := nesting_textsAndForms_le items pair there
      omega

theorem nestingMembers_jsonSafeEntries_le : (entries : List (Datum × Datum)) →
      (members : List (Text × Json)) →
    (room : Nat) → nestingMembers members ≤ room → depthOfEntries entries + 1 ≤ room →
      nestingMembers (jsonSafeEntries entries members) ≤ room
  | [] => fun _ _ old _ => old
  | (key, value) :: entries => fun members room old fits => by
    have first := nesting_jsonSafe_le value
    rw [depthOfEntries] at fits
    exact nestingMembers_jsonSafeEntries_le entries _ room
      (Json.nestingMembers_put (plain key) (jsonSafe value) members room (by omega) old) (by omega)

end

end PhaseScript.Datum
