import PhaseScript.Proofs.Datum.JsonText
import PhaseScript.Proofs.Json.Grammar
import PhaseScript.Proofs.Text.Basic
import PhaseScript.Service.Storage
/-
Which data can stand in the body of an answer: those that are JSON values with finite numbers, in
texts of characters, and not too deep. Everything else that a datum may be is refused when the
answer is written.
-/
set_option autoImplicit false

namespace PhaseScript

/-- A step that succeeds is made of two that succeed. -/
theorem ok_of_bind {ε α β : Type} {first : Except ε α} {next : α → Except ε β} {b : β}
    (success : (first >>= next) = .ok b) : ∃ a, first = .ok a ∧ next a = .ok b := by
  cases ran : first with
  | error e =>
    rw [ran] at success
    cases success
  | ok a =>
    rw [ran] at success
    exact ⟨a, rfl, success⟩

namespace Text

/-- A text without surrogates, and no other, has octets. -/
theorem encodeStrict_of_scalar (t : Text) (scalar : t.isScalar = true) : Utf8.encodeStrict t =
    .ok (Utf8.encode t) := by
  have none : t.dropWhile (fun p => !p.isSurrogate) = [] :=
    List.dropWhile_eq_nil_iff.mpr fun p among => List.all_eq_true.mp scalar p among
  rw [Utf8.encodeStrict, none]

theorem scalar_of_encodeStrict (t : Text) (octets : Bytes)
    (encoded : Utf8.encodeStrict t = .ok octets) :
    t.isScalar = true := by
  unfold Utf8.encodeStrict at encoded
  split at encoded
  · next none =>
    exact List.all_eq_true.mpr fun p among => List.dropWhile_eq_nil_iff.mp none p among
  · cases encoded

end Text

namespace Json

/-- Outside ASCII a point stands for itself, and its escapes are made of characters. -/
theorem isScalar_quotedPoint (p : Point) : (quotedPoint false p).isScalar = !p.isSurrogate := by
  have early (small : p.val < 0xD800) : !p.isSurrogate := by
    simp only [Point.isSurrogate, Bool.not_eq_true', Bool.and_eq_false_iff, decide_eq_false_iff_not]
    exact Or.inl (by omega)
  have named (c : Char) (small : c.toNat < 0xD800) (isNamed : p.is c = true) : p.val < 0xD800 := by
    rw [Point.is, beq_iff_eq] at isNamed
    omega
  unfold quotedPoint
  split
  · next quote => exact (early (named '"' (by decide) quote)).symm
  split
  · next slash => exact (early (named '\\' (by decide) slash)).symm
  split
  · next line => exact (early (named '\n' (by decide) line)).symm
  split
  · next back => exact (early (named '\r' (by decide) back)).symm
  split
  · next tab => exact (early (named '\t' (by decide) tab)).symm
  split
  · next eight =>
    have equal := beq_iff_eq.mp eight
    exact (early (by omega)).symm
  split
  · next twelve =>
    have equal := beq_iff_eq.mp twelve
    exact (early (by omega)).symm
  split
  · next low =>
    rw [Text.isScalar_append, Text.isScalar_of_printable (Json.printable_hex p.val (by omega)),
      early (by omega)]
    rfl
  · simp only [Bool.not_false, Bool.true_or, if_true, Text.isScalar_cons]
    exact Bool.and_true _

theorem isScalar_quoted (t : Text) : (quoted false t).isScalar = t.isScalar := by
  have inner : Text.isScalar (t.flatMap (quotedPoint false)) = t.isScalar := by
    induction t with
    | nil => rfl
    | cons p rest ih => rw [List.flatMap_cons, Text.isScalar_append, isScalar_quotedPoint, ih,
      Text.isScalar_cons]
  rw [quoted, Text.isScalar_append, Text.isScalar_cons, inner]
  exact (Bool.and_true _).trans (Bool.true_and _)

theorem newLine_compact (depth : Nat) : Style.compact.newLine depth = [] := rfl

mutual

/-- Texts, names among them, are made of characters. -/
def Characters : Json → Prop
  | .string t => t.isScalar = true
  | .array items => CharactersAll items
  | .object members => CharactersMembers members
  | _ => True

def CharactersAll : List Json → Prop
  | [] => True
  | item :: items => Characters item ∧ CharactersAll items

def CharactersMembers : List (Text × Json) → Prop
  | [] => True
  | (name, value) :: members => name.isScalar = true ∧ Characters value ∧ CharactersMembers members

end

mutual

theorem characters_of_proper : (v : Json) → Proper v → Characters v
  | .null | .bool _ | .int _ | .float _ => fun _ => trivial
  | .string _ => fun proper => proper
  | .array items => characters_of_properAll items
  | .object members => characters_of_properMembers members

theorem characters_of_properAll : (items : List Json) → ProperAll items → CharactersAll items
  | [] => fun _ => trivial
  | item :: items => fun proper =>
    ⟨characters_of_proper item proper.1, characters_of_properAll items proper.2⟩

theorem characters_of_properMembers : (members : List (Text × Json)) → ProperMembers members →
    CharactersMembers members
  | [] => fun _ => trivial
  | (_, value) :: members => fun proper =>
    ⟨proper.1, characters_of_proper value proper.2.1,
    characters_of_properMembers members proper.2.2⟩

end

mutual

/-- Exactly the values whose texts are made of characters are written in characters. -/
theorem isScalar_renderAt (depth : Nat) : (v : Json) →
    ((renderAt .compact depth v).isScalar = true ↔ Characters v)
  | .null | .bool true | .bool false => ⟨fun _ => trivial, fun _ => rfl⟩
  | .int n => by
    rw [renderAt, Text.isScalar_of_printable (printable_ofInt n)]
    exact ⟨fun _ => trivial, fun _ => rfl⟩
  | .float x => by
    rw [renderAt, Text.isScalar_of_printable (printable_floatText x)]
    exact ⟨fun _ => trivial, fun _ => rfl⟩
  | .string t => by
    rw [renderAt, Characters]
    exact iff_of_eq (congrArg (· = true) (isScalar_quoted t))
  | .array [] => ⟨fun _ => trivial, fun _ => rfl⟩
  | .array (item :: items) => by
    have first := isScalar_renderAt (depth + 1) item
    have others := isScalar_renderItems (depth + 1) items
    have bracket : (Point.ofChar '[').isSurrogate = false ∧ Text.isScalar [Point.ofChar ']'] =
      true := ⟨rfl, rfl⟩
    rw [Characters, CharactersAll, ← first, ← others]
    simp only [renderAt, newLine_compact, List.append_nil, List.cons_append, List.nil_append,
      Text.isScalar_cons, Text.isScalar_append, bracket, Bool.not_false, Bool.true_and,
      Bool.and_true, Bool.and_eq_true]
  | .object [] => ⟨fun _ => trivial, fun _ => rfl⟩
  | .object ((name, value) :: members) => by
    have first := isScalar_renderAt (depth + 1) value
    have others := isScalar_renderMembers (depth + 1) members
    have brace : (Point.ofChar '\x7b').isSurrogate = false ∧ Text.isScalar [Point.ofChar '\x7d'] =
      true := ⟨rfl, rfl⟩
    have colon : Text.isScalar Style.compact.nameSeparator = true := rfl
    have quotes : (quoted Style.compact.ascii name).isScalar = name.isScalar := isScalar_quoted name
    rw [Characters, CharactersMembers, ← first, ← others]
    simp only [renderAt, newLine_compact, List.append_nil, List.cons_append, List.nil_append,
      Text.isScalar_cons, Text.isScalar_append, brace, colon, quotes, Bool.not_false, Bool.true_and,
      Bool.and_true, Bool.and_eq_true, and_assoc]

theorem isScalar_renderItems (depth : Nat) :
    (items : List Json) → ((renderItems .compact depth items).isScalar = true ↔ CharactersAll items)
  | [] => ⟨fun _ => trivial, fun _ => rfl⟩
  | item :: items => by
    have first := isScalar_renderAt depth item
    have others := isScalar_renderItems depth items
    have comma : Text.isScalar Style.compact.itemSeparator = true := rfl
    rw [CharactersAll, ← first, ← others]
    simp only [renderItems, newLine_compact, List.append_nil, Text.isScalar_append, comma,
      Bool.true_and, Bool.and_eq_true]

theorem isScalar_renderMembers (depth : Nat) :
    (members : List (Text × Json)) → ((renderMembers .compact depth members).isScalar = true ↔
    CharactersMembers members)
  | [] => ⟨fun _ => trivial, fun _ => rfl⟩
  | (name, value) :: members => by
    have first := isScalar_renderAt depth value
    have others := isScalar_renderMembers depth members
    have marks : Text.isScalar Style.compact.itemSeparator = true ∧
        Text.isScalar Style.compact.nameSeparator = true :=
      ⟨rfl, rfl⟩
    have quotes : (quoted Style.compact.ascii name).isScalar = name.isScalar := isScalar_quoted name
    rw [CharactersMembers, ← first, ← others]
    simp only [renderMembers, newLine_compact, List.append_nil, Text.isScalar_append, marks, quotes,
      Bool.true_and, Bool.and_true, Bool.and_eq_true, and_assoc]

end

end Json

namespace Datum

open Service (bodyRules)

/-- A key that a member can be named by does not meet itself. -/
theorem memberName_eq_ok (key : Datum) (name : Option Text)
    (named : memberName bodyRules key = .ok name) :
    name.isSome = true ∧ hasCycle key = false := by
  have told {d : Datum} {given : Text} (same : (.ok (some given) : Except JsonRefusal _) = .ok name)
      (plain : hasCycle d = false) : name.isSome = true ∧ hasCycle d = false := by
    obtain rfl := Except.ok.inj same
    exact ⟨rfl, plain⟩
  unfold memberName at named
  split at named
  · exact told named rfl
  · exact told named rfl
  · exact told named rfl
  · split at named
    · cases named
    · exact told named rfl
  · split at named
    · cases named
    · exact told named rfl
  · cases named

mutual

/-- A datum that has a JSON value does not meet itself. -/
theorem acyclic_of_toJson : (d : Datum) → (v : Json) → toJson bodyRules d = .ok v → hasCycle d =
    false
  | .list items => fun v accepted => by
    rw [toJson] at accepted
    cases all : toJsonAll bodyRules items with
    | error refusal =>
      rw [all] at accepted
      cases accepted
    | ok values => exact acyclic_of_toJsonAll items values all
  | .tuple items => fun v accepted => by
    rw [toJson] at accepted
    cases all : toJsonAll bodyRules items with
    | error refusal =>
      rw [all] at accepted
      cases accepted
    | ok values => exact acyclic_of_toJsonAll items values all
  | .dict entries => fun v accepted => by
    rw [toJson] at accepted
    cases all : toJsonMembers bodyRules entries with
    | error refusal =>
      rw [all] at accepted
      cases accepted
    | ok members => exact acyclic_of_toJsonMembers entries members all
  | .set _ _ | .exception _ _ _ | .promise _ _ | .object _ _ | .cycle _ => fun _ accepted =>
    nomatch accepted
  | .none | .bool _ | .int _ | .float _ | .complex _ _ | .text _ | .bytes _ | .date _ | .week
    _ _ _ | .clock _
  | .moment _ | .duration _ | .decimal _ | .uuid _ | .response _ _ | .thing
    _ _ | .coroutine | .awaitable | .stub _ _ _
  | .builtin _ => fun _ _ => rfl

theorem acyclic_of_toJsonAll :
    (items : List Datum) → (values : List Json) → toJsonAll bodyRules items = .ok values →
    anyCycle items = false
  | [] => fun _ _ => rfl
  | d :: rest => fun values accepted => by
    rw [toJsonAll] at accepted
    obtain ⟨value, first, accepted⟩ := ok_of_bind accepted
    obtain ⟨others, all, _⟩ := ok_of_bind accepted
    rw [anyCycle, acyclic_of_toJson d value first, acyclic_of_toJsonAll rest others all,
      Bool.or_false]

theorem acyclic_of_toJsonMembers : (entries : List (Datum × Datum)) →
      (members : List (Text × Json)) →
    toJsonMembers bodyRules entries = .ok members → anyCycleEntry entries = false
  | [] => fun _ _ => rfl
  | (key, d) :: rest => fun members accepted => by
    rw [toJsonMembers] at accepted
    obtain ⟨name, named, accepted⟩ := ok_of_bind accepted
    obtain ⟨isNamed, acyclic⟩ := memberName_eq_ok key name named
    cases name with
    | none => cases isNamed
    | some name =>
      obtain ⟨value, first, accepted⟩ := ok_of_bind accepted
      obtain ⟨others, all, _⟩ := ok_of_bind accepted
      rw [anyCycleEntry, acyclic, acyclic_of_toJson d value first,
        acyclic_of_toJsonMembers rest others all, Bool.or_false, Bool.or_false]

end

/-- A datum that can stand in a body, with some room for what lies inside each other. -/
def Tellable (room : Nat) (d : Datum) : Prop :=
  d.depth ≤ room ∧ ∃ v, d.toJson bodyRules = .ok v ∧ v.Characters

variable {room : Nat}

theorem tellable_none : Tellable room .none := ⟨Nat.zero_le room, .null, rfl, trivial⟩

theorem tellable_text (t : Text) : Tellable room (.text t) ↔ t.isScalar = true := by
  constructor
  · rintro ⟨_, v, json, characters⟩
    obtain rfl := Except.ok.inj json
    exact characters
  · exact fun scalar => ⟨Nat.zero_le room, .string t, rfl, scalar⟩

/-- A list needs room for one more than its items. -/
theorem tellable_list (items : List Datum) : Tellable (room + 1) (.list items) ↔ ∀ d ∈ items,
    Tellable room d := by
  have all : (depthOfAll items ≤ room ∧ ∃ values, toJsonAll bodyRules items = .ok values ∧
        Json.CharactersAll values) ↔
      ∀ d ∈ items, Tellable room d := by
    induction items with
    | nil => exact ⟨fun _ _ among => (nomatch among), fun _ => ⟨Nat.zero_le room, [], rfl, trivial⟩⟩
    | cons d rest ih =>
      rw [List.forall_mem_cons, ← ih, depthOfAll, max_le_iff, toJsonAll]
      constructor
      · rintro ⟨⟨shallow, others⟩, values, json, characters⟩
        obtain ⟨value, first, json⟩ := ok_of_bind json
        obtain ⟨more, later, json⟩ := ok_of_bind json
        obtain rfl := Except.ok.inj json
        exact ⟨⟨shallow, value, first, characters.1⟩, others, more, later, characters.2⟩
      · rintro ⟨⟨shallow, value, first, characters⟩, others, more, later, all⟩
        refine ⟨⟨shallow, others⟩, value :: more, ?_, characters, all⟩
        rw [first, later]
        rfl
  rw [← all, Tellable, depth, Nat.add_le_add_iff_right, toJson]
  refine and_congr_right fun _ => ⟨?_, ?_⟩
  · rintro ⟨v, json, characters⟩
    cases made : toJsonAll bodyRules items with
    | error refusal =>
      rw [made] at json
      cases json
    | ok values =>
      rw [made] at json
      obtain rfl := Except.ok.inj json
      exact ⟨values, rfl, characters⟩
  · rintro ⟨values, made, characters⟩
    rw [made]
    exact ⟨.array values, rfl, characters⟩

mutual

/-- What a body takes of JSON values may be written strictly. -/
theorem written_of_toJson : (v w : Json) → toJson bodyRules (ofJson v) = .ok w →
    Json.writeFault? true v = Option.none
  | .null, _ | .bool _, _ | .string _, _ => fun _ => rfl
  | .int n, w => fun accepted => by
    rw [ofJson, toJson] at accepted
    rw [Json.writeFault?]
    split at accepted
    · cases accepted
    · next few => rw [if_neg few]
  | .float x, w => fun accepted => by
    rw [ofJson, toJson] at accepted
    rw [Json.writeFault?]
    split at accepted
    · cases accepted
    · next finite =>
      have strict : bodyRules.allowNotFinite = false := rfl
      rw [strict, Bool.not_false, Bool.and_true] at finite
      rw [Bool.true_and, if_neg finite]
  | .array items, w => fun accepted => by
    rw [ofJson, toJson] at accepted
    rw [Json.writeFault?]
    cases all : toJsonAll bodyRules (ofJsonItems items) with
    | error refusal =>
      rw [all] at accepted
      cases accepted
    | ok values => exact written_of_toJsonAll items values all
  | .object members, w => fun accepted => by
    rw [ofJson, toJson] at accepted
    rw [Json.writeFault?]
    cases all : toJsonMembers bodyRules (ofJsonMembers members) with
    | error refusal =>
      rw [all] at accepted
      cases accepted
    | ok values => exact written_of_toJsonMembers members values all

theorem written_of_toJsonAll : (items values : List Json) →
      toJsonAll bodyRules (ofJsonItems items) = .ok values →
    Json.itemsFault? true items = Option.none
  | [], _ => fun _ => rfl
  | item :: items, values => fun accepted => by
    rw [ofJsonItems, toJsonAll] at accepted
    obtain ⟨value, first, accepted⟩ := ok_of_bind accepted
    obtain ⟨others, all, _⟩ := ok_of_bind accepted
    rw [Json.itemsFault?, written_of_toJson item value first, written_of_toJsonAll items others all,
      Option.or_none]

theorem written_of_toJsonMembers : (members values : List (Text × Json)) →
    toJsonMembers bodyRules (ofJsonMembers members) = .ok values → Json.membersFault? true members =
    Option.none
  | [], _ => fun _ => rfl
  | (name, value) :: members, values => fun accepted => by
    rw [ofJsonMembers, toJsonMembers] at accepted
    obtain ⟨_, named, accepted⟩ := ok_of_bind accepted
    obtain rfl := Except.ok.inj named
    obtain ⟨w, first, accepted⟩ := ok_of_bind accepted
    obtain ⟨others, all, _⟩ := ok_of_bind accepted
    rw [Json.membersFault?, written_of_toJson value w first,
      written_of_toJsonMembers members others all, Option.or_none]

end

/-- Of the JSON values, a body takes those that may be written strictly in characters. -/
theorem tellable_ofJson (v : Json) :
    Tellable room (ofJson v) ↔ v.nesting ≤ room ∧ v.writeFault? true = Option.none ∧
    v.Characters := by
  rw [Tellable, depth_ofJson]
  refine and_congr_right fun _ => ⟨?_, ?_⟩
  · rintro ⟨w, json, characters⟩
    have written := written_of_toJson v w json
    rw [toJson_ofJson bodyRules v written] at json
    obtain rfl := Except.ok.inj json
    exact ⟨written, characters⟩
  · rintro ⟨written, characters⟩
    exact ⟨v, toJson_ofJson bodyRules v written, characters⟩

/-- Named data need room for one more than the data. -/
theorem tellable_ofMembers (members : List (Text × Datum)) :
    Tellable (room + 1) (ofMembers members) ↔
      ∀ member ∈ members, member.1.isScalar = true ∧ Tellable room member.2 := by
  have all : (depthOfEntries (members.map fun member => (Datum.text member.1, member.2)) ≤ room ∧
        ∃ values, toJsonMembers bodyRules (members.map fun member =>
            (Datum.text member.1, member.2)) = .ok values ∧
          Json.CharactersMembers values) ↔
      ∀ member ∈ members, member.1.isScalar = true ∧ Tellable room member.2 := by
    induction members with
    | nil => exact ⟨fun _ _ among => absurd among List.not_mem_nil, fun _ =>
      ⟨Nat.zero_le room, [], rfl, trivial⟩⟩
    | cons member rest ih =>
      obtain ⟨name, d⟩ := member
      have key : depth (.text name) = 0 := rfl
      rw [List.forall_mem_cons, ← ih, List.map_cons, depthOfEntries, key, Nat.zero_max, max_le_iff,
        toJsonMembers]
      constructor
      · rintro ⟨⟨shallow, others⟩, values, json, characters⟩
        obtain ⟨_, named, json⟩ := ok_of_bind json
        obtain rfl := Except.ok.inj named
        obtain ⟨value, first, json⟩ := ok_of_bind json
        obtain ⟨more, later, json⟩ := ok_of_bind json
        obtain rfl := Except.ok.inj json
        exact ⟨⟨characters.1, shallow, value, first, characters.2.1⟩, others, more, later,
          characters.2.2⟩
      · rintro ⟨⟨scalar, shallow, value, first, characters⟩, others, more, later, all⟩
        refine ⟨⟨shallow, others⟩, (name, value) :: more, ?_, scalar, characters, all⟩
        rw [memberName, first, later]
        rfl
  have dict : ofMembers members =
    .dict (members.map fun member => (Datum.text member.1, member.2)) := rfl
  rw [← all, Tellable, dict, depth, Nat.add_le_add_iff_right, toJson]
  refine and_congr_right fun _ => ⟨?_, ?_⟩
  · rintro ⟨v, json, characters⟩
    cases made : toJsonMembers bodyRules (members.map fun member =>
      (Datum.text member.1, member.2)) with
    | error refusal =>
      rw [made] at json
      cases json
    | ok values =>
      rw [made] at json
      obtain rfl := Except.ok.inj json
      exact ⟨values, rfl, characters⟩
  · rintro ⟨values, made, characters⟩
    rw [made]
    exact ⟨.object values, rfl, characters⟩

end Datum

namespace Service

/-- What can stand in a body is the body of an answer. -/
theorem answerWith_of_toJson (status : Nat) (d : Datum) (v : Json)
    (shallow : d.depth ≤ Datum.depthLimit) (json : d.toJson bodyRules = .ok v)
    (characters : v.Characters) :
    answerWith status d = .ok (.ofJson status v) := by
  have text : d.jsonTextBy bodyRules .compact = .ok (Json.render .compact v) := by
    rw [Datum.jsonTextBy_unsorted _ _ _ rfl, decide_eq_false (not_lt.mpr shallow), Bool.false_and,
      if_neg Bool.false_ne_true, json]
    rfl
  have octets := Text.encodeStrict_of_scalar (Json.render .compact v)
    ((Json.isScalar_renderAt 0 v).mpr characters)
  simp only [answerWith, text, octets]
  rfl

/-- Nothing else is. -/
theorem tellable_of_answerWith (status : Nat) (d : Datum) (answer : Outgoing)
    (written : answerWith status d = .ok answer) :
    d.Tellable Datum.depthLimit := by
  cases text : d.jsonTextBy bodyRules .compact with
  | error refusal =>
    rw [answerWith, text] at written
    cases written
  | ok t =>
    simp only [answerWith, text] at written
    cases octets : Utf8.encodeStrict t with
    | error fault =>
      rw [octets] at written
      cases written
    | ok _ =>
      rw [Datum.jsonTextBy_unsorted _ _ _ rfl] at text
      split at text
      · cases text
      · next fits =>
        cases json : d.toJson bodyRules with
        | error refusal =>
          rw [json] at text
          cases text
        | ok v =>
          rw [json] at text
          obtain rfl := Except.ok.inj text
          have scalar := Text.scalar_of_encodeStrict _ _ octets
          rw [Datum.acyclic_of_toJson d v json, Bool.not_false, Bool.and_true, decide_eq_true_eq,
            not_lt] at fits
          exact ⟨fits, v, json, (Json.isScalar_renderAt 0 v).mp scalar⟩

end Service

end PhaseScript
