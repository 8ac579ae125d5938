import PhaseScript.Proofs.Datum.Enumeration
/-
What the JSON-safe form of a datum keeps of it. Lists, tuples and sets keep all their items, but the
members of an object are named by the texts of the keys, so that a dict with two keys of one text
loses an entry. A form holds as much as the datum exactly where no dict in it has two such keys.
-/
set_option autoImplicit false

namespace PhaseScript.Datum

/-- The items that an array is made of, in order: those of a set in the order of their texts. -/
def itemsInOrder? : Datum → Option (List Datum)
  | .list items | .tuple items => some items
  | .set _ items => some (items.mergeSort fun a b => Text.le (plain a) (plain b))
  | _ => Option.none

/-- A value that holds as much as a datum, at every depth: the items of a list, a tuple or a set one
for one, and for the entries of a dict, in order, a member each that is named by the key's text. -/
inductive Keeps : Datum → Json → Prop
  | leaf {d : Datum} (leaf : d.isContainer = false) : Keeps d d.jsonSafe
  | array {d : Datum} {items : List Datum} {forms : List Json}
    (inOrder : d.itemsInOrder? = some items) (each : List.Forall₂ Keeps items forms) :
    Keeps d (.array forms)
  | object {entries : List (Datum × Datum)} {members : List (Text × Json)}
    (names : members.map (·.1) = entries.map fun entry => plain entry.1)
    (values : List.Forall₂ Keeps (entries.map (·.2)) (members.map (·.2))) :
    Keeps (.dict entries) (.object members)

/-- No dict that is shown in a datum has two keys of one text. -/
def TextsApart (d : Datum) : Prop :=
  ∀ entries, Shown d (.dict entries) → (entries.map fun entry => plain entry.1).Nodup

theorem forall₂_forms_iff {items : List Datum} :
    List.Forall₂ Keeps items (items.map jsonSafe) ↔ ∀ item ∈ items, Keeps item item.jsonSafe := by
  rw [List.forall₂_map_right_iff, List.forall₂_same]

section Items

variable {d : Datum} {items : List Datum} (inOrder : d.itemsInOrder? = some items)

include inOrder

theorem container_of_inOrder : d.isContainer = true := by
  cases d with
  | list | tuple | set => rfl
  | _ => cases inOrder

theorem jsonSafe_of_inOrder : d.jsonSafe = .array (items.map jsonSafe) := by
  cases d with
  | list | tuple =>
    cases inOrder
    rw [jsonSafe, jsonSafeAll_eq_map]
  | set frozen items =>
    cases inOrder
    have ordered := List.map_mergeSort (l := items) (f := fun item => (plain item, jsonSafe item))
      (r := fun a b => Text.le (plain a) (plain b)) (s := fun a b => Text.le a.1 b.1)
      fun _ _ _ _ => rfl
    rw [jsonSafe_set, formsInOrder, ← ordered, List.map_map]
    rfl
  | _ => cases inOrder

theorem part_iff_of_inOrder {part : Datum} : Part d part ↔ part ∈ items := by
  cases d with
  | list =>
    cases inOrder
    exact ⟨fun (.list among) => among, .list⟩
  | tuple =>
    cases inOrder
    exact ⟨fun (.tuple among) => among, .tuple⟩
  | set =>
    cases inOrder
    rw [List.mem_mergeSort]
    exact ⟨fun (.set among) => among, .set⟩
  | _ => cases inOrder

theorem keeps_items_iff : Keeps d d.jsonSafe ↔ ∀ part, Part d part → Keeps part part.jsonSafe := by
  simp only [part_iff_of_inOrder inOrder]
  rw [jsonSafe_of_inOrder inOrder, ← forall₂_forms_iff]
  constructor
  · generalize form : Json.array (items.map jsonSafe) = j
    intro keeps
    cases keeps with
    | leaf leaf => cases (container_of_inOrder inOrder).symm.trans leaf
    | array inOrder' each =>
      cases inOrder.symm.trans inOrder'
      cases form
      exact each
    | object => cases inOrder
  · exact .array inOrder

end Items

section Entries

variable {entries : List (Datum × Datum)}

/-- Of keys with different texts each counts. -/
theorem counts_iff_of_nodup (apart : (entries.map fun entry => plain entry.1).Nodup)
    {value : Datum} : Counts entries value ↔ value ∈ entries.map (·.2) := by
  induction entries with
  | nil => exact iff_of_false nofun List.not_mem_nil
  | cons entry entries ih =>
    obtain ⟨new, apart⟩ := List.nodup_cons.mp apart
    rw [List.map_cons, List.mem_cons, ← ih apart]
    constructor
    · rintro (others | counts)
      · exact .inl rfl
      · exact .inr counts
    · rintro (rfl | counts)
      · exact .here fun other among same => new (List.mem_map.mpr ⟨other, among, same⟩)
      · exact .later counts

theorem jsonSafeEntries_eq_foldl (members : List (Text × Json)) :
    jsonSafeEntries entries members =
      (entries.map fun entry => (plain entry.1, entry.2.jsonSafe)).foldl
        (fun found (name, value) => Json.put name value found) members := by
  induction entries generalizing members with
  | nil => rfl
  | cons entry entries ih => rw [jsonSafeEntries, ih]; rfl

theorem jsonSafe_dict_of_nodup (apart : (entries.map fun entry => plain entry.1).Nodup) :
    (Datum.dict entries).jsonSafe =
      .object (entries.map fun entry => (plain entry.1, entry.2.jsonSafe)) := by
  rw [jsonSafe, jsonSafeEntries_eq_foldl, Json.foldl_put_of_nodup, List.nil_append]
  rwa [List.nil_append, List.map_map]

theorem keeps_dict_iff : Keeps (.dict entries) (Datum.dict entries).jsonSafe ↔
    (entries.map fun entry => plain entry.1).Nodup ∧
      ∀ part, Part (.dict entries) part → Keeps part part.jsonSafe := by
  have parts (apart : (entries.map fun entry => plain entry.1).Nodup) :
      (∀ part, Part (.dict entries) part → Keeps part part.jsonSafe) ↔
        List.Forall₂ Keeps (entries.map (·.2)) ((entries.map (·.2)).map jsonSafe) := by
    rw [forall₂_forms_iff]
    simp only [← counts_iff_of_nodup apart]
    exact ⟨fun all value counts => all value (.dict counts),
      fun all _ (.dict counts) => all _ counts⟩
  constructor
  · generalize form : (Datum.dict entries).jsonSafe = j
    intro keeps
    cases keeps with
    | leaf leaf => cases leaf
    | array inOrder => cases inOrder
    | object names values =>
      have apart : (entries.map fun entry => plain entry.1).Nodup := by
        rw [jsonSafe] at form
        cases form
        rw [← names]
        exact nodup_jsonSafeEntries entries [] List.nodup_nil
      refine ⟨apart, (parts apart).mpr ?_⟩
      rw [jsonSafe_dict_of_nodup apart] at form
      cases form
      rw [List.map_map] at values ⊢
      exact values
  · rintro ⟨apart, all⟩
    rw [jsonSafe_dict_of_nodup apart]
    refine .object (by rw [List.map_map]; rfl) ?_
    rw [parts apart, List.map_map] at all
    rwa [List.map_map]

end Entries

theorem textsApart_iff {d : Datum} : TextsApart d ↔
    (∀ entries, d = .dict entries → (entries.map fun entry => plain entry.1).Nodup) ∧
      ∀ part, Part d part → TextsApart part := by
  constructor
  · intro apart
    refine ⟨?_, fun part isPart entries shown => apart entries (.inside isPart shown)⟩
    rintro entries rfl
    exact apart entries (.itself _)
  · rintro ⟨here, parts⟩ entries shown
    cases shown with
    | itself => exact here entries rfl
    | inside isPart shown => exact parts _ isPart entries shown

/-- The form of a datum holds as much as the datum does, at every depth, if and only if no dict in
the datum has two keys of one text. -/
theorem jsonSafe_keeps_iff (d : Datum) : Keeps d d.jsonSafe ↔
    ∀ entries, Shown d (.dict entries) → (entries.map fun entry => plain entry.1).Nodup := by
  change _ ↔ TextsApart d
  induction d using byParts with
  | leaf d leaf =>
    refine iff_of_true (.leaf leaf) fun entries shown => ?_
    cases shown with
    | itself => cases leaf
    | inside isPart _ => cases isPart <;> cases leaf
  | container d container parts =>
    rw [textsApart_iff]
    have inside : (∀ part, Part d part → Keeps part part.jsonSafe) ↔
        ∀ part, Part d part → TextsApart part :=
      forall₂_congr parts
    rw [← inside]
    cases inOrder : d.itemsInOrder? with
    | some items =>
      rw [keeps_items_iff inOrder]
      refine (and_iff_right ?_).symm
      rintro entries rfl
      cases inOrder
    | none =>
      cases d with
      | dict entries =>
        rw [keeps_dict_iff]
        refine and_congr_left' ⟨?_, fun apart => apart entries rfl⟩
        rintro apart _ ⟨⟩
        exact apart
      | list | tuple | set => cases inOrder
      | _ => cases container

/-- A dict with a number and its text as keys. It loses an entry. -/
def oneText : Datum := .dict [(.int 1, .text "a"), (.text "1", .text "b")]

theorem oneText_loses_entry : ¬ Keeps oneText oneText.jsonSafe ∧
    oneText.jsonSafe = .object [(Text.ofString "1", .string (Text.ofString "b"))] := by
  refine ⟨fun keeps => ?_, rfl⟩
  exact absurd ((jsonSafe_keeps_iff oneText).mp keeps _ (.itself _)) (by decide +kernel)

end PhaseScript.Datum
