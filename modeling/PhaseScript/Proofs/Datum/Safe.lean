import PhaseScript.Envelope
import PhaseScript.Proofs.Datum.JsonText
/-
What the JSON-safe form of a datum is safe from. Its leaves are those of the data that are shown in
it, and of these only a decimal can be a number that is not finite: one with a fraction, past the
range of floating-point numbers. Without such a decimal the form can be written strictly.
-/
set_option autoImplicit false

namespace PhaseScript

namespace Json

/-- Whether no number inside a value is infinite or none at all. -/
def FloatsFinite : Json → Prop :=
  Leaves fun
    | .float x => x.isFinite = true
    | _ => True

mutual

/-- A value can be written if its leaves can. -/
theorem writeFault?_eq_none_iff {strict : Bool} : (v : Json) → (writeFault? strict v = none ↔
    Leaves (fun leaf => writeFault? strict leaf = none) v)
  | .null | .bool _ | .int _ | .float _ | .string _ => Iff.rfl
  | .array items => itemsFault?_eq_none_iff items
  | .object members => membersFault?_eq_none_iff members

theorem itemsFault?_eq_none_iff {strict : Bool} : (items : List Json) →
    (itemsFault? strict items = none ↔
      LeavesAll (fun leaf => writeFault? strict leaf = none) items)
  | [] => iff_of_true rfl trivial
  | item :: items => by
    rw [itemsFault?, Option.or_eq_none_iff, writeFault?_eq_none_iff item,
      itemsFault?_eq_none_iff items, LeavesAll]

theorem membersFault?_eq_none_iff {strict : Bool} : (members : List (Text × Json)) →
    (membersFault? strict members = none ↔
      LeavesMembers (fun leaf => writeFault? strict leaf = none) members)
  | [] => iff_of_true rfl trivial
  | (_, value) :: members => by
    rw [membersFault?, Option.or_eq_none_iff, writeFault?_eq_none_iff value,
      membersFault?_eq_none_iff members, LeavesMembers]

end

end Json

/-- A decimal with a fraction that is past the range of floating-point numbers. -/
def Decimal.Overflows (x : Decimal) : Prop :=
  x.integer? = none ∧ ∃ digits exponent, x.kind = .finite digits exponent ∧
    (Binary64.overflowBound : ℚ) ≤ Binary64.decimalValue digits exponent

namespace Datum

open Json (Leaves LeavesAll LeavesMembers)

/-- The values of a dict that count under the texts of their keys: no later key has the text. -/
inductive Counts : List (Datum × Datum) → Datum → Prop
  | here {key value : Datum} {entries : List (Datum × Datum)} :
    (∀ entry ∈ entries, plain entry.1 ≠ plain key) → Counts ((key, value) :: entries) value
  | later {entry : Datum × Datum} {value : Datum} {entries : List (Datum × Datum)} :
    Counts entries value → Counts (entry :: entries) value

/-- What a container is shown by: its items, or the values of a dict that count. -/
inductive Part : Datum → Datum → Prop
  | list {item : Datum} {items : List Datum} : item ∈ items → Part (.list items) item
  | tuple {item : Datum} {items : List Datum} : item ∈ items → Part (.tuple items) item
  | set {item : Datum} {frozen : Bool} {items : List Datum} : item ∈ items →
    Part (.set frozen items) item
  | dict {value : Datum} {entries : List (Datum × Datum)} : Counts entries value →
    Part (.dict entries) value

/-- The data that are shown in a datum: it, and what is shown in the parts of a container. -/
inductive Shown : Datum → Datum → Prop
  | itself (d : Datum) : Shown d d
  | inside {d part e : Datum} : Part d part → Shown part e → Shown d e

/-- Whether a datum is shown through what it holds. -/
def isContainer : Datum → Bool
  | .list _ | .tuple _ | .set _ _ | .dict _ => true
  | _ => false

theorem jsonSafeAll_eq_map (items : List Datum) : jsonSafeAll items = items.map jsonSafe := by
  induction items with
  | nil => rfl
  | cons item items ih => rw [jsonSafeAll, ih, List.map_cons]

theorem textsAndForms_eq_map (items : List Datum) :
    textsAndForms items = items.map fun item => (plain item, jsonSafe item) := by
  induction items with
  | nil => rfl
  | cons item items ih => rw [textsAndForms, ih, List.map_cons]

/-- The members of an object that is made of a dict: those that were there under other names, and
the values that count. -/
theorem mem_jsonSafeEntries_iff (entries : List (Datum × Datum)) (members : List (Text × Json))
    (distinct : (members.map (·.1)).Nodup) (v : Json) :
    (∃ name, (name, v) ∈ jsonSafeEntries entries members) ↔
      (∃ name, (name, v) ∈ members ∧ ∀ entry ∈ entries, plain entry.1 ≠ name) ∨
      ∃ value, Counts entries value ∧ v = jsonSafe value := by
  induction entries generalizing members with
  | nil =>
    refine ⟨fun ⟨name, among⟩ => .inl ⟨name, among, nofun⟩, ?_⟩
    rintro (⟨name, among, -⟩ | ⟨value, ⟨⟩, -⟩)
    exact ⟨name, among⟩
  | cons entry entries ih =>
    obtain ⟨key, value⟩ := entry
    have among (name : Text) := Table.mem_put_iff members distinct (plain key) (jsonSafe value)
      (name, v)
    have distinct' := Table.nodup_put members (plain key) (jsonSafe value) distinct
    rw [← Json.put_eq_put] at distinct'
    rw [jsonSafeEntries, ih _ distinct']
    simp only [Json.put_eq_put, among, Prod.mk.injEq, List.forall_mem_cons]
    constructor
    · rintro (⟨name, ⟨rfl, rfl⟩ | ⟨inside, other⟩, apart⟩ | ⟨value', counts, rfl⟩)
      · exact .inr ⟨value, .here apart, rfl⟩
      · exact .inl ⟨name, inside, other.symm, apart⟩
      · exact .inr ⟨value', .later counts, rfl⟩
    · rintro (⟨name, inside, other, apart⟩ | ⟨value', counts, rfl⟩)
      · exact .inl ⟨name, .inr ⟨inside, other.symm⟩, apart⟩
      · cases counts with
        | here apart => exact .inl ⟨plain key, .inl ⟨rfl, rfl⟩, apart⟩
        | later counts => exact .inr ⟨value', counts, rfl⟩

theorem nodup_jsonSafeEntries (entries : List (Datum × Datum)) (members : List (Text × Json))
    (distinct : (members.map (·.1)).Nodup) :
    ((jsonSafeEntries entries members).map (·.1)).Nodup := by
  induction entries generalizing members with
  | nil => exact distinct
  | cons entry entries ih =>
    refine ih _ ?_
    rw [Json.put_eq_put]
    exact Table.nodup_put members _ _ distinct

/-- The form of a container is an array or an object of distinct names, and what it holds are the
forms of the container's parts. -/
theorem jsonSafe_container {d : Datum} (container : d.isContainer = true) :
    (∃ items, d.jsonSafe = .array items ∧
      ∀ v, v ∈ items ↔ ∃ part, Part d part ∧ part.jsonSafe = v) ∨
    ∃ members, d.jsonSafe = .object members ∧ (members.map (·.1)).Nodup ∧
      ∀ v, (∃ name, (name, v) ∈ members) ↔ ∃ part, Part d part ∧ part.jsonSafe = v := by
  cases d with
  | list items =>
    refine .inl ⟨_, jsonSafe.eq_def _, fun v => ?_⟩
    rw [jsonSafeAll_eq_map, List.mem_map]
    exact exists_congr fun item => and_congr_left' ⟨.list, fun (.list among) => among⟩
  | tuple items =>
    refine .inl ⟨_, jsonSafe.eq_def _, fun v => ?_⟩
    rw [jsonSafeAll_eq_map, List.mem_map]
    exact exists_congr fun item => and_congr_left' ⟨.tuple, fun (.tuple among) => among⟩
  | set frozen items =>
    refine .inl ⟨_, jsonSafe.eq_def _, fun v => ?_⟩
    simp only [textsAndForms_eq_map, List.mem_map, List.mem_mergeSort, exists_exists_and_eq_and]
    exact exists_congr fun item => and_congr_left' ⟨.set, fun (.set among) => among⟩
  | dict entries =>
    refine .inr ⟨_, jsonSafe.eq_def _, nodup_jsonSafeEntries entries [] List.nodup_nil, fun v => ?_⟩
    rw [mem_jsonSafeEntries_iff entries [] List.nodup_nil]
    constructor
    · rintro (⟨_, ⟨⟩, _⟩ | ⟨value, counts, rfl⟩)
      exact ⟨value, .dict counts, rfl⟩
    · exact fun ⟨_, .dict counts, same⟩ => .inr ⟨_, counts, same.symm⟩
  | _ => cases container

/-- The leaves of a container's form are those of the forms of its parts. -/
theorem leaves_container (kind : Json → Prop) {d : Datum} (container : d.isContainer = true) :
    Leaves kind d.jsonSafe ↔ ∀ part, Part d part → Leaves kind part.jsonSafe := by
  obtain ⟨items, form, held⟩ | ⟨members, form, -, held⟩ := jsonSafe_container container
  · rw [form, Leaves, Json.leavesAll_iff]
    simp only [held]
    exact ⟨fun all part isPart => all _ ⟨part, isPart, rfl⟩,
      fun all _ ⟨part, isPart, same⟩ => same ▸ all part isPart⟩
  · rw [form, Leaves, Json.leavesMembers_iff]
    constructor
    · intro all part isPart
      obtain ⟨name, among⟩ := (held _).mpr ⟨part, isPart, rfl⟩
      exact all _ among
    · rintro all ⟨name, v⟩ among
      obtain ⟨part, isPart, rfl⟩ := (held v).mp ⟨name, among⟩
      exact all part isPart

/-- The leaves of a form are those of the data that are shown without holding others. -/
abbrev LeavesAsShown (kind : Json → Prop) (d : Datum) : Prop :=
  Leaves kind d.jsonSafe ↔ ∀ e, Shown d e → e.isContainer = false → Leaves kind e.jsonSafe

theorem leavesAsShown_container {kind : Json → Prop} {d : Datum} (container : d.isContainer = true)
    (parts : ∀ part, Part d part → LeavesAsShown kind part) : LeavesAsShown kind d := by
  rw [LeavesAsShown, leaves_container kind container]
  constructor
  · intro all e shown leaf
    cases shown with
    | itself => cases container.symm.trans leaf
    | inside isPart shown => exact (parts _ isPart).mp (all _ isPart) e shown leaf
  · intro all part isPart
    exact (parts part isPart).mpr fun e shown leaf => all e (.inside isPart shown) leaf

theorem leavesAsShown_leaf {kind : Json → Prop} {d : Datum} (leaf : d.isContainer = false) :
    LeavesAsShown kind d := by
  refine ⟨fun holds e shown _ => ?_, fun all => all d (.itself d) leaf⟩
  cases shown with
  | itself => exact holds
  | inside isPart _ => cases isPart <;> cases leaf

theorem mem_of_counts {entries : List (Datum × Datum)} {value : Datum}
    (counts : Counts entries value) : ∃ key, (key, value) ∈ entries := by
  induction counts with
  | here _ => exact ⟨_, List.mem_cons_self⟩
  | later _ ih => exact ih.imp fun _ among => List.mem_cons_of_mem _ among

theorem Part.sizeOf_lt {d part : Datum} (isPart : Part d part) : sizeOf part < sizeOf d := by
  cases isPart with
  | list among | tuple among | set among =>
    have := List.sizeOf_lt_of_mem among
    simp only [list.sizeOf_spec, tuple.sizeOf_spec, set.sizeOf_spec]
    omega
  | dict counts =>
    obtain ⟨key, among⟩ := mem_of_counts counts
    have := List.sizeOf_lt_of_mem among
    simp only [Prod.mk.sizeOf_spec, dict.sizeOf_spec] at this ⊢
    omega

/-- What holds of the data that hold no others, and of a container if it holds of its parts, holds
of all data. -/
theorem byParts {motive : Datum → Prop} (leaf : ∀ d, d.isContainer = false → motive d)
    (container : ∀ d, d.isContainer = true → (∀ part, Part d part → motive part) → motive d)
    (d : Datum) : motive d := by
  cases isContainer : d.isContainer with
  | false => exact leaf d isContainer
  | true => exact container d isContainer fun part isPart => byParts leaf container part
termination_by sizeOf d
decreasing_by exact isPart.sizeOf_lt

theorem leavesAsShown (kind : Json → Prop) (d : Datum) : LeavesAsShown kind d :=
  byParts (fun _ leaf => leavesAsShown_leaf leaf)
    (fun _ container parts => leavesAsShown_container container parts) d

theorem isNaN_toBinary64 {x : Decimal} (finite : ¬ (!x.isFinite) = true) :
    x.toBinary64.isNaN = false := by
  unfold Decimal.toBinary64
  cases isKind : x.kind with
  | finite digits exponent => exact Binary64.isNaN_ofDecimal _ _ _
  | infinite => exact Binary64.isNaN_ofParts _ _ le_rfl
  | nan =>
    rw [Decimal.isFinite, isKind] at finite
    exact absurd rfl finite

/-- No leaf of a form is the number that is none, so a form that can be written is told by its text.
-/
theorem legible_leaf {e : Datum} (leaf : e.isContainer = false)
    (written : Leaves (fun leaf => Json.writeFault? false leaf = Option.none) e.jsonSafe) :
    Json.Legible e.jsonSafe := by
  cases e with
  | list | tuple | set | dict => cases leaf
  | int n => exact Json.few_of_written n written
  | float x =>
    rw [jsonSafe]
    split
    · next finite => exact Binary64.isNaN_of_isFinite finite
    · trivial
  | duration x => exact Binary64.isNaN_ofRatio _ _ _
  | week year number weekday =>
    exact ⟨Json.few_of_written _ written.1, Json.few_of_written _ written.2.1,
      Json.few_of_written _ written.2.2.1, trivial⟩
  | decimal x =>
    revert written
    rw [jsonSafe]
    split
    · exact fun _ => trivial
    · next finite =>
      split
      · exact Json.few_of_written _
      · exact fun _ => isNaN_toBinary64 finite
  | none | bool | text | bytes | complex | date | clock | moment | uuid | exception | promise |
    response | thing | object | coroutine | awaitable | stub | builtin | cycle => trivial

theorem legible_jsonSafe {d : Datum} (written : Json.writeFault? false d.jsonSafe = Option.none) :
    Json.Legible d.jsonSafe := by
  have written := (leavesAsShown _ d).mp ((Json.writeFault?_eq_none_iff _).mp written)
  exact (leavesAsShown _ d).mpr fun e shown leaf => legible_leaf leaf (written e shown leaf)

/-- A form that can be written is one that a reader accepts: as a later entry of a dict replaces one
of the same name, the names of its objects are distinct. -/
theorem limited_jsonSafe (d : Datum) (written : Json.writeFault? false d.jsonSafe = Option.none) :
    Json.Limited d.jsonSafe := by
  rw [Json.writeFault?_eq_none_iff] at written
  induction d using byParts with
  | leaf d leaf =>
    cases d with
    | list | tuple | set | dict => cases leaf
    | int n => exact Json.few_of_written n written
    | week year number weekday =>
      exact ⟨Json.few_of_written _ written.1, Json.few_of_written _ written.2.1,
        Json.few_of_written _ written.2.2.1, trivial⟩
    | float x =>
      rw [jsonSafe]
      split <;> trivial
    | decimal x =>
      revert written
      rw [jsonSafe]
      split
      · exact fun _ => trivial
      · split
        · exact Json.few_of_written _
        · exact fun _ => trivial
    | none | bool | text | bytes | complex | date | clock | moment | duration | uuid | exception |
      promise | response | thing | object | coroutine | awaitable | stub | builtin | cycle =>
      trivial
  | container d container parts =>
    have each (part : Datum) (isPart : Part d part) : Json.Limited part.jsonSafe :=
      parts part isPart ((leaves_container _ container).mp written part isPart)
    obtain ⟨items, form, held⟩ | ⟨members, form, distinct, held⟩ := jsonSafe_container container
    · rw [form, Json.Limited, Json.limitedAll_iff]
      intro v among
      obtain ⟨part, isPart, rfl⟩ := (held v).mp among
      exact each part isPart
    · rw [form, Json.Limited, Json.limitedMembers_iff]
      refine ⟨?_, distinct⟩
      rintro ⟨name, v⟩ among
      obtain ⟨part, isPart, rfl⟩ := (held v).mp ⟨name, among⟩
      exact each part isPart

/-- Data as they are found in practice: nothing holds itself, no integer is too long to be written,
the dates and durations are those that can be, and neither does a decimal stand for an integer that
is too long. -/
structure Usual (d : Datum) : Prop where
  acyclic : d.hasCycle = false
  integers : d.hasHugeInt = false
  decimals : ∀ x n, Shown d (.decimal x) → x.integer? = some n → Json.tooManyDigits n = false
  durations : ∀ x, Shown d (.duration x) → x.inRange = true
  weeks : ∀ year number weekday, Shown d (.week year number weekday) →
    Json.tooManyDigits year = false ∧ Json.tooManyDigits number = false ∧
      Json.tooManyDigits weekday = false

theorem anyHuge_eq_false {items : List Datum} (few : anyHuge items = false) :
    ∀ item ∈ items, item.hasHugeInt = false := by
  induction items with
  | nil => nofun
  | cons item items ih =>
    rw [anyHuge, Bool.or_eq_false_iff] at few
    exact List.forall_mem_cons.mpr ⟨few.1, ih few.2⟩

theorem anyHugeEntry_eq_false {entries : List (Datum × Datum)}
    (few : anyHugeEntry entries = false) :
    ∀ entry ∈ entries, entry.2.hasHugeInt = false := by
  induction entries with
  | nil => nofun
  | cons entry entries ih =>
    obtain ⟨key, value⟩ := entry
    rw [anyHugeEntry, Bool.or_eq_false_iff, Bool.or_eq_false_iff] at few
    exact List.forall_mem_cons.mpr ⟨few.1.2, ih few.2⟩

theorem Shown.hasHugeInt_eq_false {d e : Datum} (shown : Shown d e) (few : d.hasHugeInt = false) :
    e.hasHugeInt = false := by
  induction shown with
  | itself => exact few
  | inside isPart _ ih =>
    refine ih ?_
    cases isPart with
    | list among | tuple among | set among => exact anyHuge_eq_false few _ among
    | dict counts =>
      obtain ⟨key, among⟩ := mem_of_counts counts
      exact anyHugeEntry_eq_false few _ among

/-- A duration that can be is told in a finite number of seconds. -/
theorem totalSeconds_isFinite {x : Duration} (inRange : x.inRange = true) :
    x.totalSeconds.isFinite = true := by
  rw [Duration.inRange, Bool.and_eq_true, decide_eq_true_eq, decide_eq_true_eq] at inRange
  have days := Int.mul_fdiv_add_fmod x.micros Duration.microsPerDay
  have rest := Int.fmod_lt_of_pos x.micros (show 0 < Duration.microsPerDay by decide)
  have rest' := Int.fmod_nonneg_of_pos x.micros (show 0 < Duration.microsPerDay by decide)
  have few : x.micros.natAbs < 2 ^ 70 * 1000000 := by
    change Duration.microsPerDay * x.days + _ = _ at days
    unfold Duration.microsPerDay at *
    omega
  by_cases zero : x.micros.natAbs = 0
  · rw [Duration.totalSeconds, zero]
    exact (Binary64.isFinite_ofParts_iff _ 0 (Nat.zero_le _)).mpr (by norm_num)
  · refine (Binary64.ofRatio_isFinite_iff _ _ _ (Nat.pos_of_ne_zero zero) (by norm_num)).mpr ?_
    exact few.trans_le (Nat.mul_le_mul_right _ (Binary64.two_pow_le_overflowBound 70 (by norm_num)))

/-- What strict writing asks of the leaves of values whose integers are not too long. -/
structure Strict (kind : Json → Prop) : Prop where
  null : kind .null
  bool : ∀ b, kind (.bool b)
  string : ∀ t, kind (.string t)
  int : ∀ n, Json.tooManyDigits n = false → kind (.int n)
  float : ∀ x, kind (.float x) ↔ x.isFinite = true

theorem strict_floats : Strict fun
    | .float x => x.isFinite = true
    | _ => True where
  null := trivial
  bool _ := trivial
  string _ := trivial
  int _ _ := trivial
  float _ := Iff.rfl

theorem strict_written : Strict fun leaf => Json.writeFault? true leaf = Option.none where
  null := rfl
  bool _ := rfl
  string _ := rfl
  int n few := by rw [Json.writeFault?, few, if_neg Bool.false_ne_true]
  float x := by
    rw [Json.writeFault?]
    cases x.isFinite <;> simp

/-- A finite decimal with a fraction is read as a finite number unless it is past the range. -/
theorem toBinary64_isFinite_iff {x : Decimal} (finite : ¬ (!x.isFinite) = true)
    (part : x.integer? = Option.none) : x.toBinary64.isFinite = true ↔ ¬ x.Overflows := by
  unfold Decimal.toBinary64 Decimal.Overflows
  cases isKind : x.kind with
  | finite digits exponent =>
    dsimp only
    rw [Binary64.ofDecimal_isFinite_iff, ← not_le]
    refine not_congr ⟨fun past => ⟨part, digits, exponent, rfl, past⟩, ?_⟩
    rintro ⟨-, _, _, ⟨⟩, past⟩
    exact past
  | infinite | nan =>
    rw [Decimal.isFinite, isKind] at finite
    exact absurd rfl finite

theorem leaves_leaf {kind : Json → Prop} (strict : Strict kind) {d e : Datum} (usual : Usual d)
    (shown : Shown d e) (leaf : e.isContainer = false) (other : ¬ ∃ x, e = .decimal x) :
    Leaves kind e.jsonSafe := by
  have few := shown.hasHugeInt_eq_false usual.integers
  cases e with
  | list | tuple | set | dict => cases leaf
  | none => exact strict.null
  | bool b => exact strict.bool b
  | int n => exact strict.int n few
  | float x =>
    rw [jsonSafe]
    split
    · next finite => exact (strict.float x).mpr finite
    · exact strict.null
  | duration x => exact (strict.float _).mpr (totalSeconds_isFinite (usual.durations x shown))
  | week year number weekday =>
    obtain ⟨a, b, c⟩ := usual.weeks year number weekday shown
    exact ⟨strict.int _ a, strict.int _ b, strict.int _ c, trivial⟩
  | decimal x => exact absurd ⟨x, rfl⟩ other
  | text | bytes | complex | date | clock | moment | uuid | exception | promise | response | thing |
    object | coroutine | awaitable | stub | builtin | cycle => exact strict.string _

theorem leaves_decimal_iff {kind : Json → Prop} (strict : Strict kind) {d : Datum}
    (usual : Usual d) {x : Decimal} (shown : Shown d (.decimal x)) :
    Leaves kind (decimal x).jsonSafe ↔ ¬ x.Overflows := by
  rw [jsonSafe]
  split
  · next infinite =>
    refine iff_of_true strict.null fun overflows => ?_
    obtain ⟨_, digits, exponent, isKind, _⟩ := overflows
    rw [Decimal.isFinite, isKind] at infinite
    cases infinite
  · next finite =>
    split
    · next n whole =>
      refine iff_of_true (strict.int n (usual.decimals x n shown whole)) fun overflows => ?_
      cases whole.symm.trans overflows.1
    · next part => exact (strict.float _).trans (toBinary64_isFinite_iff finite part)

/-- Of the data that hold no others, only a decimal may have a form that is not safe. -/
theorem leaves_leaf_iff {kind : Json → Prop} (strict : Strict kind) {d e : Datum} (usual : Usual d)
    (shown : Shown d e) (leaf : e.isContainer = false) :
    Leaves kind e.jsonSafe ↔ ∀ x, e = .decimal x → ¬ x.Overflows := by
  by_cases isDecimal : ∃ x, e = .decimal x
  · obtain ⟨x, rfl⟩ := isDecimal
    refine (leaves_decimal_iff strict usual shown).trans
      ⟨fun not y same => ?_, fun all => all x rfl⟩
    exact Datum.decimal.inj same ▸ not
  · exact iff_of_true (leaves_leaf strict usual shown leaf isDecimal) fun x same =>
      absurd ⟨x, same⟩ isDecimal

/-- The form of usual data is safe, and can be written, exactly where no decimal with a fraction is
shown that is past the range of floating-point numbers; an envelope can be made of it where it is
not too deep either. -/
theorem jsonSafe_is_safe_iff (d : Datum) (usual : Usual d) :
    let safe := ∀ x, Shown d (.decimal x) → ¬ x.Overflows
    (d.jsonSafe.FloatsFinite ↔ safe) ∧ ((∃ t, d.dumps = .ok t) ↔ safe) ∧
      ((∃ t, d.toEnvelope = .ok t) ↔ safe ∧ 2 * d.depth ≤ depthLimit) := by
  intro safe
  have leaves {kind : Json → Prop} (strict : Strict kind) : Leaves kind d.jsonSafe ↔ safe := by
    rw [show Leaves kind d.jsonSafe ↔ _ from leavesAsShown kind d]
    constructor
    · intro all x shown
      exact (leaves_leaf_iff strict usual shown rfl).mp (all _ shown rfl) x rfl
    · intro all e shown leaf
      exact (leaves_leaf_iff strict usual shown leaf).mpr fun x same => all x (same ▸ shown)
  have written : (∃ t, d.dumps = .ok t) ↔ safe := by
    rw [dumps, usual.integers, if_neg Bool.false_ne_true, Json.write, ← leaves strict_written,
      ← Json.writeFault?_eq_none_iff]
    split
    · next fault isFault => exact iff_of_false nofun (by rw [isFault]; nofun)
    · next noFault => exact iff_of_true ⟨_, rfl⟩ noFault
  refine ⟨leaves strict_floats, written, ?_⟩
  rw [toEnvelope, isTooDeep, usual.acyclic, Bool.false_or]
  split
  · next deep => exact iff_of_false nofun fun both => Nat.not_lt.mpr both.2 (of_decide_eq_true deep)
  · next usualDepth =>
    rw [← written]
    have shallow := Nat.le_of_not_lt (mt decide_eq_true usualDepth)
    cases told : d.dumps with
    | ok t => exact iff_of_true ⟨t, rfl⟩ ⟨⟨t, rfl⟩, shallow⟩
    | error fault => exact iff_of_false nofun fun both => nomatch both.1

/-- A decimal with a fraction, past the range of floating-point numbers. -/
def vast : Decimal := ⟨false, .finite (10 ^ 401 + 5) (-1)⟩

theorem vast_overflows : vast.Overflows := by
  have part : vast.integer? = Option.none := by decide +kernel
  have infinite : (Binary64.ofDecimal false (10 ^ 401 + 5) (-1)).isFinite = false := by
    decide +kernel
  refine ⟨part, 10 ^ 401 + 5, -1, rfl, not_lt.mp fun below => ?_⟩
  rw [(Binary64.ofDecimal_isFinite_iff _ _ _).mpr below] at infinite
  cases infinite

theorem usual_vast : Usual (.decimal vast) := by
  have only {e : Datum} (shown : Shown (.decimal vast) e) : e = .decimal vast := by
    cases shown with
    | itself => rfl
    | inside isPart _ => cases isPart
  refine ⟨rfl, rfl, fun x n shown whole => ?_, fun x shown => ?_, fun _ _ _ shown => ?_⟩
  · rw [Datum.decimal.inj (only shown), vast_overflows.1] at whole
    cases whole
  · cases only shown
  · cases only shown

/-- Its form is an infinite number, which cannot be written. -/
theorem vast_is_not_safe : Usual (.decimal vast) ∧ ¬ (Datum.decimal vast).jsonSafe.FloatsFinite ∧
    ¬ (∃ t, (Datum.decimal vast).dumps = .ok t) ∧
    ¬ ∃ t, (Datum.decimal vast).toEnvelope = .ok t := by
  obtain ⟨form, written, told⟩ := jsonSafe_is_safe_iff (.decimal vast) usual_vast
  have unsafe_ : ¬ ∀ x, Shown (.decimal vast) (.decimal x) → ¬ x.Overflows := fun all =>
    all vast (.itself _) vast_overflows
  exact ⟨usual_vast, mt form.mp unsafe_, mt written.mp unsafe_, fun envelope =>
    unsafe_ (told.mp envelope).1⟩

end Datum

end PhaseScript
