import Mathlib.Data.List.Nodup
import PhaseScript.Text.Basic
/-
Tables from texts to values, in the order in which their keys were first put. The members of an
object, the entries of a database and a store whose keys are texts are such tables.
-/
set_option autoImplicit false

namespace PhaseScript

/-- A table; each key comes once. -/
abbrev Table (V : Type) := List (Text × V)

namespace Table

variable {V : Type}

def keys (table : Table V) : List Text := table.map (·.1)

/-- The value under a key. -/
def lookup (table : Table V) (key : Text) : Option V :=
    (table.find? fun entry => entry.1 == key).map (·.2)

/-- Puts a value under a key: in its place if the key is there, else last. -/
def put (key : Text) (value : V) : Table V → Table V
  | [] => [(key, value)]
  | (k, v) :: rest => if k == key then (k, value) :: rest else (k, v) :: put key value rest

def erase (table : Table V) (key : Text) : Table V := table.filter fun entry => !(entry.1 == key)

theorem lookup_nil (key : Text) : lookup ([] : Table V) key = none := rfl

theorem lookup_cons (k : Text) (v : V) (rest : Table V) (key : Text) :
    lookup ((k, v) :: rest) key = if k == key then some v else lookup rest key := by
  rw [lookup, List.find?_cons]
  cases k == key <;> rfl

theorem lookup_put (table : Table V) (key other : Text) (value : V) :
    (table.put key value).lookup other = if key == other then some value else table.lookup
    other := by
  induction table with
  | nil => rw [put, lookup_cons]
  | cons entry rest ih =>
    obtain ⟨k, v⟩ := entry
    by_cases same : (k == key) = true
    · rw [put, if_pos same, lookup_cons, lookup_cons, beq_iff_eq.mp same]
      split <;> rfl
    · rw [put, if_neg same, lookup_cons, lookup_cons, ih]
      by_cases here : (k == other) = true
      · have apart : ¬ (key == other) = true := by
          rw [beq_iff_eq] at same here ⊢
          exact fun equal => same (here.trans equal.symm)
        rw [if_pos here, if_neg apart, if_pos here]
      · rw [if_neg here, if_neg here]

/-- A put leaves the table as it is exactly if the value is there. -/
theorem put_eq_self_iff (table : Table V) (key : Text) (value : V) :
    table.put key value = table ↔ table.lookup key = some value := by
  constructor
  · intro same
    rw [← same, lookup_put, if_pos (beq_self_eq_true key)]
  · intro found
    induction table with
    | nil => cases found
    | cons entry rest ih =>
      obtain ⟨k, v⟩ := entry
      rw [lookup_cons] at found
      rw [put]
      split at found
      · next here => rw [if_pos here, Option.some.inj found]
      · next there => rw [if_neg there, ih found]

theorem lookup_filter (table : Table V) (keep : Text → Bool) (key : Text) :
    lookup (table.filter fun entry => keep entry.1) key =
    if keep key then table.lookup key else none := by
  induction table with
  | nil =>
    rw [List.filter_nil, lookup_nil]
    split <;> rfl
  | cons entry rest ih =>
    obtain ⟨k, v⟩ := entry
    rw [List.filter_cons, lookup_cons]
    by_cases here : (k == key) = true
    · rw [beq_iff_eq.mp here]
      by_cases kept : keep key = true
      · rw [if_pos kept, lookup_cons, if_pos (beq_self_eq_true key), if_pos kept]
        rw [if_pos (beq_self_eq_true key)]
      · rw [if_neg kept, ih, if_neg kept, if_neg kept]
    · rw [if_neg here]
      by_cases kept : keep k = true
      · rw [if_pos kept, lookup_cons, if_neg here, ih]
      · rw [if_neg kept, ih]

theorem lookup_erase (table : Table V) (key other : Text) :
    (table.erase key).lookup other = if key == other then none else table.lookup other := by
  rw [erase, lookup_filter table fun name => !(name == key), BEq.comm]
  cases key == other <;> rfl

/-- Of the entries with some keys, a value that is put changes those only if its key is one of them.
-/
theorem filter_put (table : Table V) (keep : Text → Bool) (key : Text) (value : V) :
    (table.put key value).filter (fun entry => keep entry.1) =
      if keep key then put key value (table.filter fun entry => keep entry.1)
      else table.filter fun entry => keep entry.1 := by
  induction table with
  | nil => rw [put, List.filter_nil, List.filter_cons, List.filter_nil, put]
  | cons entry rest ih =>
    obtain ⟨k, v⟩ := entry
    by_cases here : (k == key) = true
    · obtain rfl := beq_iff_eq.mp here
      rw [put, if_pos here, List.filter_cons, List.filter_cons]
      by_cases kept : keep k = true
      · rw [if_pos kept, if_pos kept, if_pos kept, put, if_pos here]
      · rw [if_neg kept, if_neg kept, if_neg kept]
    · rw [put, if_neg here, List.filter_cons, List.filter_cons, ih]
      by_cases kept : keep key = true
      · rw [if_pos kept, if_pos kept]
        split
        · rw [put, if_neg here]
        · rfl
      · rw [if_neg kept, if_neg kept]

/-- A key that has a value is there. -/
theorem lookup_isSome (table : Table V) (key : Text) : (table.lookup key).isSome = true ↔
    key ∈ table.keys := by
  induction table with
  | nil => simp [lookup_nil, keys]
  | cons entry rest ih =>
    obtain ⟨k, v⟩ := entry
    rw [lookup_cons, keys, List.map_cons, List.mem_cons, ← keys, ← ih]
    by_cases here : k = key
    · simp [here]
    · have apart : ¬ key = k := fun equal => here equal.symm
      simp [here, apart]

theorem lookup_eq_none_iff (table : Table V) (key : Text) :
    table.lookup key = none ↔ key ∉ table.keys := by
  rw [← lookup_isSome, Bool.not_eq_true, Option.isSome_eq_false_iff, Option.isNone_iff_eq_none]

theorem mem_of_lookup (table : Table V) (key : Text) (value : V)
    (found : table.lookup key = some value) :
    (key, value) ∈ table := by
  induction table with
  | nil => cases found
  | cons entry rest ih =>
    obtain ⟨k, v⟩ := entry
    rw [lookup_cons] at found
    by_cases here : (k == key) = true
    · rw [if_pos here] at found
      rw [beq_iff_eq.mp here, Option.some.inj found]
      exact List.mem_cons_self
    · rw [if_neg here] at found
      exact List.mem_cons_of_mem _ (ih found)

/-- An entry is found under its key. -/
theorem lookup_of_mem (table : Table V) (distinct : table.keys.Nodup) (key : Text) (value : V)
    (among : (key, value) ∈ table) : table.lookup key = some value := by
  induction table with
  | nil => cases among
  | cons entry rest ih =>
    obtain ⟨k, v⟩ := entry
    rw [keys, List.map_cons, List.nodup_cons] at distinct
    rw [lookup_cons]
    rcases List.mem_cons.mp among with here | there
    · obtain ⟨rfl, rfl⟩ := Prod.mk.inj here
      rw [if_pos (beq_self_eq_true key)]
    · have apart : ¬ (k == key) = true := by
        rw [beq_iff_eq]
        rintro rfl
        exact distinct.1 (List.mem_map.mpr ⟨_, there, rfl⟩)
      rw [if_neg apart]
      exact ih distinct.2 there

theorem keys_put (table : Table V) (key : Text) (value : V) :
    (table.put key value).keys = if table.keys.contains key then table.keys else table.keys ++
    [key] := by
  induction table with
  | nil => rfl
  | cons entry rest ih =>
    obtain ⟨k, v⟩ := entry
    unfold keys at ih ⊢
    by_cases same : k = key
    · simp [put, same]
    · have other : (key == k) = false := beq_eq_false_iff_ne.mpr fun equal => same equal.symm
      rw [put, if_neg (by simpa using same), List.map_cons, ih, List.map_cons, List.contains_cons,
        other, Bool.false_or]
      split <;> rfl

theorem nodup_put (table : Table V) (key : Text) (value : V) (distinct : table.keys.Nodup) :
    (table.put key value).keys.Nodup := by
  rw [keys_put]
  split
  · exact distinct
  · next new =>
    rw [← List.concat_eq_append]
    exact distinct.concat fun among => new (List.contains_iff_mem.mpr among)

theorem nodup_filter (table : Table V) (keep : Text × V → Bool) (distinct : table.keys.Nodup) :
    keys (table.filter keep) |>.Nodup :=
  distinct.sublist ((List.filter_sublist (p := keep)).map _)

theorem put_of_new (table : Table V) (key : Text) (value : V) (new : key ∉ table.keys) :
    table.put key value = table ++ [(key, value)] := by
  induction table with
  | nil => rfl
  | cons entry rest ih =>
    obtain ⟨k, v⟩ := entry
    rw [keys, List.map_cons, List.mem_cons, not_or] at new
    rw [put, if_neg (by simpa using fun equal => new.1 equal.symm), ih new.2, List.cons_append]

/-- What is there after a value was put is that value or was there before. -/
theorem mem_put (table : Table V) (key : Text) (value : V) (entry : Text × V)
    (among : entry ∈ table.put key value) :
    entry = (key, value) ∨ entry ∈ table := by
  induction table with
  | nil => exact Or.inl (List.mem_singleton.mp among)
  | cons first rest ih =>
    obtain ⟨k, v⟩ := first
    rw [put] at among
    split at among
    · next same =>
      rcases List.mem_cons.mp among with here | there
      · exact Or.inl (by rw [here, beq_iff_eq.mp same])
      · exact Or.inr (List.mem_cons_of_mem _ there)
    · rcases List.mem_cons.mp among with here | there
      · exact Or.inr (here ▸ List.mem_cons_self)
      · exact (ih there).imp_right (List.mem_cons_of_mem _)

/-- In a table the entries of a put are the new one and those under other keys. -/
theorem mem_put_iff (table : Table V) (distinct : table.keys.Nodup) (key : Text) (value : V)
    (entry : Text × V) :
    entry ∈ table.put key value ↔ entry = (key, value) ∨ (entry ∈ table ∧ entry.1 ≠ key) := by
  induction table with
  | nil =>
    rw [put, List.mem_singleton]
    exact ⟨.inl, fun found => found.resolve_right fun inside => nomatch inside.1⟩
  | cons first rest ih =>
    obtain ⟨k, v⟩ := first
    obtain ⟨new, distinct'⟩ := List.nodup_cons.mp distinct
    have apart (entry : Text × V) (inside : entry ∈ rest) : entry.1 ≠ k := fun same =>
      new (List.mem_map.mpr ⟨entry, inside, same⟩)
    rw [put]
    split
    · next same =>
      obtain rfl := beq_iff_eq.mp same
      constructor
      · intro among
        rcases List.mem_cons.mp among with rfl | inside
        · exact .inl rfl
        · exact .inr ⟨List.mem_cons_of_mem _ inside, apart entry inside⟩
      · rintro (rfl | ⟨among, other⟩)
        · exact List.mem_cons_self
        · rcases List.mem_cons.mp among with rfl | inside
          · exact absurd rfl other
          · exact List.mem_cons_of_mem _ inside
    · next differs =>
      rw [List.mem_cons, List.mem_cons, ih distinct']
      constructor
      · rintro (rfl | rfl | ⟨inside, other⟩)
        · exact .inr ⟨.inl rfl, mt beq_iff_eq.mpr differs⟩
        · exact .inl rfl
        · exact .inr ⟨.inr inside, other⟩
      · rintro (rfl | ⟨rfl | inside, other⟩)
        · exact .inr (.inl rfl)
        · exact .inl rfl
        · exact .inr (.inr ⟨inside, other⟩)

/-- What holds of a value and of those before holds of all that are kept. -/
theorem forall_put (holds : V → Prop) (table : Table V) (key : Text) (value : V) (new : holds value)
    (old : ∀ entry ∈ table, holds entry.2) : ∀ entry ∈ table.put key value, holds entry.2 := by
  intro entry among
  rcases mem_put table key value entry among with rfl | there
  · exact new
  · exact old entry there

/-- A value is put in the place of its key, or last. -/
theorem put_eq_modify (table : Table V) (key : Text) (value : V) :
    table.put key value = match table.findIdx? fun entry => entry.1 == key with
      | some place => table.modify place fun entry => (entry.1, value)
      | none => table ++ [(key, value)] := by
  induction table with
  | nil => rfl
  | cons entry rest ih =>
    obtain ⟨k, v⟩ := entry
    rw [put, List.findIdx?_cons]
    by_cases here : (k == key) = true
    · rw [if_pos here, if_pos here]
      rfl
    · rw [if_neg here, if_neg here, ih]
      cases rest.findIdx? fun entry => entry.1 == key <;> rfl

/-- Nothing is deleted under a key that is not there. -/
theorem erase_of_new (table : Table V) (key : Text) (new : key ∉ table.keys) :
    table.erase key = table := by
  refine List.filter_eq_self.mpr fun entry among => ?_
  rw [Bool.not_eq_true', beq_eq_false_iff_ne]
  rintro rfl
  exact new (List.mem_map.mpr ⟨entry, among, rfl⟩)

/-- What is deleted is the one entry under the key. -/
theorem eraseP_eq_erase (table : Table V) (distinct : table.keys.Nodup) (key : Text) :
    table.eraseP (fun entry => entry.1 == key) = table.erase key := by
  induction table with
  | nil => rfl
  | cons entry rest ih =>
    obtain ⟨k, v⟩ := entry
    obtain ⟨new, distinct⟩ := List.nodup_cons.mp distinct
    rw [List.eraseP_cons, erase, List.filter_cons]
    by_cases here : (k == key) = true
    · obtain rfl := beq_iff_eq.mp here
      rw [here, cond_true, if_neg (by simp)]
      exact (erase_of_new rest k new).symm
    · rw [Bool.not_eq_true] at here
      rw [here, cond_false, if_pos Bool.not_false, ih distinct, erase]

theorem findIdx?_eq_none_iff (table : Table V) (key : Text) :
    (table.findIdx? fun entry => entry.1 == key) = none ↔ key ∉ table.keys := by
  rw [List.findIdx?_eq_none_iff, keys, List.mem_map, not_exists]
  simp only [beq_eq_false_iff_ne, not_and]

end Table

end PhaseScript
