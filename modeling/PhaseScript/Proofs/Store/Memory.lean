import PhaseScript.Proofs.Table
import PhaseScript.Store.Memory
/-
The store in memory as a table: as long as its keys are texts, each operation is that of the table.
-/
set_option autoImplicit false

namespace PhaseScript

theorem Datum.eq_text (s t : Text) : Datum.eq (.text s) (.text t) = (s == t) := rfl

namespace MemoryStore

variable {V : Type}

/-- The store that shows a table. -/
def ofTable (shown : V → Datum) (table : Table V) : MemoryStore :=
    ⟨table.map fun entry => (.text entry.1, shown entry.2)⟩

/-- An entry of a table as a search gives it. -/
def entryOf (shown : V → Datum) (entry : Text × V) : StoreEntry := ⟨.text entry.1, shown entry.2⟩

variable (shown : V → Datum) (table : Table V)

theorem get?_ofTable (key : Text) : (ofTable shown table).get? (.text key) =
    (table.lookup key).map shown := by
  induction table with
  | nil => rfl
  | cons entry rest ih =>
    obtain ⟨k, v⟩ := entry
    unfold get? ofTable at ih ⊢
    rw [List.map_cons, List.find?_cons, Table.lookup_cons, Datum.eq_text]
    cases same : k == key with
    | true => rfl
    | false => exact ih

theorem insert_ofTable (key : Text) (value : V) :
    (ofTable shown table).insert (.text key) (shown value) =
    ofTable shown (table.put key value) := by
  have entries : Datum.putEntry (.text key) (shown value) (table.map fun entry =>
        (.text entry.1, shown entry.2)) =
      (table.put key value).map fun entry => (Datum.text entry.1, shown entry.2) := by
    induction table with
    | nil => rfl
    | cons entry rest ih =>
      obtain ⟨k, v⟩ := entry
      rw [List.map_cons, Datum.putEntry, Table.put, Datum.eq_text, ih]
      split <;> rfl
  rw [insert, ofTable, entries, ofTable]

theorem erase_ofTable (key : Text) : (ofTable shown table).erase (.text key) =
    ofTable shown (table.erase key) := by
  rw [erase, ofTable, ofTable, Table.erase, List.filter_map]
  rfl

/-- A search finds the entries of the keys that the pattern occurs in. -/
theorem search_ofTable (pattern : Pattern) (forText : pattern.isText = true) :
    search pattern (ofTable shown table).entries =
      .ok ((table.filter fun entry => pattern.occursIn entry.1).map (entryOf shown)) := by
  induction table with
  | nil => rfl
  | cons entry rest ih =>
    obtain ⟨k, v⟩ := entry
    unfold ofTable at ih ⊢
    rw [List.map_cons, search, ih, List.filter_cons]
    simp only [Pattern.occursInKey, forText, if_true, bind, Except.bind, pure, Except.pure]
    split <;> rfl

/-- The operations under keys that are texts, each as it runs. -/
theorem get_run (store : MemoryStore) (key : Text) :
    operations.get (.text key) store = .ok ((store.get? (.text key)).getD .none) store := rfl

theorem set_run (store : MemoryStore) (key : Text) (value : Datum) :
    operations.set (.text key) value store =
      .ok ((store.get? (.text key)).map fun before => ⟨.text key, before⟩)
      (store.insert (.text key) value) := rfl

theorem remove_run (store : MemoryStore) (key : Text) :
    operations.remove (.text key) store = .ok () (store.erase (.text key)) := by
  obtain ⟨entries⟩ := store
  cases entries <;> rfl

theorem find_run (store : MemoryStore) (text : Text) :
    operations.find (.text text) store =
      match Pattern.ofText text with
      | .error fault => .error fault.raised store
      | .ok pattern =>
        match search pattern store.entries with
        | .error raised => .error raised store
        | .ok entries => .ok entries store := by
  cases read : Pattern.ofText text with
  | error fault =>
    simp only [operations, Pattern.ofDatum, bind, EStateM.bind, read]
    rfl
  | ok pattern =>
    have searched : operations.find (.text text) store =
        (MonadExcept.ofExcept (search pattern store.entries) : Storing MemoryStore
        (List StoreEntry)) store := by
      simp only [operations, Pattern.ofDatum, bind, EStateM.bind, read]
      rfl
    rw [searched]
    dsimp only
    cases search pattern store.entries <;> rfl

theorem clear_run (store : MemoryStore) : operations.clear store = .ok () empty := rfl

end MemoryStore

/-- A pattern that is read from a text is for texts. -/
theorem Pattern.isText_of_ofText (t : Text) (pattern : Pattern)
    (read : Pattern.ofText t = .ok pattern) :
    pattern.isText = true := by
  unfold Pattern.ofText at read
  split at read
  · obtain rfl := Except.ok.inj read
    rfl
  · cases read

end PhaseScript
