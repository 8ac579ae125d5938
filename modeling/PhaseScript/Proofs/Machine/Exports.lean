import PhaseScript.Machine.Exports
import PhaseScript.Proofs.Machine.Binding
/-
The table of handlers under edits by either view. An assignment and a deletion come to the same as
attributes and as items, so the table holds what a plain dict would hold, in the same order. The
handler for a phase is the value last assigned to its name and not deleted since, whatever other
names the table has.
-/
set_option autoImplicit false

namespace PhaseScript

namespace Machine

/-- The entries of a dict whose keys are texts. -/
def textEntries (table : Table Value) : Array (Value × Value) :=
  (table.map fun entry => (Value.text entry.1, entry.2)).toArray

theorem findKey?_textEntries (table : Table Value) (name : Text) :
    findKey? (textEntries table) (.text name) = table.findIdx? fun entry => entry.1 == name := by
  rw [findKey?, textEntries, List.findIdx?_toArray, List.findIdx?_map]
  exact congrArg (List.findIdx? · table) (funext fun entry => Run.sameKey_text entry.1 name)

theorem find?_textEntries (table : Table Value) (name : Text) :
    ((textEntries table).find? fun entry => entry.1.sameKey (.text name)).map (·.2) =
      table.lookup name := by
  have same : ((fun entry : Value × Value => entry.1.sameKey (.text name)) ∘
      fun entry : Text × Value => (Value.text entry.1, entry.2)) =
      fun entry => entry.1 == name := funext fun entry => Run.sameKey_text entry.1 name
  rw [textEntries, List.find?_toArray, List.find?_map, same, Option.map_map, Table.lookup]
  rfl

theorem putEntry_textEntries (table : Table Value) (name : Text) (v : Value) :
    Run.putEntry (textEntries table) (.text name) v = textEntries (table.put name v) := by
  rw [Run.putEntry, findKey?_textEntries, Table.put_eq_modify]
  cases table.findIdx? fun entry => entry.1 == name with
  | some place =>
    rw [textEntries, textEntries]
    dsimp only
    rw [List.modify_toArray]
    refine congrArg List.toArray (List.ext_getElem? fun n => ?_)
    rw [List.getElem?_modify, List.getElem?_map, List.getElem?_map, List.getElem?_modify]
    cases table[n]? with
    | none => rfl
    | some entry =>
      simp only [Option.map_some, Option.map_eq_map]
      split <;> rfl
  | none => simp [textEntries]

theorem withoutKey_textEntries (table : Table Value) (distinct : table.keys.Nodup) (name : Text) :
    Run.withoutKey (textEntries table) (.text name) =
      if name ∈ table.keys then some (textEntries (table.erase name)) else none := by
  rw [Run.withoutKey, findKey?_textEntries, ← Table.eraseP_eq_erase table distinct,
    List.eraseP_eq_eraseIdx]
  cases found : table.findIdx? fun entry => entry.1 == name with
  | some place =>
    have inside : name ∈ table.keys := by
      by_contra new
      rw [(Table.findIdx?_eq_none_iff table name).mpr new] at found
      cases found
    rw [if_pos inside, Option.map_some, textEntries, List.eraseIdxIfInBounds_toArray,
      List.eraseIdx_map, textEntries]
  | none =>
    rw [if_neg ((Table.findIdx?_eq_none_iff table name).mp found)]
    rfl

/-- The two ways to an entry of a table. -/
inductive TableView where
  | asAttribute
  | asItem
  deriving DecidableEq

/-- What is raised when a name to be deleted is not there. -/
def TableView.complaint : TableView → ExceptionKind
  | .asAttribute => .attributeError
  | .asItem => .keyError

/-- An entry that is assigned a value, or deleted if there is none. -/
structure TableEdit where
  view : TableView
  name : Text
  value : Option Value

namespace TableEdit

def run (m : Interp) (table : Value) (edit : TableEdit) : Run Unit :=
  match edit.view, edit.value with
  | .asAttribute, some v => Run.setAttribute table edit.name v
  | .asAttribute, none => Run.eraseAttribute table edit.name
  | .asItem, some v => Run.setItem m table (.text edit.name) v
  | .asItem, none => Run.eraseItem table (.text edit.name)

/-- The edits in turn, going on after one that has failed, and then the table. -/
def runAll (m : Interp) (table : Value) : List TableEdit → Run Value
  | [] => return table
  | edit :: rest => do
    let _ ← Run.catching (edit.run m table)
    runAll m table rest

def toItem (edit : TableEdit) : TableEdit := { edit with view := .asItem }

def applyTo (table : Table Value) (edit : TableEdit) : Table Value :=
  match edit.value with
  | some v => table.put edit.name v
  | none => table.erase edit.name

/-- The value last assigned to a name, if it was not deleted since. -/
def lastAssigned (edits : List TableEdit) (name : Text) : Option Value :=
  edits.foldl (fun found edit => if edit.name == name then edit.value else found) none

end TableEdit

/-- A dict with the entries of a table. -/
structure Holds (w : World) (address : Nat) (isExports : Bool) (table : Table Value) : Prop where
  cell : w.heap[address]? = some (.dict (textEntries table) isExports)
  distinct : table.keys.Nodup

namespace Holds

variable {w : World} {address : Nat} {isExports : Bool} {table : Table Value}

theorem cellAt_eq (holds : Holds w address isExports table) :
    Run.cellAt address w = .ok (.dict (textEntries table) isExports) w := by
  rw [Run.cellAt, holds.cell, Option.getD_some]

theorem setCell (holds : Holds w address isExports table) {table' : Table Value}
    (distinct : table'.keys.Nodup) : ∃ after,
      Run.setCell address (.dict (textEntries table') isExports) w = .ok () after ∧
        Holds after address isExports table' := by
  refine ⟨_, rfl, ?_, distinct⟩
  have inside : address < w.heap.size := (Array.getElem?_eq_some_iff.mp holds.cell).1
  exact Array.getElem?_setIfInBounds_self_of_lt inside

/-- An exception that is raised gets a cell of its own, so the table is as it was. -/
theorem raiseArgs {α : Type} (holds : Holds w address isExports table) (kind : ExceptionKind)
    (args : List Value) : ∃ error after,
      (Run.raiseArgs kind args : Run α) w = .error (.raised (.ref error)) after ∧
        after.heap[error]? = some (.exception kind args []) ∧
        Holds after address isExports table := by
  refine ⟨w.heap.size, { w with heap := w.heap.push (.exception kind args []) }, rfl,
    Array.getElem?_push_size, ?_, holds.distinct⟩
  have inside : address < w.heap.size := (Array.getElem?_eq_some_iff.mp holds.cell).1
  exact (keeps_push w.heap _ address (Nat.zero_le _) inside).trans holds.cell

/-- An assignment puts the value into the table, by either view. -/
theorem assign (holds : Holds w address isExports table) (m : Interp) (view : TableView)
    (reaches : isExports = true ∨ view = .asItem) (name : Text) (v : Value) : ∃ after,
      TableEdit.run m (.ref address) ⟨view, name, some v⟩ w = .ok () after ∧
        Holds after address isExports (table.put name v) := by
  obtain ⟨after, ran, holds'⟩ := holds.setCell (table.nodup_put name v holds.distinct)
  refine ⟨after, ?_, holds'⟩
  rw [← putEntry_textEntries] at ran
  cases view with
  | asAttribute =>
    obtain rfl := reaches.resolve_right (by decide)
    exact (Run.bind_of_ok holds.cellAt_eq).trans ran
  | asItem => exact (Run.bind_of_ok holds.cellAt_eq).trans ran

/-- Both views delete alike; they differ in what they say of a name that is not there. -/
theorem delete_eq (holds : Holds w address isExports table) (m : Interp) (view : TableView)
    (reaches : isExports = true ∨ view = .asItem) (name : Text) :
    TableEdit.run m (.ref address) ⟨view, name, none⟩ w =
      (if name ∈ table.keys then
        Run.setCell address (.dict (textEntries (table.erase name)) isExports)
      else Run.raiseArgs view.complaint [.text name]) w := by
  have found := withoutKey_textEntries table holds.distinct name
  cases view with
  | asAttribute =>
    obtain rfl := reaches.resolve_right (by decide)
    refine (Run.bind_of_ok holds.cellAt_eq).trans ?_
    dsimp only
    rw [found]
    split <;> rfl
  | asItem =>
    have hashable : Run.checkHashable (.text name) w = .ok () w := rfl
    refine (Run.bind_of_ok holds.cellAt_eq).trans ((Run.bind_of_ok hashable).trans ?_)
    rw [found]
    split <;> rfl

/-- The table after an edit. A deletion of a name that is not there raises an error and leaves the
table as it is. -/
theorem edited (holds : Holds w address isExports table) (m : Interp) (edit : TableEdit)
    (reaches : isExports = true ∨ edit.view = .asItem) :
    ∃ ended after, Run.catching (edit.run m (.ref address)) w = .ok ended after ∧
      Holds after address isExports (edit.applyTo table) ∧
      if edit.value = none ∧ table.lookup edit.name = none then
        edit.applyTo table = table ∧ ∃ error, ended = .error (.ref error) ∧
          after.heap[error]? = some (.exception edit.view.complaint [.text edit.name] [])
      else ended = .ok () := by
  obtain ⟨view, name, value⟩ := edit
  cases value with
  | some v =>
    obtain ⟨after, ran, holds'⟩ := holds.assign m view reaches name v
    refine ⟨.ok (), after, by rw [Run.catching, ran], holds', ?_⟩
    rw [if_neg fun missing => Option.some_ne_none v missing.1]
  | none =>
    have deletes := holds.delete_eq m view reaches name
    by_cases inside : name ∈ table.keys
    · obtain ⟨after, ran, holds'⟩ := holds.setCell (table.nodup_filter _ holds.distinct)
      rw [if_pos inside, Table.erase] at deletes
      refine ⟨.ok (), after, by rw [Run.catching, deletes, ran], holds', ?_⟩
      rw [if_neg fun missing => table.lookup_eq_none_iff name |>.mp missing.2 inside]
    · obtain ⟨error, after, ran, isError, holds'⟩ :=
        holds.raiseArgs (α := Unit) view.complaint [.text name]
      rw [if_neg inside] at deletes
      have same : TableEdit.applyTo table ⟨view, name, none⟩ = table :=
        table.erase_of_new name inside
      refine ⟨.error (.ref error), after, by rw [Run.catching, deletes, ran], by rwa [same], ?_⟩
      rw [if_pos ⟨rfl, (table.lookup_eq_none_iff name).mpr inside⟩]
      exact ⟨same, error, rfl, isError⟩

/-- The table after any edits. -/
theorem editedAll (m : Interp) (edits : List TableEdit) (holds : Holds w address isExports table)
    (reaches : isExports = true ∨ ∀ edit ∈ edits, edit.view = .asItem) :
    ∃ after, TableEdit.runAll m (.ref address) edits w = .ok (.ref address) after ∧
      Holds after address isExports (edits.foldl TableEdit.applyTo table) := by
  -- On the edits, for every table that the first of them may find: one that fails leaves the table
  -- as it is, so the others go on from a table in any case.
  induction edits generalizing w table with
  | nil => exact ⟨w, rfl, holds⟩
  | cons edit rest ih =>
    obtain ⟨ended, between, ran, holds', -⟩ :=
      holds.edited m edit (reaches.imp_right fun all => all edit List.mem_cons_self)
    obtain ⟨after, ran', holds''⟩ :=
      ih holds' (reaches.imp_right fun all other among => all other (List.mem_cons_of_mem _ among))
    exact ⟨after, (Run.bind_of_ok ran).trans ran', holds''⟩

/-- The handler in a table is the value under its name. -/
theorem handler?_eq (holds : Holds w address isExports table) (name : Text) :
    Run.handler? (.ref address) name w = .ok ((table.lookup name).getD .none) w := by
  rw [Run.handler?_dict holds.cell, find?_textEntries]

end Holds

/-- What is found under a name is the value last assigned to it, unless it was deleted. -/
theorem lookup_applyTo (table : Table Value) (edit : TableEdit) (name : Text) :
    (edit.applyTo table).lookup name =
      if edit.name == name then edit.value else table.lookup name := by
  rw [TableEdit.applyTo]
  split
  · next v given => rw [Table.lookup_put, given]
  · next given => rw [Table.lookup_erase, given]

theorem lookup_foldl_applyTo (edits : List TableEdit) (name : Text) :
    Table.lookup (edits.foldl TableEdit.applyTo []) name = TableEdit.lastAssigned edits name := by
  suffices general : ∀ table : Table Value, (edits.foldl TableEdit.applyTo table).lookup name =
      edits.foldl (fun found edit => if edit.name == name then edit.value else found)
        (table.lookup name) from general []
  induction edits with
  | nil => exact fun _ => rfl
  | cons edit rest ih =>
    intro table
    rw [List.foldl_cons, List.foldl_cons, ih, lookup_applyTo]

/-- A phase goes by a value as its handler: it answers by default if that is none, fails if it
cannot be called, and else calls it, with the context if it takes that. -/
structure GoesBy (m : Interp) (table : Value) (phase : Phase) (context : List (Datum × Datum))
    (w : World) (handler : Value) : Prop where
  missing : handler = .none → Run.dispatch m table phase context w =
    .ok (.ok (.passedThrough (phase.defaultResult context))) w
  refused : handler ≠ .none → handler.isCallableIn w.heap = false →
    Run.dispatch m table phase context w =
      .ok (.error ⟨.handlerError, phase.handlerName ++ " is not callable"⟩) w
  called : handler.isCallableIn w.heap = true → ∃ argument made,
    (Run.ofEntries context >>= Run.newDict) (w.noting table) = .ok argument made ∧
    Run.dispatch m table phase context w = (do
      let args := if ← Run.takesContext handler then [argument] else []
      Run.ended (m.call handler args [])) made

theorem goesBy_of_handler? {table : Value} {phase : Phase} {w : World} {handler : Value}
    (finds : Run.handler? table phase.handlerName w = .ok handler w) (m : Interp)
    (context : List (Datum × Datum)) : GoesBy m table phase context w handler where
  missing isNone := by
    subst isNone
    rw [Run.dispatch, Run.bind_of_ok finds]
    rfl
  refused some_ inert := by
    have callable := Run.isCallable_eq handler w
    rw [inert] at callable
    rw [Run.dispatch, Run.bind_of_ok finds]
    split
    · exact absurd rfl some_
    · rw [Run.bind_of_ok callable]
      rfl
  called callable := by
    have some_ : handler ≠ .none := by
      rintro rfl
      cases callable
    obtain ⟨argument, made, isMade, found, -⟩ := Run.callee_found context finds some_
      ((Run.isCallable_eq handler w).trans (by rw [callable]))
    refine ⟨argument, made, isMade, ?_⟩
    rw [Run.dispatch_eq, Run.bind_of_ok found]

/-- After any assignments and deletions by either view, a table that was empty holds what a dict
holds after the same ones as items. One more deletes a name if it is there and complains otherwise.
A phase goes by the value last assigned to the name of its handler, unless it was deleted. -/
theorem edited_table_serves_last_assigned (m : Interp) (edits : List TableEdit)
    (before before' : World) :
    ∃ address after address' after' entries,
      (Run.newExports >>= fun table => TableEdit.runAll m table edits) before =
        .ok (.ref address) after ∧
      (Run.newDict [] >>= fun dict => TableEdit.runAll m dict (edits.map TableEdit.toItem))
        before' = .ok (.ref address') after' ∧
      after.heap[address]? = some (.dict entries true) ∧
      after'.heap[address']? = some (.dict entries false) ∧
      entries = textEntries (edits.foldl TableEdit.applyTo []) ∧
      (∀ edit : TableEdit, ∃ ended later,
        Run.catching (edit.run m (.ref address)) after = .ok ended later ∧
          if edit.value = none ∧ TableEdit.lastAssigned edits edit.name = none then
            later.heap[address]? = after.heap[address]? ∧ ∃ error, ended = .error (.ref error) ∧
              later.heap[error]? = some (.exception edit.view.complaint [.text edit.name] [])
          else ended = .ok ()) ∧
      (getNamed? after.globals "exports" = some (.ref address) →
        Run.exportsTable after = .ok (.ok (.ref address)) after) ∧
      ∀ (n : Interp) (phase : Phase) (context : List (Datum × Datum)),
        GoesBy n (.ref address) phase context after
          ((TableEdit.lastAssigned edits phase.handlerName).getD .none) := by
  have empty (w : World) (isExports : Bool) :
      Holds { w with heap := w.heap.push (.dict #[] isExports) } w.heap.size isExports [] :=
    ⟨Array.getElem?_push_size, List.nodup_nil⟩
  obtain ⟨after, ran, holds⟩ := (empty before true).editedAll m edits (.inl rfl)
  obtain ⟨after', ran', holds'⟩ := (empty before' false).editedAll m (edits.map TableEdit.toItem)
    (.inr (List.forall_mem_map.mpr fun edit _ => rfl))
  -- What an edit does to the entries does not depend on its view.
  have same : (edits.map TableEdit.toItem).foldl TableEdit.applyTo [] =
      edits.foldl TableEdit.applyTo [] := List.foldl_map
  rw [same] at holds'
  refine ⟨before.heap.size, after, before'.heap.size, after', _, ran, ran', holds.cell, holds'.cell,
    rfl, fun edit => ?_, fun named => ?_, fun n phase context => ?_⟩
  · obtain ⟨ended, later, ends, holds'', outcome⟩ := holds.edited m edit (.inl rfl)
    refine ⟨ended, later, ends, ?_⟩
    rw [lookup_foldl_applyTo] at outcome
    split
    · next missing =>
      rw [if_pos missing] at outcome
      obtain ⟨unchanged, raises⟩ := outcome
      rw [unchanged] at holds''
      exact ⟨holds''.cell.trans holds.cell.symm, raises⟩
    · next some_ => rwa [if_neg some_] at outcome
  · simp only [Run.exportsTable, Run.entries?, Run.cell?, Run.cellAt, bind, EStateM.bind, pure,
      EStateM.pure, named, Option.getD_some, holds.cell, Option.isSome_some, if_true]
  · refine goesBy_of_handler? ?_ n context
    rw [holds.handler?_eq, lookup_foldl_applyTo]

end Machine

end PhaseScript
