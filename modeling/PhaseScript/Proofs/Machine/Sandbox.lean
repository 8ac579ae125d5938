import PhaseScript.Machine.Sandbox
import PhaseScript.Machine.Scope
import PhaseScript.Proofs.Machine.Plain
import PhaseScript.Proofs.Table
/-
The names that a script is given, and what the modules that a setting asks for do to them. A module
is put under its own name after all the names of the sandbox, so it takes the place of whatever the
sandbox has there, and it touches nothing else.
-/
set_option autoImplicit false

namespace PhaseScript.Machine

theorem putNamed_eq_put {α : Type} (name : Text) (value : α) (entries : List (Text × α)) :
    putNamed name value entries = Table.put name value entries := by
  induction entries with
  | nil => rfl
  | cons entry rest ih => rw [putNamed, Table.put, ih]

theorem getNamed?_eq_lookup {α : Type} (entries : List (Text × α)) (name : Text) :
    getNamed? entries name = Table.lookup entries name := rfl

/-- What a script finds under a name: what it was given, else what every script has. -/
def World.found? (w : World) (name : Text) : Option Value :=
  (getNamed? w.globals name).or (builtin? name)

/-- Reading a name gives what is found there. -/
theorem Run.load_global_iff (scope : Option Nat) (name : Text) (w : World) (v : Value) :
    load scope name .global w = .ok v w ↔ w.found? name = some v := by
  simp only [load, World.found?, bind, EStateM.bind]
  cases getNamed? w.globals name with
  | some value => simp [pure, EStateM.pure]
  | none =>
    cases builtin? name with
    | some value => simp [pure, EStateM.pure]
    | none => exact ⟨nofun, nofun⟩

/-- A state that has more cells, and is otherwise the same. -/
def Grows (before after : World) : Prop :=
  ∃ cells, after = { before with heap := before.heap ++ cells }

namespace Grows

theorem refl (w : World) : Grows w w := ⟨#[], by rw [Array.append_empty]⟩

theorem trans {first second third : World} (grows : Grows first second)
    (grows' : Grows second third) : Grows first third := by
  obtain ⟨cells, rfl⟩ := grows
  obtain ⟨cells', rfl⟩ := grows'
  exact ⟨cells ++ cells', by rw [Array.append_assoc]⟩

theorem push (w : World) (cell : Cell) : Grows w { w with heap := w.heap.push cell } :=
  ⟨#[cell], by rw [Array.push_eq_append]⟩

theorem globals_eq {before after : World} (grows : Grows before after) :
    after.globals = before.globals := by
  obtain ⟨cells, rfl⟩ := grows
  rfl

theorem exchange_eq {before after : World} (grows : Grows before after) :
    after.exchange = before.exchange := by
  obtain ⟨cells, rfl⟩ := grows
  rfl

theorem channel_eq {before after : World} (grows : Grows before after) :
    after.channel = before.channel := by
  obtain ⟨cells, rfl⟩ := grows
  rfl

theorem environment_eq {before after : World} (grows : Grows before after) :
    after.environment = before.environment := by
  obtain ⟨cells, rfl⟩ := grows
  rfl

theorem size_le {before after : World} (grows : Grows before after) :
    before.heap.size ≤ after.heap.size := by
  obtain ⟨cells, rfl⟩ := grows
  simp

theorem keeps {before after : World} (grows : Grows before after) :
    Keeps 0 before.heap.size before.heap after.heap := by
  obtain ⟨cells, rfl⟩ := grows
  exact fun a _ inside => Array.getElem?_append_left inside

end Grows

/-- A module that has a cell of its own from a place in the heap on. -/
def Value.IsModuleFrom (low : Nat) (heap : Array Cell) (name : Text) (v : Value) : Prop :=
  ∃ address entries, v = .ref address ∧ low ≤ address ∧
    heap[address]? = some (.module name entries)

theorem Value.IsModuleFrom.mono {low low' : Nat} {heap now : Array Cell} {name : Text} {v : Value}
    (isModule : v.IsModuleFrom low' heap name) (below : low ≤ low')
    (keeps : Keeps 0 heap.size heap now) : v.IsModuleFrom low now name := by
  obtain ⟨address, entries, rfl, above, found⟩ := isModule
  have inside : address < heap.size := (Array.getElem?_eq_some_iff.1 found).1
  exact ⟨address, entries, rfl, below.trans above,
    (keeps address (Nat.zero_le _) inside).trans found⟩

namespace Run

theorem allocAll_grows (made : List (Text × Cell)) (before : World) : ∃ shown after,
    (made.mapM fun (shown, cell) => do return (shown, ← alloc cell) :
      Run (List (Text × Value))) before = .ok shown after ∧ Grows before after := by
  induction made generalizing before with
  | nil => exact ⟨[], before, rfl, .refl _⟩
  | cons entry rest ih =>
    obtain ⟨shown, after, ran, grows⟩ := ih { before with heap := before.heap.push entry.2 }
    refine ⟨(entry.1, .ref before.heap.size) :: shown, after, ?_, (Grows.push _ _).trans grows⟩
    have first : (do return (entry.1, ← alloc entry.2) : Run (Text × Value)) before =
      .ok (entry.1, .ref before.heap.size) { before with heap := before.heap.push entry.2 } := rfl
    rw [List.mapM_cons]
    exact (bind_of_ok first).trans (bind_of_ok ran)

/-- A module is new when it is made. -/
theorem newModule_grows (name : Text) (content : ModuleContent) (before : World) : ∃ v after,
    newModule name content before = .ok v after ∧ Grows before after ∧
      v.IsModuleFrom before.heap.size after.heap name := by
  obtain ⟨shown, between, ran, grows⟩ := allocAll_grows content.made before
  refine ⟨.ref between.heap.size, _, ?_, grows.trans (.push _ _), between.heap.size,
    content.entries ++ shown, rfl, grows.size_le, Array.getElem?_push_size⟩
  rw [newModule, bind_of_ok ran]
  rfl

/-- What putting modules among the global names does: those that are there get their names, and
nothing else changes. -/
structure Shelved (shelf : ModuleShelf) (names : List Text) (before after : World) : Prop where
  size_le : before.heap.size ≤ after.heap.size
  keeps : Keeps 0 before.heap.size before.heap after.heap
  put : ∀ name ∈ names, (shelf name).isSome = true → ∃ v,
    getNamed? after.globals name = some v ∧ v.IsModuleFrom before.heap.size after.heap name
  left : ∀ name, ¬ (name ∈ names ∧ (shelf name).isSome = true) →
    getNamed? after.globals name = getNamed? before.globals name
  exchange : after.exchange = before.exchange
  channel : after.channel = before.channel
  environment : after.environment = before.environment

variable {shelf : ModuleShelf} {name : Text} {names : List Text} {before after : World}

theorem Shelved.passed_over (shelved : Shelved shelf names before after)
    (absent : shelf name = none) : Shelved shelf (name :: names) before after where
  size_le := shelved.size_le
  keeps := shelved.keeps
  put other among isThere := by
    rcases List.mem_cons.mp among with rfl | among
    · rw [absent] at isThere
      cases isThere
    · exact shelved.put other among isThere
  left other isNot := shelved.left other fun ⟨among, isThere⟩ =>
    isNot ⟨List.mem_cons_of_mem _ among, isThere⟩
  exchange := shelved.exchange
  channel := shelved.channel
  environment := shelved.environment

theorem Shelved.added {content : ModuleContent} {between : World} {v : Value}
    (isThere : shelf name = some content) (grows : Grows before between)
    (isModule : v.IsModuleFrom before.heap.size between.heap name)
    (shelved : Shelved shelf names { between with globals := putNamed name v between.globals }
      after) : Shelved shelf (name :: names) before after where
  size_le := grows.size_le.trans shelved.size_le
  keeps := grows.keeps.trans (shelved.keeps.mono le_rfl grows.size_le)
  put other among found := by
    -- Of a name that is asked for twice the later module stays, so these come first.
    by_cases later : other ∈ names
    · obtain ⟨module, under, is_⟩ := shelved.put other later found
      exact ⟨module, under, is_.mono grows.size_le fun _ _ _ => rfl⟩
    · obtain rfl : other = name := (List.mem_cons.mp among).resolve_right later
      refine ⟨v, ?_, isModule.mono le_rfl shelved.keeps⟩
      rw [shelved.left other fun both => later both.1, putNamed_eq_put, getNamed?_eq_lookup,
        Table.lookup_put, if_pos (beq_self_eq_true other)]
  left other isNot := by
    have apart : ¬ (name == other) = true := by
      rw [beq_iff_eq]
      rintro rfl
      exact isNot ⟨List.mem_cons_self, isThere ▸ rfl⟩
    rw [shelved.left other fun ⟨among, found⟩ => isNot ⟨List.mem_cons_of_mem _ among, found⟩,
      putNamed_eq_put, getNamed?_eq_lookup, Table.lookup_put, if_neg apart, grows.globals_eq]
    rfl
  exchange := shelved.exchange.trans grows.exchange_eq
  channel := shelved.channel.trans grows.channel_eq
  environment := shelved.environment.trans grows.environment_eq

theorem addModules_shelved (shelf : ModuleShelf) (names : List Text) (before : World) :
    ∃ after, addModules shelf names before = .ok () after ∧ Shelved shelf names before after := by
  induction names generalizing before with
  | nil => exact ⟨before, rfl, le_rfl, fun _ _ _ => rfl, nofun, fun _ _ => rfl, rfl, rfl,
    rfl⟩
  | cons name rest ih =>
    cases isThere : shelf name with
    | none =>
      obtain ⟨after, ran, shelved⟩ := ih before
      refine ⟨after, ?_, shelved.passed_over isThere⟩
      simp only [addModules, isThere]
      exact ran
    | some content =>
      obtain ⟨v, between, made, grows, isModule⟩ := newModule_grows name content before
      obtain ⟨after, ran, shelved⟩ :=
        ih { between with globals := putNamed name v between.globals }
      refine ⟨after, ?_, shelved.added isThere grows isModule⟩
      simp only [addModules, isThere]
      exact (bind_of_ok made).trans ran

end Run

/-- The names that belong to a service. -/
def serviceNames (hasChannel : Bool) : List Text :=
  if hasChannel then ["host_api", "console", "storage"] else []

/-- The names of the sandbox: the table of the core names and the guards, what is given of the
libraries, the core names that are global too, and what belongs to the run. -/
def sandboxNames (hasChannel : Bool) : List Text :=
  (["__builtins__", "_getattr_", "_getiter_", "_getitem_", "_iter_unpack_sequence_",
    "_unpack_sequence_", "_write_", "_inplacevar_", "_apply_", "__name__", "json", "datetime",
    "date", "time", "timedelta", "list", "dict", "set", "tuple", "range", "enumerate", "map",
    "filter", "len", "min", "max", "sum", "abs", "sorted", "any", "all", "exports", "Promise",
    "fetch", "process", "env"] : List Text) ++ serviceNames hasChannel

/-- A step that gives values under these names, and has a cell for each that needs one. -/
def Gives (step : Run (List (Text × Value))) (names : List Text) : Prop :=
  ∀ before, ∃ entries after, step before = .ok entries after ∧ Grows before after ∧
    entries.map (·.1) = names ∧ ∀ entry ∈ entries, entry.2.InHeap after.heap

/-- Whether a value stands for itself, and not for a cell. -/
def Value.isDirect : Value → Bool
  | .ref _ => false
  | _ => true

theorem inHeap_of_isDirect (entries : List (Text × Value))
    (direct : entries.all (fun entry => entry.2.isDirect) = true) (heap : Array Cell) :
    ∀ entry ∈ entries, entry.2.InHeap heap := by
  intro entry among address same
  have isDirect := List.all_eq_true.mp direct entry among
  rw [same] at isDirect
  cases isDirect

@[simp] theorem Value.inHeap_ref {heap : Array Cell} {address : Nat} :
    (Value.ref address).InHeap heap ↔ address < heap.size :=
  ⟨fun inside => inside address rfl, fun below _ same => Value.ref.inj same ▸ below⟩

namespace Run

theorem serviceGlobals_gives (hasChannel : Bool) :
    Gives (serviceGlobals hasChannel) (serviceNames hasChannel) := by
  intro before
  cases hasChannel with
  | false => exact ⟨[], before, rfl, .refl _, rfl, nofun⟩
  | true =>
    refine ⟨_, _, rfl, ((Grows.push _ _).trans (.push _ _)).trans (.push _ _), rfl, ?_⟩
    simp
    omega

theorem newProcess_grows (environment : Environment) (before : World) : ∃ address after,
    newProcess environment before = .ok (.ref address) after ∧ Grows before after ∧
      address < after.heap.size :=
  ⟨_, _, rfl, ((Grows.push _ _).trans (.push _ _)).trans (.push _ _), by simp⟩

theorem contextGlobals_gives (environment : Environment) (hasChannel : Bool) :
    Gives (contextGlobals environment hasChannel)
      ((["exports", "Promise", "fetch", "process", "env"] : List Text) ++
        serviceNames hasChannel) := by
  intro before
  let table := { before with heap := before.heap.push (.dict #[] true) }
  let promise := { table with heap := table.heap.push (.namespace promiseEntries) }
  obtain ⟨process, between, made, grows, inside⟩ := newProcess_grows environment promise
  let settings := { between with heap := between.heap.push (.namespace settingEntries) }
  obtain ⟨service, after, ran, grows', names, inHeap⟩ := serviceGlobals_gives hasChannel settings
  have start : Grows before promise := (Grows.push _ _).trans (.push _ _)
  have rest : Grows between after := (Grows.push _ _).trans grows'
  refine ⟨_, after, (bind_of_ok rfl).trans ((bind_of_ok rfl).trans ((bind_of_ok made).trans
    ((bind_of_ok rfl).trans ((bind_of_ok ran).trans rfl)))), (start.trans grows).trans rest, ?_, ?_⟩
  · rw [List.map_append, names]
    rfl
  · have sizes := grows.size_le
    have sizes' := grows'.size_le
    simp only [promise, table, settings, Array.size_push] at sizes sizes'
    refine List.forall_mem_append.mpr ⟨?_, inHeap⟩
    simp only [List.forall_mem_cons, Value.inHeap_ref, Array.size_push]
    exact ⟨by omega, by omega, nofun, by omega, by omega, nofun⟩

end Run

/-- An object that can read and write JSON, and nothing else. -/
def plainJson : Cell := .namespace [("loads", .builtin .jsonLoads), ("dumps", .builtin .jsonDumps)]

def World.HasPlainJson (w : World) : Prop :=
  ∃ address, w.found? "json" = some (.ref address) ∧ w.heap[address]? = some plainJson

namespace Surroundings

variable (s : Surroundings) (w : World)

/-- The surroundings without further modules. -/
def alone : Surroundings := { s with extraModules := [] }

/-- Whether the name is one that is asked for and that a module has. -/
def Shelves (name : Text) : Prop := name ∈ s.extraModules ∧ (s.shelf name).isSome = true

def hasChannel : Bool := (Rpc.Channel.of? s.externalApi s.module).isSome

/-- The names as the sandbox itself gives them. -/
structure Sandboxed (alone : World) : Prop where
  names : alone.globals.map (·.1) = sandboxNames s.hasChannel
  inHeap : ∀ entry ∈ alone.globals, entry.2.InHeap alone.heap
  json : alone.HasPlainJson

theorem prepare_alone : ∃ alone, Run.prepare s.alone w = .ok () alone ∧
    Run.prepare s w = Run.addModules s.shelf s.extraModules alone ∧ s.Sandboxed alone := by
  let reading := { w with heap := w.heap.push plainJson }
  obtain ⟨context, after, ran, grows, names, inHeap⟩ :=
    Run.contextGlobals_gives s.environment s.hasChannel reading
  refine ⟨_, (Run.bind_of_ok rfl).trans ((Run.bind_of_ok ran).trans rfl),
    (Run.bind_of_ok rfl).trans ((Run.bind_of_ok ran).trans rfl), ?_, ?_, ?_⟩
  · simp only [List.map_append, names]
    rfl
  · have inside : w.heap.size < after.heap.size := grows.size_le.trans_lt' (by simp [reading])
    simp only [List.forall_mem_append, List.forall_mem_singleton, Value.inHeap_ref]
    exact ⟨⟨⟨⟨inHeap_of_isDirect _ rfl _, inside⟩, inHeap_of_isDirect _ rfl _⟩,
      inHeap_of_isDirect _ rfl _⟩, inHeap⟩
  · refine ⟨w.heap.size, rfl, ?_⟩
    exact (grows.keeps _ (Nat.zero_le _) (by simp [reading])).trans Array.getElem?_push_size

/-- A run is prepared without anything being sent. -/
theorem prepare_sends_nothing : ∃ ready, Run.prepare s w = .ok () ready ∧
    ready.channel = Rpc.Channel.of? s.externalApi s.module ∧ ready.exchange = w.exchange := by
  let reading := { w with heap := w.heap.push plainJson }
  obtain ⟨context, between, ran, grows, -⟩ :=
    Run.contextGlobals_gives s.environment s.hasChannel reading
  obtain ⟨ready, added, shelved⟩ := Run.addModules_shelved s.shelf s.extraModules _
  exact ⟨ready, (Run.bind_of_ok rfl).trans ((Run.bind_of_ok ran).trans
    ((Run.bind_of_ok rfl).trans added)), shelved.channel, shelved.exchange.trans grows.exchange_eq⟩

variable {s} {alone after : World}

theorem Sandboxed.found_inHeap (sandboxed : s.Sandboxed alone) {name : Text} {v : Value}
    (found : alone.found? name = some v) : v.InHeap alone.heap := by
  rcases Option.or_eq_some_iff.mp found with isGlobal | ⟨-, isCore⟩
  · exact sandboxed.inHeap _ (Table.mem_of_lookup _ _ _ isGlobal)
  · exact inHeap_of_isDirect builtinEntries rfl _ _ (Table.mem_of_lookup _ _ _ isCore)

theorem found_eq_of_left {name : Text}
    (left : getNamed? after.globals name = getNamed? alone.globals name) :
    after.found? name = alone.found? name := by
  rw [World.found?, left, ← World.found?]

/-- A name keeps what it has in the sandbox if no module takes it, and only then: the cell of a
module is one that was not there before. -/
theorem Sandboxed.found_eq_iff (sandboxed : s.Sandboxed alone)
    (shelved : Run.Shelved s.shelf s.extraModules alone after) (name : Text) :
    after.found? name = alone.found? name ↔ ¬ s.Shelves name := by
  refine ⟨fun same shelves => ?_, fun isNot => found_eq_of_left (shelved.left name isNot)⟩
  obtain ⟨v, put, address, entries, rfl, above, -⟩ := shelved.put name shelves.1 shelves.2
  have found : after.found? name = some (.ref address) := by
    rw [World.found?, put, Option.some_or]
  have below := sandboxed.found_inHeap (same ▸ found) address rfl
  omega

theorem Sandboxed.plainJson_iff (sandboxed : s.Sandboxed alone)
    (shelved : Run.Shelved s.shelf s.extraModules alone after) :
    after.HasPlainJson ↔ ¬ s.Shelves "json" := by
  refine ⟨fun ⟨address, found, cell⟩ shelves => ?_, fun isNot => ?_⟩
  · obtain ⟨v, put, address', entries, rfl, -, isModule⟩ := shelved.put _ shelves.1 shelves.2
    rw [World.found?, put, Option.some_or] at found
    cases found
    rw [isModule] at cell
    cases cell
  · obtain ⟨address, found, cell⟩ := sandboxed.json
    have inside : address < alone.heap.size := (Array.getElem?_eq_some_iff.1 cell).1
    exact ⟨address, (found_eq_of_left (shelved.left _ isNot)).trans found,
      (shelved.keeps _ (Nat.zero_le _) inside).trans cell⟩

end Surroundings

/-- Modules that are asked for take the names under which they are found, also where the sandbox
has something else there, and change nothing else: every other name has what the sandbox gives it,
and that is as the sandbox made it. -/
theorem prepare_keeps_name_iff (s : Surroundings) (w : World) :
    ∃ alone after, Run.prepare s.alone w = .ok () alone ∧ Run.prepare s w = .ok () after ∧
      alone.globals.map (·.1) = sandboxNames s.hasChannel ∧ alone.HasPlainJson ∧
      Keeps 0 alone.heap.size alone.heap after.heap ∧
      (∀ name, after.found? name = alone.found? name ↔ ¬ s.Shelves name) ∧
      (∀ name, s.Shelves name → ∃ v, after.found? name = some v ∧
        v.IsModuleFrom alone.heap.size after.heap name) ∧
      (after.HasPlainJson ↔ ¬ s.Shelves "json") := by
  obtain ⟨alone, ranAlone, ran, sandboxed⟩ := s.prepare_alone w
  obtain ⟨after, added, shelved⟩ := Run.addModules_shelved s.shelf s.extraModules alone
  refine ⟨alone, after, ranAlone, ran.trans added, sandboxed.names, sandboxed.json, shelved.keeps,
    sandboxed.found_eq_iff shelved, fun name shelves => ?_, sandboxed.plainJson_iff shelved⟩
  obtain ⟨v, put, isModule⟩ := shelved.put name shelves.1 shelves.2
  exact ⟨v, by rw [World.found?, put, Option.some_or], isModule⟩

/-- A setting that asks for the module json takes the place of the object that can only read and
write. -/
theorem naming_json_loses_plainJson : ∃ after, Run.prepare
    { (default : Surroundings) with extraModules := moduleNames "json" } default = .ok () after ∧
      ¬ after.HasPlainJson := by
  obtain ⟨_, after, _, ran, _, _, _, _, _, json⟩ := prepare_keeps_name_iff
    { (default : Surroundings) with extraModules := moduleNames "json" } default
  exact ⟨after, ran, fun plain => json.mp plain ⟨by decide, by decide⟩⟩

end PhaseScript.Machine
