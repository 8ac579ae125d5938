import PhaseScript.Answer
import PhaseScript.Proofs.Invocation
import PhaseScript.Proofs.Json.Limits
import PhaseScript.Proofs.Machine.Exports
import PhaseScript.Proofs.Machine.Requests
import PhaseScript.Proofs.Text.Digits
/-
The settings of a script. A message tells each of them as text, and the functions of `env` read an
integer and a truth value back from it as they were told. What a script is given for them has cells
of its own, which nothing reaches but by ways that only read; so the answers stay as they are,
whatever is asked, attempted or changed outside.
-/
set_option autoImplicit false

namespace PhaseScript

namespace Invocation

/-- The text in which a member of the settings is told, if it is. -/
def told? : Option Json → Option Text
  | none | some .null => none
  | some value => some (Datum.ofJson value).plain

/-- A setting is told exactly if it has a value that is not null. -/
theorem Settings.get?_eq {members : List (Text × Json)} {told : List (Text × Text)}
    (settings : Settings members told) (distinct : (members.map (·.1)).Nodup) (name : Text) :
    Environment.get? told name = told? (Json.get? members name) := by
  have member : Json.get? members name = Table.lookup members name := rfl
  have setting : Environment.get? told name = Table.lookup told name := rfl
  rw [member, setting]
  clear member setting
  induction settings with
  | nil => rfl
  | @unset other members told _ ih =>
    rw [List.map_cons, List.nodup_cons] at distinct
    rw [ih distinct.2, Table.lookup_cons]
    split
    · next here =>
      rw [(Table.lookup_eq_none_iff members name).mpr (beq_iff_eq.mp here ▸ distinct.1)]
      rfl
    · rfl
  | @set other value members told notNull _ ih =>
    rw [List.map_cons, List.nodup_cons] at distinct
    rw [Table.lookup_cons, Table.lookup_cons, ih distinct.2]
    split
    · cases value <;> first | rfl | exact absurd rfl notNull
    · rfl

/-- An integer that a reader takes is told in digits that are read back as it. -/
theorem int?_told {n : Int} (limited : Json.Limited (.int n)) :
    Environment.int? (Datum.ofJson (.int n)).plain = some n := by
  have few : n.natAbs < 10 ^ 4300 := by
    have few : Json.tooManyDigits n = false := limited
    rw [Json.tooManyDigits, decide_eq_false_iff_not] at few
    exact Nat.lt_of_not_le few
  have read := Text.readInt_ofInt n few
  have told : (Datum.ofJson (.int n)).plain = Text.ofInt n := rfl
  rw [told, Environment.int?, read]

theorem isYes_told (b : Bool) : Environment.isYes (Datum.ofJson (.bool b)).plain = b := by
  cases b <;> decide

end Invocation

namespace Machine

theorem Keeps.found {low a : Nat} {heap now : Array Cell} {cell : Cell}
    (keeps : Keeps low heap.size heap now) (above : low ≤ a) (found : heap[a]? = some cell) :
    now[a]? = some cell :=
  (keeps a above (Array.getElem?_eq_some_iff.mp found).1).trans found

/-- A state that comes after another and spares some of its cells, with the global names and the
settings. -/
structure Spares (kept : Nat → Prop) (before after : World) : Prop where
  size_le : before.heap.size ≤ after.heap.size
  keeps : ∀ a, kept a → a < before.heap.size → after.heap[a]? = before.heap[a]?
  globals : after.globals = before.globals
  environment : after.environment = before.environment

namespace Spares

variable {kept : Nat → Prop} {first second third : World}

theorem of_same (heap : second.heap = first.heap) (globals : second.globals = first.globals)
    (environment : second.environment = first.environment) : Spares kept first second :=
  ⟨heap ▸ le_rfl, fun _ _ _ => heap ▸ rfl, globals, environment⟩

theorem trans (one : Spares kept first second) (two : Spares kept second third) :
    Spares kept first third :=
  ⟨one.size_le.trans two.size_le,
    fun a isKept inside => (two.keeps a isKept (inside.trans_le one.size_le)).trans
      (one.keeps a isKept inside),
    two.globals.trans one.globals, two.environment.trans one.environment⟩

theorem of_all (spares : Spares (fun _ => True) first second) : Spares kept first second :=
  { spares with keeps := fun a _ => spares.keeps a trivial }

theorem found (spares : Spares kept first second) {a : Nat} {cell : Cell} (isKept : kept a)
    (found : first.heap[a]? = some cell) : second.heap[a]? = some cell :=
  (spares.keeps a isKept (Array.getElem?_eq_some_iff.mp found).1).trans found

end Spares

namespace Run

/-- A step that changes nothing that is there, whatever comes of it. -/
def QuietFrom {α : Type} (step : Run α) (before : World) : Prop :=
  Spares (fun _ => True) before (stateAfter step before)

def Quiet {α : Type} (step : Run α) : Prop := ∀ before, QuietFrom step before

section Quiet

variable {α β : Type} {before : World}

theorem QuietFrom.of_eq {step step' : Run α} (same : step before = step' before)
    (quiet : QuietFrom step' before) : QuietFrom step before := by
  rw [QuietFrom, stateAfter_congr same]
  exact quiet

theorem QuietFrom.bind {step : Run α} {next : α → Run β} (quiet : QuietFrom step before)
    (goesOn : ∀ a, Quiet (next a)) : QuietFrom (step >>= next) before := by
  cases ran : step before with
  | ok a between =>
    rw [QuietFrom, stateAfter_of_ok ran] at quiet
    have goesOn : QuietFrom (next a) between := goesOn a between
    have same : (step >>= next) before = next a between := bind_of_ok ran
    rw [QuietFrom, stateAfter, ← same] at goesOn
    exact quiet.trans goesOn
  | error trouble between =>
    rw [QuietFrom, stateAfter, ran] at quiet
    simpa only [QuietFrom, stateAfter, Bind.bind, EStateM.bind, ran] using quiet

namespace Quiet

theorem pure (a : α) : Quiet (Pure.pure a) := fun _ => .of_same rfl rfl rfl

theorem bind {step : Run α} {next : α → Run β} (quiet : Quiet step)
    (goesOn : ∀ a, Quiet (next a)) : Quiet (step >>= next) := fun before =>
  (quiet before).bind goesOn

theorem of_reads {step : Run α} (reads : Reads step) : Quiet step := by
  intro before
  obtain ⟨a, ran⟩ := reads before
  rw [QuietFrom, stateAfter_of_ok ran]
  exact .of_same rfl rfl rfl

end Quiet

theorem quiet_alloc (cell : Cell) : Quiet (alloc cell) := fun before =>
  ⟨by simp [alloc, stateAfter], fun a _ => keeps_push before.heap cell a (Nat.zero_le a), rfl, rfl⟩

theorem quiet_newMark : Quiet newMark := fun _ => .of_same rfl rfl rfl

theorem quiet_raiseValue (error : Value) : Quiet (raiseValue error : Run α) := fun _ =>
  .of_same rfl rfl rfl

theorem quiet_raiseArgs (kind : ExceptionKind) (args : List Value) :
    Quiet (raiseArgs kind args : Run α) :=
  (quiet_alloc _).bind fun _ => quiet_raiseValue _

theorem quiet_typeError (message : Text) : Quiet (typeError message : Run α) :=
  quiet_raiseArgs _ _

theorem quiet_typeErrorOf (first : Text) (v : Value) (last : Text) :
    Quiet (typeErrorOf first v last : Run α) := by
  intro before
  obtain ⟨message, same⟩ := typeErrorOf_eq (α := α) first v last before
  exact (quiet_typeError message before).of_eq same

theorem quiet_freshUnmarked (v : Value) : Quiet (freshUnmarked v) := by
  have number (x : Binary64) : Quiet (newNumber x) := by
    unfold newNumber
    split
    · exact quiet_newMark.bind fun _ => .pure _
    · exact .pure _
  have fresh (v : Value) : Quiet (fresh v) := by
    unfold fresh
    split
    · split
      · exact (number _).bind fun _ => .pure _
      · exact .pure _
    · split
      · exact (number _).bind fun _ => (number _).bind fun _ => .pure _
      · exact .pure _
    · exact .pure _
  unfold freshUnmarked
  split
  · dsimp only
    split
    · exact fresh _
    · exact .pure _
  · dsimp only
    split
    · exact fresh _
    · exact .pure _
  · exact .pure _

mutual

/-- What cannot be a key is complained of. -/
theorem quiet_checkHashable (v : Value) : Quiet (checkHashable v) := by
  have complaint (address : Nat) : Quiet (do
      typeError ("unhashable type: '" ++ (← typeName (.ref address)) ++ "'") : Run Unit) :=
    (Quiet.of_reads (reads_typeName _)).bind fun _ => quiet_typeError _
  cases v <;> unfold checkHashable
  case tuple items _ => exact quiet_checkAllHashable items
  case generic items _ => exact quiet_checkAllHashable items
  case oneOf items _ => exact quiet_checkAllHashable items
  case slice => exact quiet_typeError _
  case ref address =>
    refine (Quiet.of_reads (reads_cellAt address)).bind fun cell => ?_
    split
    all_goals first | exact .pure _ | exact complaint address
  all_goals exact .pure _

theorem quiet_checkAllHashable (items : List Value) : Quiet (checkAllHashable items) := by
  cases items with
  | nil => exact .pure _
  | cons v rest =>
    unfold checkAllHashable
    exact (quiet_checkHashable v).bind fun _ => quiet_checkAllHashable rest

end

theorem quiet_entryOf (entries : Array (Value × Value)) (key : Value) :
    Quiet (entryOf entries key) := by
  refine (quiet_checkHashable key).bind fun _ => ?_
  split
  · exact .pure _
  · exact quiet_raiseArgs _ _

theorem reads_isSet (v : Value) : Reads (isSet v) := by
  refine (reads_cell? v).bind fun cell => ?_
  split <;> exact .pure _

theorem reads_dictAt (address : Nat) : Reads (dictAt address) :=
  (reads_entries? _).bind fun _ => .pure _

theorem quiet_takeArguments {intake : Intake}
    (plain : (∃ flag, intake = .nothing flag) ∨ ∃ least most, intake = .span least most)
    (name owner : Text) (args : List Value) (named : List (Text × Value)) :
    Quiet (takeArguments intake name owner args named) := by
  have noNames (words : Text) :
      Quiet (if named.isEmpty then Pure.pure () else typeError words : Run Unit) := by
    split
    · exact .pure _
    · exact quiet_typeError _
  obtain ⟨flag, rfl⟩ | ⟨least, most, rfl⟩ := plain
  · refine (noNames _).bind fun _ => ?_
    dsimp only
    split
    · exact (quiet_typeError _).bind fun _ => .pure _
    · exact .pure _
  · refine (noNames _).bind fun _ => Quiet.bind ?_ fun _ => .pure _
    unfold checkSpan
    split
    · exact quiet_typeError _
    · exact .pure _

/-- Methods that read a dict make at most a view of it or a copy. -/
theorem quiet_readingMethod (m : Interp) {method : Method Nat} (among : method ∈ readingMethods)
    (typeName : String) (dict : Nat) (args : List Value) (named : List (Text × Value)) :
    Quiet (method.call typeName m dict args named) := by
  simp only [readingMethods, List.mem_cons, List.not_mem_nil, or_false] at among
  obtain rfl | rfl | rfl | rfl | rfl := among
  case inl =>
    refine (quiet_takeArguments (.inr ⟨_, _, rfl⟩) _ _ _ _).bind fun args => ?_
    refine (quiet_checkHashable _).bind fun _ => (Quiet.of_reads (reads_dictAt dict)).bind
      fun entries => ?_
    split <;> exact .pure _
  all_goals refine (quiet_takeArguments (.inl ⟨_, rfl⟩) _ _ _ _).bind fun _ => ?_
  case inr.inr.inr.inr =>
    exact (Quiet.of_reads (reads_dictAt dict)).bind fun _ => quiet_alloc _
  all_goals exact quiet_alloc _

theorem quiet_setting? (key : Value) : Quiet (setting? key) := by
  refine (quiet_checkHashable key).bind fun _ => ?_
  cases key <;> exact fun _ => .of_same rfl rfl rfl

/-- The functions of `env`. -/
def settingFunctions : List Builtin := [.envGet, .envInt, .envBool]

theorem quiet_settingFunction (m : Interp) {f : Builtin} (among : f ∈ settingFunctions)
    (args : List Value) (named : List (Text × Value)) : Quiet (callBuiltin m f args named) := by
  have binding (s : Signature Value) : Quiet (bindPlain s args named) := by
    unfold bindPlain
    split
    · exact .pure _
    · exact quiet_typeError _
  simp only [settingFunctions, List.mem_cons, List.not_mem_nil, or_false] at among
  obtain rfl | rfl | rfl := among
  all_goals
    refine (binding _).bind fun bound => (quiet_setting? _).bind fun told => ?_
    split <;> exact .pure _

end Quiet

theorem getAttribute_namespace {w : World} {a : Nat} {entries : List (Text × Value)} {name : Text}
    (found : w.heap[a]? = some (.namespace entries))
    (plain : ∀ object method mark, getNamed? entries name ≠ some (.method object method mark)) :
    getAttribute (.ref a) name w = .ok ((getNamed? entries name).getD .none) w := by
  have read : attribute? (.ref a) name w = .ok (getNamed? entries name) w :=
    bind_of_ok (cellAt_eq found)
  refine (bind_of_ok rfl).trans ((bind_of_ok read).trans ?_)
  cases shown : getNamed? entries name with
  | none => rfl
  | some v => cases v <;> first | rfl | exact absurd shown (plain _ _ _)

theorem getAttribute_proxy {w : World} {a dict : Nat} {name : Text}
    (found : w.heap[a]? = some (.proxy dict)) :
    getAttribute (.ref a) name w = if hasMethod readingMethods name then
      .ok (.method (.ref a) name (w.marks + 1)) { w with marks := w.marks + 1 }
      else .ok .none w := by
  have read : attribute? (.ref a) name w =
      .ok (methodIf (hasMethod readingMethods name) (.ref a) name) w :=
    bind_of_ok (cellAt_eq found)
  refine (bind_of_ok rfl).trans ((bind_of_ok read).trans ?_)
  cases hasMethod readingMethods name <;> rfl

/-- A call of what an object has under a name. -/
def callAttribute (m : Interp) (object : Value) (name : Text) (args : List Value)
    (named : List (Text × Value)) : Run Value := do
  callOther m (← getAttribute object name) args named

end Run

/-- What a script is given for its settings: `process`, `process.env` and `env`. -/
inductive SettingPart where
  | process
  | mapping
  | env
  deriving DecidableEq

/-- The cells of what a script is given for its settings, and of the dict behind `process.env`. -/
structure SettingCells where
  process : Nat
  mapping : Nat
  dict : Nat
  env : Nat

def SettingCells.value (c : SettingCells) : SettingPart → Value
  | .process => .ref c.process
  | .mapping => .ref c.mapping
  | .env => .ref c.env

/-- Whether a cell is one of these. -/
def SettingCells.Owns (c : SettingCells) (address : Nat) : Prop :=
  address = c.process ∨ address = c.mapping ∨ address = c.dict ∨ address = c.env

/-- Settings as values by name. -/
def settingTable (environment : Environment) : Table Value :=
  environment.map fun (name, t) => (name, .text t)

theorem lookup_settingTable (environment : Environment) (name : Text) :
    (settingTable environment).lookup name =
      (Environment.get? environment name).map .text := by
  have setting : Environment.get? environment name = Table.lookup environment name := rfl
  rw [setting]
  clear setting
  induction environment with
  | nil => rfl
  | cons entry rest ih =>
    rw [settingTable, List.map_cons, Table.lookup_cons, Table.lookup_cons, ← settingTable, ih]
    split <;> rfl

/-- The entry under a text key. -/
theorem entry_settingTable (environment : Environment) (name : Text) :
    let entries := textEntries (settingTable environment)
    match Environment.get? environment name with
      | none => (findKey? entries (.text name)).bind (entries[·]?) = none
      | some t => ∃ key, (findKey? entries (.text name)).bind (entries[·]?) =
        some (key, .text t) := by
  intro entries
  have found : ((findKey? entries (.text name)).bind (entries[·]?)).map (·.2) =
      (Environment.get? environment name).map .text := by
    rw [findKey?, ← Array.find?_eq_bind_findIdx?_getElem?, find?_textEntries, lookup_settingTable]
  cases told : Environment.get? environment name with
  | none => rwa [told, Option.map_none, Option.map_eq_none_iff] at found
  | some t =>
    rw [told] at found
    obtain ⟨⟨key, v⟩, isThere, isText⟩ := Option.map_eq_some_iff.mp found
    obtain rfl : v = .text t := isText
    exact ⟨key, isThere⟩

/-- Settings as they are offered to a script. -/
structure Offers (environment : Environment) (c : SettingCells) (w : World) : Prop where
  process : w.heap[c.process]? = some (.namespace [("env", .ref c.mapping)])
  mapping : w.heap[c.mapping]? = some (.proxy c.dict)
  dict : w.heap[c.dict]? =
    some (.dict (textEntries (settingTable environment)) false)
  env : w.heap[c.env]? = some (.namespace settingEntries)
  environment : w.environment = environment

/-- What is offered is offered still when only other cells have changed. -/
theorem Offers.spared {environment : Environment} {c : SettingCells} {before after : World}
    (offers : Offers environment c before) (spares : Spares c.Owns before after) :
    Offers environment c after :=
  ⟨spares.found (.inl rfl) offers.process, spares.found (.inr (.inl rfl)) offers.mapping,
    spares.found (.inr (.inr (.inl rfl))) offers.dict,
    spares.found (.inr (.inr (.inr rfl))) offers.env,
    spares.environment.trans offers.environment⟩

/-- An attempt to write what is given for the settings: items, attributes, the operator that merges
dicts in place, and any method that is not among those for reading. -/
inductive SettingWrite where
  | setItem (part : SettingPart) (key new : Value)
  | eraseItem (part : SettingPart) (key : Value)
  | setAttribute (part : SettingPart) (name : Text) (new : Value)
  | eraseAttribute (part : SettingPart) (name : Text)
  | setattr (part : SettingPart) (name new : Value)
  | delattr (part : SettingPart) (name : Value)
  | merge (operand : Value)
  | method (name : Text) (unread : hasMethod readingMethods name = false) (args : List Value)
      (named : List (Text × Value))

def SettingWrite.run (m : Interp) (c : SettingCells) : SettingWrite → Run Unit
  | .setItem part key new => Run.setItem m (c.value part) key new
  | .eraseItem part key => Run.eraseItem (c.value part) key
  | .setAttribute part name new => Run.setAttribute (c.value part) name new
  | .eraseAttribute part name => Run.eraseAttribute (c.value part) name
  | .setattr part name new => do let _ ← Run.callCore m .setattr [c.value part, name, new] []
  | .delattr part name => do let _ ← Run.callCore m .delattr [c.value part, name] []
  | .merge operand => do let _ ← Run.augment m Run.item .bitOr (c.value .mapping) operand
  | .method name _ args named => do
    let _ ← Run.callAttribute m (c.value .mapping) name args named

/-- What may happen while a script runs: the settings are read, a write is attempted, or any other
cell changes, such as that of the dict from which the settings were taken. -/
inductive SettingAccess (c : SettingCells) where
  | read (part : SettingPart) (name : Text)
  | call (part : SettingPart) (name : Text) (args : List Value) (named : List (Text × Value))
  | item (key : Value)
  | contains (key : Value)
  | length
  | iterator
  | snapshot (part : SettingPart)
  | write (attempt : SettingWrite)
  | change (address : Nat) (isOther : ¬ c.Owns address) (cell : Cell)

def SettingAccess.run {c : SettingCells} (m : Interp) : SettingAccess c → Run Unit
  | .read part name => do let _ ← Run.getAttribute (c.value part) name
  | .call part name args named => do let _ ← Run.callAttribute m (c.value part) name args named
  | .item key => do let _ ← Run.item (c.value .mapping) key
  | .contains key => do let _ ← Run.contains m (c.value .mapping) key
  | .length => do let _ ← Run.lengthOf (c.value .mapping)
  | .iterator => do let _ ← Run.iterator (c.value .mapping)
  | .snapshot part => do let _ ← Run.snapshot (c.value part)
  | .write attempt => attempt.run m c
  | .change address _ cell => Run.setCell address cell

/-- The state after some accesses in turn, whatever came of each. -/
def World.afterAll {c : SettingCells} (m : Interp) (w : World)
    (accesses : List (SettingAccess c)) : World :=
  accesses.foldl (fun w access => Run.stateAfter (access.run m) w) w

namespace Offers

open Run

variable {environment : Environment} {c : SettingCells} {w : World}

/-- What a name of a part reads as. -/
inductive Shown (c : SettingCells) (name : Text) : SettingPart → Value → Prop
  | nothing {part : SettingPart} : Shown c name part .none
  | mapping : Shown c name .process (c.value .mapping)
  | method {mark : Nat} : Shown c name .mapping (.method (c.value .mapping) name mark)
  | function {f : Builtin} : f ∈ settingFunctions → Shown c name .env (.builtin f)

/-- Reading an attribute of a part changes nothing, but that a method gets a mark. -/
theorem getAttribute (offers : Offers environment c w) (part : SettingPart) (name : Text) :
    ∃ v after, Run.getAttribute (c.value part) name w = .ok v after ∧
      Spares (fun _ => True) w after ∧ Shown c name part v := by
  have same : Spares (fun _ => True) w w := .of_same rfl rfl rfl
  cases part with
  | process =>
    have entry (v : Value) (shown : getNamed? [("env", .ref c.mapping)] name = some v) :
        v = .ref c.mapping := by
      have among := Table.mem_of_lookup _ _ _ shown
      rw [List.mem_singleton] at among
      exact congrArg Prod.snd among
    refine ⟨_, w, getAttribute_namespace offers.process fun _ _ _ shown => ?_, same, ?_⟩
    · cases entry _ shown
    · cases shown : getNamed? _ name with
      | none => exact .nothing
      | some v =>
        obtain rfl := entry v shown
        exact .mapping
  | mapping =>
    have read : Run.getAttribute (c.value .mapping) name w = _ := getAttribute_proxy offers.mapping
    split at read
    · exact ⟨_, _, read, .of_same rfl rfl rfl, .method⟩
    · exact ⟨_, _, read, same, .nothing⟩
  | env =>
    have entry (v : Value) (shown : getNamed? settingEntries name = some v) :
        ∃ f ∈ settingFunctions, v = .builtin f := by
      have among := Table.mem_of_lookup _ _ _ shown
      simp only [settingEntries, List.mem_cons, Prod.mk.injEq, List.not_mem_nil, or_false] at among
      obtain ⟨-, rfl⟩ | ⟨-, rfl⟩ | ⟨-, rfl⟩ := among <;> exact ⟨_, by decide, rfl⟩
    refine ⟨_, w, getAttribute_namespace offers.env fun _ _ _ shown => ?_, same, ?_⟩
    · obtain ⟨f, -, isFunction⟩ := entry _ shown
      cases isFunction
    · cases shown : getNamed? _ name with
      | none => exact .nothing
      | some v =>
        obtain ⟨f, among, rfl⟩ := entry v shown
        exact .function among

theorem quiet_callMethod (offers : Offers environment c w) (m : Interp) (name : Text)
    (args : List Value) (named : List (Text × Value)) :
    QuietFrom (callMethod m (c.value .mapping) name args named) w := by
  have bound : boundMethod? (c.value .mapping) name w =
      .ok (boundIn? readingMethods "mappingproxy" c.dict name) w :=
    bind_of_ok (cellAt_eq offers.mapping)
  rw [boundIn?] at bound
  cases found : findMethod? readingMethods name with
  | none =>
    rw [found] at bound
    exact .of_eq (bind_of_ok bound) (Quiet.pure _ _)
  | some method =>
    rw [found] at bound
    exact .of_eq (bind_of_ok bound)
      (quiet_readingMethod m (List.mem_of_find?_eq_some found) _ _ _ _ _)

theorem quiet_callOther (offers : Offers environment c w) (m : Interp) {part : SettingPart}
    {name : Text} {v : Value} (shown : Shown c name part v) (args : List Value)
    (named : List (Text × Value)) : QuietFrom (callOther m v args named) w := by
  cases shown with
  | nothing => exact quiet_typeErrorOf _ _ _ _
  | mapping =>
    exact .of_eq (bind_of_ok (cellAt_eq offers.mapping)) (quiet_typeErrorOf _ _ _ _)
  | method => exact (offers.quiet_callMethod m name args named).bind quiet_freshUnmarked
  | function among => exact quiet_settingFunction m among args named _

theorem quiet_callAttribute (offers : Offers environment c w) (m : Interp) (part : SettingPart)
    (name : Text) (args : List Value) (named : List (Text × Value)) :
    QuietFrom (callAttribute m (c.value part) name args named) w := by
  obtain ⟨v, after, read, spares, shown⟩ := offers.getAttribute part name
  -- What was read is called in a later state, which may have one mark more.
  have later := offers.spared spares.of_all
  have calls := later.quiet_callOther m shown args named
  rw [QuietFrom, stateAfter, callAttribute, bind_of_ok read]
  exact spares.trans calls

theorem cell_of_part (offers : Offers environment c w) (part : SettingPart) :
    ∃ a cell, c.value part = .ref a ∧ w.heap[a]? = some cell ∧
      ((∃ entries, cell = .namespace entries) ∨ ∃ dict, cell = .proxy dict) := by
  cases part with
  | process => exact ⟨_, _, rfl, offers.process, .inl ⟨_, rfl⟩⟩
  | mapping => exact ⟨_, _, rfl, offers.mapping, .inr ⟨_, rfl⟩⟩
  | env => exact ⟨_, _, rfl, offers.env, .inl ⟨_, rfl⟩⟩

/-- A step that first looks at what a part is. -/
theorem run_part {α : Type} {f : Value → Run α} {g : Nat → Cell → Run α} {refusal : Run α}
    (offers : Offers environment c w) (part : SettingPart)
    (reads : ∀ a, f (.ref a) = cellAt a >>= g a)
    (namespace_ : ∀ a entries, g a (.namespace entries) = refusal)
    (proxy : ∀ a dict, g a (.proxy dict) = refusal) : f (c.value part) w = refusal w := by
  obtain ⟨a, cell, isRef, found, shape⟩ := offers.cell_of_part part
  rw [isRef, reads, bind_of_ok (cellAt_eq found)]
  obtain ⟨entries, rfl⟩ | ⟨dict, rfl⟩ := shape
  · rw [namespace_]
  · rw [proxy]

/-- Whatever is attempted is refused. -/
theorem write_refused (offers : Offers environment c w) (m : Interp) (write : SettingWrite) :
    ∃ message, write.run m c w = (typeError message : Run Unit) w := by
  have refused {step : Run Value} {message : Text} (raises : step w = (typeError message) w) :
      (do let _ ← step : Run Unit) w = (typeError message : Run Unit) w := by
    simp only [bind, EStateM.bind, raises]
    rfl
  have unwritable (part : SettingPart) : isWritable (c.value part) w = .ok false w := by
    obtain ⟨a, cell, isRef, found, shape⟩ := offers.cell_of_part part
    have read : cell? (.ref a) w = .ok (some cell) w := bind_of_ok (cellAt_eq found)
    rw [isRef, isWritable, bind_of_ok read]
    obtain ⟨entries, rfl⟩ | ⟨dict, rfl⟩ := shape <;> rfl
  cases write with
  | setItem part key new =>
    exact ⟨_, offers.run_part part (f := fun v => setItem m v key new) (fun _ => rfl)
      (fun _ _ => rfl) fun _ _ => rfl⟩
  | eraseItem part key =>
    exact ⟨_, offers.run_part part (f := fun v => eraseItem v key) (fun _ => rfl)
      (fun _ _ => rfl) fun _ _ => rfl⟩
  | setAttribute part name new =>
    exact ⟨_, offers.run_part part (f := fun v => setAttribute v name new) (fun _ => rfl)
      (fun _ _ => rfl) fun _ _ => rfl⟩
  | eraseAttribute part name =>
    exact ⟨_, offers.run_part part (f := fun v => eraseAttribute v name) (fun _ => rfl)
      (fun _ _ => rfl) fun _ _ => rfl⟩
  | setattr part name new =>
    have bound : bindPlain setattrSignature [c.value part, name, new] [] w =
      .ok [.one (c.value part), .one name, .one new] w := rfl
    exact ⟨_, refused ((bind_of_ok bound).trans ((bind_of_ok (unwritable part)).trans rfl))⟩
  | delattr part name =>
    have bound : bindPlain delattrSignature [c.value part, name] [] w =
      .ok [.one (c.value part), .one name] w := rfl
    exact ⟨_, refused ((bind_of_ok bound).trans ((bind_of_ok (unwritable part)).trans rfl))⟩
  | merge operand =>
    -- Whether the operand is a set is asked first, and does not matter.
    obtain ⟨isSet_, asked⟩ := reads_isSet operand w
    obtain ⟨message, same⟩ := typeErrorOf_eq (α := Value) "'|=' is not supported by "
      (c.value .mapping) "; use '|' instead" w
    refine ⟨message, refused (Eq.trans ?_ same)⟩
    exact (bind_of_ok (cellAt_eq offers.mapping)).trans (bind_of_ok asked)
  | method name unread args named =>
    -- A name that is not among the methods reads as none, which cannot be called.
    obtain ⟨message, same⟩ := typeErrorOf_eq (α := Value) "'" .none "' object is not callable" w
    have read : Run.getAttribute (c.value .mapping) name w = _ := getAttribute_proxy offers.mapping
    rw [unread, if_neg Bool.false_ne_true] at read
    exact ⟨message, refused ((bind_of_ok read).trans same)⟩

theorem entries?_dict (offers : Offers environment c w) : entries? (.ref c.dict) w =
    .ok (some (textEntries (settingTable environment))) w := by
  have read : cell? (.ref c.dict) w = .ok _ w := bind_of_ok (cellAt_eq offers.dict)
  exact bind_of_ok read

/-- An access changes at most other cells. -/
theorem spares_access (offers : Offers environment c w) (m : Interp)
    (access : SettingAccess c) : Spares c.Owns w (stateAfter (access.run m) w) := by
  have quiet {α : Type} {step : Run α} (quiet : QuietFrom step w) :
      Spares c.Owns w (stateAfter (do let _ ← step : Run Unit) w) :=
    (quiet.bind fun _ => .pure ()).of_all
  cases access with
  | read part name =>
    obtain ⟨v, after, read, spares, -⟩ := offers.getAttribute part name
    exact quiet (by rwa [QuietFrom, stateAfter_of_ok read])
  | call part name args named => exact quiet (offers.quiet_callAttribute m part name args named)
  | item key =>
    have same : item (c.value .mapping) key w = entryOf _ key w :=
      (bind_of_ok (cellAt_eq offers.mapping)).trans (bind_of_ok offers.entries?_dict)
    exact quiet (.of_eq same (quiet_entryOf _ _ _))
  | contains key =>
    exact quiet (.of_eq (bind_of_ok (cellAt_eq offers.mapping)) ((quiet_checkHashable key).bind
      (fun _ => (Quiet.of_reads (reads_entries? _)).bind fun _ => .pure _) w))
  | length =>
    have length : length? (c.value .mapping) w = _ :=
      (bind_of_ok (cellAt_eq offers.mapping)).trans (bind_of_ok offers.entries?_dict)
    exact quiet (.of_eq (bind_of_ok length) (Quiet.pure _ w))
  | iterator =>
    exact quiet (.of_eq (bind_of_ok (cellAt_eq offers.mapping))
      ((Quiet.of_reads (reads_entries? _)).bind (fun _ => quiet_alloc _) w))
  | snapshot part => exact quiet (Quiet.of_reads (reads_snapshot _) w)
  | write attempt =>
    obtain ⟨message, same⟩ := offers.write_refused m attempt
    exact (QuietFrom.of_eq same (quiet_typeError _ _)).of_all
  | change address isOther cell =>
    refine ⟨by simp [SettingAccess.run, setCell, stateAfter], fun a owns _ => ?_, rfl, rfl⟩
    exact Array.getElem?_setIfInBounds_ne fun same : address = a => isOther (same ▸ owns)

/-- After any accesses in turn at most other cells have changed. -/
theorem spares_all (offers : Offers environment c w) (m : Interp)
    (accesses : List (SettingAccess c)) : Spares c.Owns w (w.afterAll m accesses) := by
  induction accesses generalizing w with
  | nil => exact .of_same rfl rfl rfl
  | cons access rest ih =>
    -- What is offered is in the cells that an access spares, so it is offered to the next one.
    have spares := offers.spares_access m access
    exact spares.trans (ih (offers.spared spares))

end Offers

/-- What the parts answer for a name that is told in some text, or is not told. -/
structure Answers (m : Interp) (c : SettingCells) (w : World) (name : Text) (told : Option Text) :
    Prop where
  contains : Run.contains m (c.value .mapping) (.text name) w = .ok told.isSome w
  item : ∀ t, told = some t → Run.item (c.value .mapping) (.text name) w = .ok (.text t) w
  missing : told = none → Run.item (c.value .mapping) (.text name) w =
    (Run.raiseArgs .keyError [.text name] : Run Value) w
  mappingGet : ∃ after, Run.callAttribute m (c.value .mapping) "get" [.text name] [] w =
    .ok ((told.map .text).getD .none) after
  get : ∀ d, Run.callAttribute m (c.value .env) "get" [.text name, d] [] w =
    .ok ((told.map .text).getD d) w
  getAlone : Run.callAttribute m (c.value .env) "get" [.text name] [] w =
    .ok ((told.map .text).getD .none) w
  getInt : ∀ d, Run.callAttribute m (c.value .env) "get_int" [.text name, d] [] w =
    .ok (((told.bind Environment.int?).map .int).getD d) w
  getBool : ∀ d, Run.callAttribute m (c.value .env) "get_bool" [.text name, d] [] w =
    .ok ((told.map fun t => .bool (Environment.isYes t)).getD d) w

namespace Offers

open Run

variable {environment : Environment} {c : SettingCells} {w : World}

/-- An item of `process.env` is what is told under its name. -/
theorem item_eq (offers : Offers environment c w) (name : Text) :
    item (c.value .mapping) (.text name) w =
      (match Environment.get? environment name with
        | some t => pure (.text t)
        | none => raiseArgs .keyError [.text name] : Run Value) w := by
  have hashable : checkHashable (.text name) w = .ok () w := rfl
  have entry := entry_settingTable environment name
  refine ((bind_of_ok (cellAt_eq offers.mapping)).trans (bind_of_ok offers.entries?_dict)).trans
    ((bind_of_ok hashable).trans ?_)
  dsimp only [Option.getD_some]
  cases told : Environment.get? environment name with
  | none =>
    rw [told] at entry
    rw [entry]
  | some t =>
    rw [told] at entry
    obtain ⟨key, isThere⟩ := entry
    rw [isThere]

theorem callMethod_get (offers : Offers environment c w) (m : Interp) (name : Text) :
    callMethod m (c.value .mapping) "get" [.text name] [] w =
      .ok (((Environment.get? environment name).map .text).getD .none) w := by
  have bound : boundMethod? (c.value .mapping) "get" w =
      .ok (boundIn? readingMethods "mappingproxy" c.dict "get") w :=
    bind_of_ok (cellAt_eq offers.mapping)
  have taken : takeArguments (.span 1 2) (Text.ofString "get")
      (Text.ofString "mappingproxy" ++ "." ++ Text.ofString "get") [.text name] [] w =
        .ok [some (.text name)] w := rfl
  have hashable : checkHashable (.text name) w = .ok () w := rfl
  have read : dictAt c.dict w = .ok (textEntries (settingTable environment)) w :=
    bind_of_ok offers.entries?_dict
  have entry := entry_settingTable environment name
  refine (bind_of_ok bound).trans ((bind_of_ok taken).trans ((bind_of_ok hashable).trans
    ((bind_of_ok read).trans ?_)))
  have key : argument [some (.text name)] 0 = .text name := rfl
  rw [key]
  cases told : Environment.get? environment name with
  | none =>
    rw [told] at entry
    rw [entry]
    rfl
  | some t =>
    rw [told] at entry
    obtain ⟨key, isThere⟩ := entry
    rw [isThere]
    rfl

/-- The settings answer by what they are told. -/
theorem answers (offers : Offers environment c w) (m : Interp) (name : Text) :
    Answers m c w name (Environment.get? environment name) := by
  have told : setting? (.text name) w = .ok (Environment.get? environment name) w := by
    rw [← offers.environment]
    rfl
  have hashable : checkHashable (.text name) w = .ok () w := rfl
  have ask {word : Text} {f : Builtin} {args : List Value} {bound : List (Bound Value)}
      (is : getNamed? settingEntries word = some (.builtin f))
      (binds : callBuiltin m f args [] w = callHost m f bound w) :
      callAttribute m (c.value .env) word args [] w = callHost m f bound w := by
    have read : Run.getAttribute (c.value .env) word w = _ :=
      getAttribute_namespace offers.env fun _ _ _ shown => by cases is.symm.trans shown
    rw [is] at read
    exact (bind_of_ok read).trans binds
  have get (d : Value) : callHost m .envGet [.one (.text name), .one d] w =
      .ok (((Environment.get? environment name).map .text).getD d) w := by
    refine (bind_of_ok told).trans ?_
    cases Environment.get? environment name <;> rfl
  constructor
  case contains =>
    refine (bind_of_ok (cellAt_eq offers.mapping)).trans ((bind_of_ok hashable).trans
      ((bind_of_ok offers.entries?_dict).trans ?_))
    have isThere : (findKey? (textEntries (settingTable environment)) (.text name)).isSome =
        (Environment.get? environment name).isSome := by
      rw [findKey?_textEntries, Bool.eq_iff_iff, Option.isSome_iff_ne_none,
        Option.isSome_iff_ne_none, ne_eq, ne_eq, Table.findIdx?_eq_none_iff,
        ← Table.lookup_eq_none_iff, lookup_settingTable, Option.map_eq_none_iff]
    exact congrArg (fun there : Bool => EStateM.Result.ok there w) isThere
  case item =>
    intro t isTold
    rw [offers.item_eq, isTold]
    rfl
  case missing =>
    intro untold
    rw [offers.item_eq, untold]
  case mappingGet =>
    have read : Run.getAttribute (c.value .mapping) "get" w = _ := getAttribute_proxy offers.mapping
    -- The method gets a mark when it is read.
    let marked := { w with marks := w.marks + 1 }
    have later : Offers environment c marked := offers.spared (.of_same rfl rfl rfl)
    refine ⟨marked, (bind_of_ok read).trans ((bind_of_ok (later.callMethod_get m name)).trans ?_)⟩
    cases Environment.get? environment name <;> rfl
  case get => exact fun d => (ask rfl (bind_of_ok rfl)).trans (get d)
  case getAlone => exact (ask rfl (bind_of_ok rfl)).trans (get .none)
  case getInt =>
    refine fun d => (ask rfl (bind_of_ok rfl)).trans ((bind_of_ok told).trans ?_)
    cases (Environment.get? environment name).bind Environment.int? <;> rfl
  case getBool =>
    refine fun d => (ask rfl (bind_of_ok rfl)).trans ((bind_of_ok told).trans ?_)
    cases Environment.get? environment name <;> rfl

end Offers

namespace Run

/-- What a script is given for its settings is among the names of its context, in new cells. -/
theorem contextGlobals_offers (environment : Environment) (hasChannel : Bool) (before : World) :
    ∃ context after c, contextGlobals environment hasChannel before = .ok context after ∧
      getNamed? context "process" = some (c.value .process) ∧
      getNamed? context "env" = some (c.value .env) ∧
      (∀ a, c.Owns a → before.heap.size ≤ a) ∧
      Offers environment c { after with environment } := by
  -- The cells in the order in which they are made.
  let start := (before.heap.push (.dict #[] true)).push (.namespace promiseEntries)
  let dict := start.push (.dict (textEntries (settingTable environment)) false)
  let mapping := dict.push (.proxy start.size)
  let process := mapping.push (.namespace [("env", .ref dict.size)])
  let c : SettingCells := ⟨mapping.size, dict.size, start.size, process.size⟩
  let env := process.push (.namespace settingEntries)
  obtain ⟨service, after, ran, grows, -, -⟩ :=
    serviceGlobals_gives hasChannel { before with heap := env }
  have entries : (environment.map fun (name, t) => (Value.text name, Value.text t)).toArray =
      textEntries (settingTable environment) := by
    rw [textEntries, settingTable, List.map_map]
    rfl
  have made : newProcess environment { before with heap := start } =
      .ok (c.value .process) { before with heap := process } := by
    rw [newProcess, newDict, entries]
    rfl
  have kept {heap : Array Cell} {a : Nat} {cell : Cell} (keeps : Keeps 0 heap.size heap env)
      (found : heap[a]? = some cell) : after.heap[a]? = some cell :=
    grows.keeps.found (Nat.zero_le a) (keeps.found (Nat.zero_le a) found)
  have processKept : Keeps 0 process.size process env := keeps_push _ _
  have mappingKept : Keeps 0 mapping.size mapping env :=
    (keeps_push mapping _).trans (processKept.mono le_rfl (by simp [process]))
  have dictKept : Keeps 0 dict.size dict env :=
    (keeps_push dict _).trans (mappingKept.mono le_rfl (by simp [mapping]))
  refine ⟨_, after, c, (bind_of_ok rfl).trans ((bind_of_ok rfl).trans ((bind_of_ok made).trans
    ((bind_of_ok rfl).trans ((bind_of_ok ran).trans rfl)))), rfl, rfl, fun a owns => ?_,
    kept processKept Array.getElem?_push_size, kept mappingKept Array.getElem?_push_size,
    kept dictKept Array.getElem?_push_size,
    grows.keeps.found (Nat.zero_le _) Array.getElem?_push_size, rfl⟩
  simp only [SettingCells.Owns, c, process, mapping, dict, start, Array.size_push] at owns
  omega

end Run

theorem getNamed?_append {α : Type} (entries others : List (Text × α)) (name : Text) :
    getNamed? (entries ++ others) name = (getNamed? entries name).or (getNamed? others name) := by
  rw [getNamed?, List.find?_append, Option.map_or]
  rfl

/-- A run offers its settings under `process` and `env`, unless a module takes these names. -/
theorem Surroundings.prepare_offers (s : Surroundings) (w : World) : ∃ ready c,
    Run.prepare s w = .ok () ready ∧ (∀ a, c.Owns a → w.heap.size ≤ a) ∧
      Offers s.environment c ready ∧
      (¬ s.Shelves "process" → ready.found? "process" = some (c.value .process)) ∧
      (¬ s.Shelves "env" → ready.found? "env" = some (c.value .env)) := by
  let reading := { w with heap := w.heap.push plainJson }
  obtain ⟨context, between, c, ran, process, env, above, offers⟩ :=
    Run.contextGlobals_offers s.environment s.hasChannel reading
  obtain ⟨ready, added, shelved⟩ := Run.addModules_shelved s.shelf s.extraModules _
  refine ⟨ready, c, (Run.bind_of_ok rfl).trans ((Run.bind_of_ok ran).trans
    ((Run.bind_of_ok rfl).trans added)), fun a owns => ?_, ?_, fun isNot => ?_, fun isNot => ?_⟩
  · have below := above a owns
    simp only [reading, Array.size_push] at below
    omega
  · exact { process := shelved.keeps.found (Nat.zero_le _) offers.process
            mapping := shelved.keeps.found (Nat.zero_le _) offers.mapping
            dict := shelved.keeps.found (Nat.zero_le _) offers.dict
            env := shelved.keeps.found (Nat.zero_le _) offers.env
            environment := shelved.environment }
  · rw [World.found?, shelved.left "process" isNot]
    dsimp only
    rw [getNamed?_append, process]
    rfl
  · rw [World.found?, shelved.left "env" isNot]
    dsimp only
    rw [getNamed?_append, env]
    rfl

/-- What the functions of `env` make of a member of the settings, whatever the default: a text, an
integer and a truth value are as they were in the message, and what is left out or null is not
there. -/
structure Restores (m : Interp) (c : SettingCells) (w : World) (name : Text)
    (member : Option Json) : Prop where
  text : ∀ t, member = some (.string t) →
    Run.callAttribute m (c.value .env) "get" [.text name] [] w = .ok (.text t) w ∧
    ∀ d, Run.callAttribute m (c.value .env) "get" [.text name, d] [] w = .ok (.text t) w
  int : ∀ n, member = some (.int n) →
    ∀ d, Run.callAttribute m (c.value .env) "get_int" [.text name, d] [] w = .ok (.int n) w
  bool : ∀ b, member = some (.bool b) →
    ∀ d, Run.callAttribute m (c.value .env) "get_bool" [.text name, d] [] w = .ok (.bool b) w
  absent : Invocation.Absent member →
    Run.contains m (c.value .mapping) (.text name) w = .ok false w ∧
    ∀ d, ∀ word ∈ (["get", "get_int", "get_bool"] : List Text),
      Run.callAttribute m (c.value .env) word [.text name, d] [] w = .ok d w

/-- What answers by what a member is told gives the member back. -/
theorem Answers.restores {m : Interp} {c : SettingCells} {w : World} {name : Text}
    {member : Option Json} (answers : Answers m c w name (Invocation.told? member))
    (limited : ∀ value, member = some value → Json.Limited value) :
    Restores m c w name member where
  text t isText := by
    subst isText
    exact ⟨answers.getAlone, answers.get⟩
  int n isInt d := by
    subst isInt
    have told : Invocation.told? (some (.int n)) = some (Datum.ofJson (.int n)).plain := rfl
    have answer := answers.getInt d
    rwa [told, Option.bind_some, Invocation.int?_told (limited _ rfl)] at answer
  bool b isBool d := by
    subst isBool
    have told : Invocation.told? (some (.bool b)) = some (Datum.ofJson (.bool b)).plain := rfl
    have answer := answers.getBool d
    rwa [told, Option.map_some, Invocation.isYes_told] at answer
  absent isAbsent := by
    have untold : Invocation.told? member = none := by
      rcases isAbsent with rfl | rfl <;> rfl
    rw [untold] at answers
    refine ⟨answers.contains, fun d word among => ?_⟩
    simp only [List.mem_cons, List.not_mem_nil, or_false] at among
    obtain rfl | rfl | rfl := among
    · exact answers.get d
    · exact answers.getInt d
    · exact answers.getBool d

end Machine

namespace Invocation

open Machine

/-- The settings of a message come to its script as they were sent. `process.env` and `env` have
exactly those that are not null, and `env` reads texts, integers and truth values as they were in
the message. Whatever has been asked, attempted or changed outside before, every attempt to write
fails, and the answers are the same. -/
theorem settings_answer_as_sent {phase : Phase} {message : Message} {i : Invocation} {t : Text}
    {members settings : List (Text × Json)} (accepted : ofMessage (some phase) message = .ok i)
    (decoded : textOf message = .ok t) (reads : Json.read t = .ok (.object members))
    (given : Json.get? members "env" = some (.object settings)) (engine : Engine) (w : World) :
    ∃ ready c, Run.prepare (i.surroundings engine) w = .ok () ready ∧
      (¬ (i.surroundings engine).Shelves "process" →
        ready.found? "process" = some (c.value .process)) ∧
      (¬ (i.surroundings engine).Shelves "env" → ready.found? "env" = some (c.value .env)) ∧
      (∀ a < w.heap.size, ¬ c.Owns a) ∧
      ∀ (m : Interp) (accesses : List (SettingAccess c)),
        let later := ready.afterAll m accesses
        later.globals = ready.globals ∧
        Run.getAttribute (c.value .process) "env" later = .ok (c.value .mapping) later ∧
        (∀ write : SettingWrite, ∃ complaint,
          write.run m c later = (Run.typeError complaint : Run Unit) later) ∧
        ∀ name, Answers m c later name (told? (Json.get? settings name)) ∧
          Restores m c later name (Json.get? settings name) := by
  have described : ofMembers (some phase) members = .ok i := by
    rw [ofMessage, decoded] at accepted
    dsimp only at accepted
    rwa [reads] at accepted
  have limited := (Json.limitedMembers_iff members).mp (Json.held_of_read t _ reads).1.1 _
    (Table.mem_of_lookup members "env" _ given)
  have environment : Settings settings i.environment := by
    obtain ⟨isAbsent, -⟩ | ⟨settings', same, told⟩ :=
      ((ofMembers_eq_ok_iff phase members i).mp described).2.environment
    · rw [given] at isAbsent
      rcases isAbsent with isAbsent | isAbsent <;> cases isAbsent
    · rw [given] at same
      obtain rfl : settings = settings' := Json.object.inj (Option.some.inj same)
      exact told
  obtain ⟨ready, c, ran, above, offers, process, env⟩ := (i.surroundings engine).prepare_offers w
  refine ⟨ready, c, ran, process, env,
    fun a inside owns => absurd (above a owns) (Nat.not_le_of_lt inside), fun m accesses => ?_⟩
  have spares := offers.spares_all m accesses
  have later := offers.spared spares
  refine ⟨spares.globals,
    Run.getAttribute_namespace later.process (fun _ _ _ shown => by cases shown),
    fun write => later.write_refused m write, fun name => ?_⟩
  have answers := later.answers m name
  rw [show (i.surroundings engine).environment = i.environment from rfl,
    environment.get?_eq limited.2] at answers
  exact ⟨answers, answers.restores fun value isThere =>
    (Json.limitedMembers_iff settings).mp limited.1 _ (Table.mem_of_lookup settings name _ isThere)⟩

/-- A message with an integer, a truth value, a null and a text among its settings, and what its
script makes of them at any time. -/
theorem sentSettings_answer :
    let t : Text := "\x7b\"env\":\x7b\"N\":-7,\"B\":true,\"Z\":null,\"S\":\"on\"\x7d\x7d"
    ∃ i ready c, ofMessage (some .validate) (.text t) = .ok i ∧
      Run.prepare (i.surroundings default) default = .ok () ready ∧
      ready.found? "env" = some (c.value .env) ∧
      ∀ (m : Interp) (accesses : List (SettingAccess c)) (d : Value),
        let ask (word name : Text) :=
          Run.callAttribute m (c.value .env) word [.text name, d] [] (ready.afterAll m accesses)
        ask "get_int" "N" = .ok (.int (-7)) (ready.afterAll m accesses) ∧
        ask "get_bool" "B" = .ok (.bool true) (ready.afterAll m accesses) ∧
        ask "get" "B" = .ok (.text "True") (ready.afterAll m accesses) ∧
        ask "get" "Z" = .ok d (ready.afterAll m accesses) ∧
        ask "get" "S" = .ok (.text "on") (ready.afterAll m accesses) := by
  intro t
  let settings : List (Text × Json) :=
    [("N", .int (-7)), ("B", .bool true), ("Z", .null), ("S", .string "on")]
  have reads : Json.read t = .ok (.object [("env", .object settings)]) :=
    Json.read_of_readsAs _ _ (by decide +kernel)
  have accepts : (ofMessage (some .validate) (.text t)).isOk = true := by decide +kernel
  cases accepted : ofMessage (some .validate) (.text t) with
  | error fault =>
    rw [accepted] at accepts
    cases accepts
  | ok i =>
    obtain ⟨ready, c, ran, -, env, -, later⟩ :=
      settings_answer_as_sent accepted rfl reads rfl default default
    refine ⟨i, ready, c, rfl, ran, env (fun shelves => nomatch shelves.1), fun m accesses d => ?_⟩
    obtain ⟨-, -, -, names⟩ := later m accesses
    exact ⟨(names "N").2.int (-7) rfl d, (names "B").2.bool true rfl d, (names "B").1.get d,
      ((names "Z").2.absent (.inr rfl)).2 d "get" List.mem_cons_self,
      ((names "S").2.text "on" rfl).2 d⟩

end Invocation

end PhaseScript
