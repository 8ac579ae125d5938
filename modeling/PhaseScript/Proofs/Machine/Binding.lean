import PhaseScript.Proofs.Machine.HandlerCall
import PhaseScript.Proofs.Machine.Sandbox
import PhaseScript.Proofs.Table
/-
How a phase calls its handler. Arguments by position bind if they are no fewer than the parameters
that must have one, no more than there are places for, and no parameter must be given by name. A
handler is given the context, in a dict made for the call, if it has a place for it; that is the
call that binds if any does.
-/
set_option autoImplicit false

namespace PhaseScript

namespace Signature

variable {α : Type} (s : Signature α)

/-- The parameters that a call must fill by position. -/
def required : List (FormalParameter α) := s.positional.filter fun p => p.default.isNone

/-- The parameters that a call must fill by name. -/
def requiredNamed : List (FormalParameter α) := s.keywordOnly.filter fun p => p.default.isNone

/-- The rules for the parameters of a function: each has a name of its own, and one that may be left
out is followed, among those by position, by such ones only. -/
structure Proper : Prop where
  distinct : (s.parameters.map (·.name)).Nodup
  defaultsLast : s.positional.Pairwise fun p q => p.default.isSome = true → q.default.isSome = true

variable {s}

theorem lookup_eq (found : Found α) (name : Text) :
    lookup found name = Table.lookup found.values name := rfl

/-- Nothing is found under a name that no parameter has. -/
theorem lookup_zip_of_notMem (places : List (FormalParameter α)) (args : List α) (name : Text)
    (absent : name ∉ places.map (·.name)) :
    lookup ⟨(places.map (·.name)).zip args, []⟩ name = none := by
  rw [lookup_eq, Table.lookup_eq_none_iff]
  intro among
  obtain ⟨entry, inside, rfl⟩ := List.mem_map.mp among
  exact absent (List.of_mem_zip inside).1

/-- Of the parameters by position those are left unfilled that come after the arguments. -/
theorem unfilled_zip (places : List (FormalParameter α)) (args : List α)
    (distinct : (places.map (·.name)).Nodup) :
    unfilled ⟨(places.map (·.name)).zip args, []⟩ places =
      ((places.drop args.length).filter fun p => p.default.isNone).map (·.name) := by
  induction places generalizing args with
  | nil => simp [unfilled]
  | cons p rest ih =>
    cases args with
    | nil => simp [unfilled, lookup_eq, Table.lookup_nil]
    | cons a args =>
      rw [List.map_cons, List.nodup_cons] at distinct
      rw [List.length_cons, List.drop_succ_cons, ← ih args distinct.2]
      have others : ∀ q ∈ rest, lookup ⟨(p.name, a) :: (rest.map (·.name)).zip args, []⟩ q.name =
          lookup ⟨(rest.map (·.name)).zip args, []⟩ q.name := by
        intro q among
        rw [lookup_eq, lookup_eq, Table.lookup_cons, if_neg]
        rw [beq_iff_eq]
        intro same
        exact distinct.1 (same ▸ List.mem_map_of_mem among)
      rw [unfilled, unfilled, List.map_cons, List.zip_cons_cons, List.filter_cons]
      rw [lookup_eq, Table.lookup_cons, if_pos (beq_self_eq_true p.name)]
      refine congrArg (List.map _) (List.filter_congr fun q among => ?_)
      rw [others q among]

/-- Parameters that must be given by name are left unfilled by any arguments. -/
theorem unfilled_keywordOnly (proper : s.Proper) (args : List α) :
    unfilled ⟨(s.positional.map (·.name)).zip args, []⟩ s.keywordOnly =
      s.requiredNamed.map (·.name) := by
  refine congrArg (List.map _) (List.filter_congr fun p among => ?_)
  obtain ⟨inside, isKeyword⟩ := List.mem_filter.mp among
  rw [lookup_zip_of_notMem]
  · rfl
  · intro shared
    obtain ⟨q, isPlace, same⟩ := List.mem_map.mp shared
    obtain ⟨inside', isPlace⟩ := List.mem_filter.mp isPlace
    obtain rfl := List.inj_on_of_nodup_map proper.distinct inside' inside same
    rw [beq_iff_eq] at isKeyword
    rw [isPositional, isKeyword] at isPlace
    cases isPlace

/-- As those that must be filled come first, arguments fill them if they are as many. -/
theorem filter_drop_eq_nil_iff (places : List (FormalParameter α)) (count : Nat)
    (defaultsLast : places.Pairwise fun p q => p.default.isSome = true → q.default.isSome = true) :
    (places.drop count).filter (fun p => p.default.isNone) = [] ↔
      (places.filter fun p => p.default.isNone).length ≤ count := by
  induction places generalizing count with
  | nil => simp
  | cons p rest ih =>
    rw [List.pairwise_cons] at defaultsLast
    cases count with
    | zero => rw [List.drop_zero, Nat.le_zero, List.length_eq_zero_iff]
    | succ count =>
      rw [List.drop_succ_cons, ih count defaultsLast.2]
      cases given : p.default with
      | none =>
        rw [List.filter_cons_of_pos (by rw [given]; rfl), List.length_cons, Nat.succ_le_succ_iff]
      | some value =>
        have nothing : rest.filter (fun p => p.default.isNone) = [] := by
          refine List.filter_eq_nil_iff.mpr fun q among => ?_
          have filled := defaultsLast.1 q among (by rw [given]; rfl)
          rw [Option.isNone_eq_false_iff.mpr filled]
          exact Bool.false_ne_true
        rw [List.filter_cons_of_neg (by rw [given]; exact Bool.false_ne_true), nothing]
        exact iff_of_true (Nat.zero_le _) (Nat.zero_le _)

/-- Arguments by position bind if there are enough of them and not too many, and nothing must be
given by name. -/
theorem bind_eq_ok_iff (proper : s.Proper) (args : List α) :
    (∃ bound, s.bind args [] = .ok bound) ↔
      s.required.length ≤ args.length ∧
      (args.length ≤ s.positional.length ∨ s.hasVariadic = true) ∧
      s.requiredNamed = [] := by
  have distinct : (s.positional.map (·.name)).Nodup :=
    proper.distinct.sublist ((List.filter_sublist (p := isPositional)).map _)
  have filled := filter_drop_eq_nil_iff s.positional args.length proper.defaultsLast
  rw [required, ← filled]
  unfold bind
  simp only [takeNamed, Bind.bind, Except.bind, pure, Except.pure, unfilled_zip _ _ distinct,
    unfilled_keywordOnly proper]
  have refused (misfit : Misfit) :
      ¬ ∃ bound, (Except.error misfit : Except Misfit (List (Bound α))) = .ok bound := by
    rintro ⟨bound, impossible⟩
    cases impossible
  -- The three refusals in turn: too many, too few, and some that must be given by name.
  by_cases crowded : (decide (s.positional.length < args.length) && !s.hasVariadic) = true
  · rw [if_pos crowded]
    rw [Bool.and_eq_true, decide_eq_true_eq, Bool.not_eq_true'] at crowded
    refine iff_of_false (refused _) ?_
    rintro ⟨-, fits | variadic, -⟩
    · omega
    · exact Bool.false_ne_true (crowded.2.symm.trans variadic)
  have fits : args.length ≤ s.positional.length ∨ s.hasVariadic = true := by
    rw [Bool.and_eq_true, decide_eq_true_eq, Bool.not_eq_true', not_and,
      Bool.not_eq_false] at crowded
    exact or_iff_not_imp_left.mpr fun more => crowded (by omega)
  rw [if_neg crowded]
  cases few : (s.positional.drop args.length).filter fun p => p.default.isNone with
  | cons p rest =>
    exact iff_of_false (refused _) fun both => List.cons_ne_nil p rest both.1
  | nil =>
    cases byName : s.requiredNamed with
    | cons p rest =>
      exact iff_of_false (refused _) fun both => List.cons_ne_nil p rest both.2.2
    | nil => exact iff_of_true ⟨_, rfl⟩ ⟨rfl, fits, rfl⟩

/-- Whether a call may hand over an argument by position. -/
theorem takesPositional_iff :
    s.takesPositional = true ↔ 0 < s.positional.length ∨ s.hasVariadic = true := by
  rw [takesPositional, hasVariadic, positional, List.length_pos_iff_exists_mem, List.any_eq_true,
    List.any_eq_true]
  constructor
  · rintro ⟨p, inside, takes⟩
    rcases Bool.or_eq_true_iff.mp takes with isPlace | variadic
    · exact .inl ⟨p, List.mem_filter.mpr ⟨inside, isPlace⟩⟩
    · exact .inr ⟨p, inside, variadic⟩
  · rintro (⟨p, isPlace⟩ | ⟨p, inside, variadic⟩)
    · obtain ⟨inside, isPlace⟩ := List.mem_filter.mp isPlace
      exact ⟨p, inside, Bool.or_eq_true_iff.mpr (.inl isPlace)⟩
    · exact ⟨p, inside, Bool.or_eq_true_iff.mpr (.inr variadic)⟩

/-- One argument if there is a place for it, and none otherwise. -/
def offered (s : Signature α) (a : α) : List α :=
  if 0 < s.positional.length ∨ s.hasVariadic = true then [a] else []

/-- Whether arguments by position bind. -/
def Binds (s : Signature α) (args : List α) : Prop := ∃ bound, s.bind args [] = .ok bound

/-- What is offered binds exactly if not more than one argument must be given, and none by name. -/
theorem binds_offered_iff (proper : s.Proper) (a : α) :
    s.Binds (s.offered a) ↔ s.required.length ≤ 1 ∧ s.requiredNamed = [] := by
  have fewer : s.required.length ≤ s.positional.length := List.length_filter_le _ _
  rw [Binds, bind_eq_ok_iff proper, offered]
  split
  · next takes => exact ⟨fun both => ⟨both.1, both.2.2⟩, fun both => ⟨both.1, takes, both.2⟩⟩
  · next refuses =>
    rw [not_or] at refuses
    refine ⟨fun both => ⟨by omega, both.2.2⟩, fun both => ⟨?_, .inl (Nat.zero_le _), both.2⟩⟩
    rw [List.length_nil]
    omega

/-- What is offered binds if either one argument or none does. -/
theorem binds_offered_of_either (proper : s.Proper) (a : α)
    (either : s.Binds [a] ∨ s.Binds []) : s.Binds (s.offered a) := by
  rw [binds_offered_iff proper]
  rcases either with one | none
  · exact ⟨((bind_eq_ok_iff proper _).mp one).1, ((bind_eq_ok_iff proper _).mp one).2.2⟩
  · have few := ((bind_eq_ok_iff proper _).mp none).1
    exact ⟨few.trans (Nat.zero_le 1), ((bind_eq_ok_iff proper _).mp none).2.2⟩

end Signature

namespace Machine

/-- A function of a script. -/
structure ScriptFunction where
  shape : Script.FunctionShape
  body : List Script.Code
  outer : Option Nat
  defaults : List Value
  namedDefaults : List (Text × Value)

namespace ScriptFunction

variable (f : ScriptFunction)

/-- The function as a cell of the heap. -/
def cell : Cell := .function f.shape f.body f.outer f.defaults f.namedDefaults

def signature : Signature Value :=
  ⟨f.shape.fullName, Run.formalParameters f.namedDefaults f.shape.parameters f.defaults⟩

/-- Whether a call with these arguments gets as far as the body. -/
def BindsIn (args : List Value) (w : World) : Prop :=
  ∃ values after, Run.bindCall f.shape f.defaults f.namedDefaults args [] w = .ok values after

end ScriptFunction

namespace Run

open Signature (Misfit)

/-- A state that may have more cells than one before, with nothing sent in between. -/
structure Extends (before after : World) : Prop where
  size_le : before.heap.size ≤ after.heap.size
  keeps : Keeps 0 before.heap.size before.heap after.heap
  exchange : after.exchange = before.exchange
  channel : after.channel = before.channel

theorem Extends.of_same {before after : World} (heap : after.heap = before.heap)
    (exchange : after.exchange = before.exchange) (channel : after.channel = before.channel) :
    Extends before after := ⟨heap ▸ le_rfl, fun _ _ _ => heap ▸ rfl, exchange, channel⟩

theorem Extends.trans {first second third : World} (one : Extends first second)
    (two : Extends second third) : Extends first third :=
  ⟨one.size_le.trans two.size_le, one.keeps.trans (two.keeps.mono le_rfl one.size_le),
    two.exchange.trans one.exchange, two.channel.trans one.channel⟩

/-- A step that gives something, whatever the state, changes no cell that is there, and sends
nothing. -/
def OnlyAdds {α : Type} (step : Run α) : Prop :=
  ∀ before, ∃ a after, step before = .ok a after ∧ Extends before after

namespace OnlyAdds

variable {α β : Type}

theorem pure (a : α) : OnlyAdds (Pure.pure a) := fun _ => ⟨_, _, rfl, .of_same rfl rfl rfl⟩

theorem bind {step : Run α} {next : α → Run β} (adds : OnlyAdds step)
    (goesOn : ∀ a, OnlyAdds (next a)) : OnlyAdds (step >>= next) := by
  intro before
  obtain ⟨a, between, ran, first⟩ := adds before
  obtain ⟨b, after, ran', second⟩ := goesOn a between
  exact ⟨b, after, (bind_of_ok ran).trans ran', first.trans second⟩

theorem mapM {f : α → Run β} (adds : ∀ a, OnlyAdds (f a)) (l : List α) : OnlyAdds (l.mapM f) := by
  induction l with
  | nil => exact pure []
  | cons a rest ih =>
    rw [List.mapM_cons]
    exact (adds a).bind fun _ => ih.bind fun _ => pure _

/-- What is in the heap before is there still. -/
theorem finds_cell {step : Run α} (adds : OnlyAdds step) (before : World) :
    ∃ a after, step before = .ok a after ∧ ∀ (address : Nat) (cell : Cell),
      before.heap[address]? = some cell → after.heap[address]? = some cell := by
  obtain ⟨a, after, ran, extends_⟩ := adds before
  refine ⟨a, after, ran, fun address cell found => ?_⟩
  have inside : address < before.heap.size := (Array.getElem?_eq_some_iff.mp found).1
  exact (extends_.keeps address (Nat.zero_le _) inside).trans found

end OnlyAdds

theorem onlyAdds_alloc (cell : Cell) : OnlyAdds (alloc cell) := by
  intro before
  refine ⟨_, _, rfl, ?_, keeps_push _ _, rfl, rfl⟩
  rw [Array.size_push]
  exact Nat.le_succ _

theorem onlyAdds_newMark : OnlyAdds newMark := fun _ => ⟨_, _, rfl, .of_same rfl rfl rfl⟩

theorem onlyAdds_newTuple (items : List Value) : OnlyAdds (newTuple items) :=
  onlyAdds_newMark.bind fun _ => .pure _

theorem onlyAdds_fresh (v : Value) : OnlyAdds (fresh v) := by
  have number (x : Binary64) : OnlyAdds (newNumber x) := by
    unfold newNumber
    split
    · exact onlyAdds_newMark.bind fun _ => .pure _
    · exact .pure _
  unfold fresh
  split
  · split
    · exact (number _).bind fun _ => .pure _
    · exact .pure _
  · split
    · exact (number _).bind fun _ => (number _).bind fun _ => .pure _
    · exact .pure _
  · exact .pure _

mutual

theorem onlyAdds_ofDatum (d : Datum) : OnlyAdds (ofDatum d) := by
  cases d <;> unfold ofDatum
  case float => exact onlyAdds_fresh _
  case complex => exact onlyAdds_fresh _
  case list items => exact (onlyAdds_ofData items).bind fun _ => onlyAdds_alloc _
  case tuple items => exact (onlyAdds_ofData items).bind fun _ => onlyAdds_newTuple _
  case set items => exact (onlyAdds_ofData items).bind fun _ => onlyAdds_alloc _
  case dict entries => exact (onlyAdds_ofEntries entries).bind fun _ => onlyAdds_alloc _
  case exception args details =>
    exact (onlyAdds_ofData args).bind fun _ => (onlyAdds_ofDetails details).bind fun _ =>
      onlyAdds_alloc _
  case promise payload =>
    exact (onlyAdds_ofDatum payload).bind fun _ _ => ⟨_, _, rfl, .of_same rfl rfl rfl⟩
  case response headers => exact (onlyAdds_ofDatum headers).bind fun _ => .pure _
  all_goals first | exact .pure _ | exact onlyAdds_alloc _

theorem onlyAdds_ofData (data : List Datum) : OnlyAdds (ofData data) := by
  cases data with
  | nil => exact .pure _
  | cons d rest =>
    unfold ofData
    exact (onlyAdds_ofDatum d).bind fun _ => (onlyAdds_ofData rest).bind fun _ => .pure _

theorem onlyAdds_ofDetails (details : List (Text × Datum)) : OnlyAdds (ofDetails details) := by
  cases details with
  | nil => exact .pure _
  | cons detail rest =>
    obtain ⟨name, d⟩ := detail
    unfold ofDetails
    exact (onlyAdds_ofDatum d).bind fun _ => (onlyAdds_ofDetails rest).bind fun _ => .pure _

/-- Values can be made of any entries. -/
theorem onlyAdds_ofEntries (entries : List (Datum × Datum)) : OnlyAdds (ofEntries entries) := by
  cases entries with
  | nil => exact .pure _
  | cons entry rest =>
    obtain ⟨k, v⟩ := entry
    unfold ofEntries
    exact (onlyAdds_ofDatum k).bind fun _ => (onlyAdds_ofDatum v).bind fun _ =>
      (onlyAdds_ofEntries rest).bind fun _ => .pure _

end

theorem onlyAdds_parameterValue (b : Bound Value) : OnlyAdds (parameterValue b) := by
  cases b with
  | one v => exact .pure _
  | row values => exact onlyAdds_newTuple _
  | named entries => exact onlyAdds_alloc _

/-- Parameters keep their names and kinds when they get their defaults. -/
theorem map_formalParameters {β : Type} (view : Text → ParameterKind → β)
    (namedDefaults : List (Text × Value)) (parameters : List (Text × ParameterKind × Bool))
    (defaults : List Value) :
    (formalParameters namedDefaults parameters defaults).map (fun p => view p.name p.kind) =
      parameters.map fun (name, kind, _) => view name kind := by
  induction parameters generalizing defaults with
  | nil => rfl
  | cons parameter rest ih =>
    obtain ⟨name, kind, hasDefault⟩ := parameter
    unfold formalParameters
    split
    · rw [List.map_cons, List.map_cons, ih]
    · split <;> rw [List.map_cons, List.map_cons, ih]

end Run

namespace ScriptFunction

variable {f : ScriptFunction}

theorem all_parameters (test : ParameterKind → Bool) :
    (f.signature.parameters.all fun p => test p.kind) =
      f.shape.parameters.all fun (_, kind, _) => test kind := by
  have kinds := Run.map_formalParameters (fun _ kind => test kind) f.namedDefaults
    f.shape.parameters f.defaults
  have shown := congrArg (List.all · id) kinds
  rwa [List.all_map, List.all_map] at shown

theorem length_parameters : f.signature.parameters.length = f.shape.parameters.length := by
  have kinds := Run.map_formalParameters (fun _ _ => ()) f.namedDefaults f.shape.parameters
    f.defaults
  have long := congrArg List.length kinds
  rwa [List.length_map, List.length_map] at long

/-- As many arguments as there are parameters bind if all take theirs by position. -/
theorem binds_of_plain (proper : f.signature.Proper) (args : List Value)
    (many : args.length = f.shape.parameters.length)
    (places : (f.shape.parameters.all fun (_, kind, _) =>
      kind == .positional || kind == .positionalOnly) = true) : f.signature.Binds args := by
  have isPlace : ∀ p ∈ f.signature.parameters, Signature.isPositional p = true := by
    rw [← all_parameters fun kind => kind == .positional || kind == .positionalOnly,
      List.all_eq_true] at places
    exact fun p inside => (Bool.or_comm _ _).trans (places p inside)
  have positional : f.signature.positional = f.signature.parameters :=
    List.filter_eq_self.mpr isPlace
  have keywordOnly : f.signature.keywordOnly = [] := by
    refine List.filter_eq_nil_iff.mpr fun p inside byName => ?_
    have place := isPlace p inside
    rw [Signature.isPositional, beq_iff_eq.mp byName] at place
    cases place
  rw [Signature.Binds, Signature.bind_eq_ok_iff proper, Signature.requiredNamed, keywordOnly,
    positional, length_parameters, many]
  refine ⟨?_, .inl le_rfl, rfl⟩
  have fewer : f.signature.required.length ≤ f.signature.positional.length :=
    List.length_filter_le _ _
  rwa [positional, length_parameters] at fewer

/-- A call gets as far as the body if its arguments bind. -/
theorem bindsIn_of_binds {args : List Value} (binds : f.signature.Binds args) (w : World) :
    f.BindsIn args w := by
  obtain ⟨bound, isBound⟩ := binds
  unfold BindsIn Run.bindCall
  dsimp only
  split
  · exact ⟨_, _, rfl⟩
  · rw [← signature, isBound]
    obtain ⟨values, after, ran, -⟩ := Run.OnlyAdds.mapM Run.onlyAdds_parameterValue bound w
    exact ⟨values, after, ran⟩

/-- Arguments that do not bind are refused. -/
theorem bindCall_refused (proper : f.signature.Proper) {args : List Value}
    (unbound : ¬ f.signature.Binds args) :
    ∃ misfit : Signature.Misfit, f.signature.bind args [] = .error misfit ∧
      Run.bindCall f.shape f.defaults f.namedDefaults args [] =
        Run.typeError (misfit.message f.shape.fullName) := by
  unfold Run.bindCall
  dsimp only
  split
  · next isPlain =>
    rw [Bool.and_eq_true, Bool.and_eq_true, beq_iff_eq] at isPlain
    exact absurd (binds_of_plain proper args isPlain.1.2 isPlain.2) unbound
  · rw [← signature]
    cases isBound : f.signature.bind args [] with
    | ok bound => exact absurd ⟨bound, isBound⟩ unbound
    | error misfit => exact ⟨misfit, rfl, rfl⟩

theorem bindsIn_iff (proper : f.signature.Proper) (args : List Value) (w : World) :
    f.BindsIn args w ↔ f.signature.Binds args := by
  refine ⟨fun bindsIn => ?_, fun binds => bindsIn_of_binds binds w⟩
  by_contra unbound
  obtain ⟨misfit, -, refused⟩ := bindCall_refused proper unbound
  obtain ⟨values, after, ran⟩ := bindsIn
  rw [refused] at ran
  cases ran

/-- Whether the function takes the context is asked of its parameters. -/
theorem takesContext_eq {address : Nat} {w : World} (isFunction : w.heap[address]? = some f.cell) :
    Run.takesContext (.ref address) w = .ok f.signature.takesPositional w := by
  have byPosition : f.signature.takesPositional =
      f.shape.parameters.any fun (_, kind, _) => kind != .keywordOnly && kind != .keywords := by
    have kinds := Run.map_formalParameters
      (fun _ kind => kind != .keywordOnly && kind != .keywords) f.namedDefaults f.shape.parameters
      f.defaults
    have shown := congrArg (List.any · id) kinds
    rw [List.any_map, List.any_map] at shown
    refine Eq.trans (congrArg (List.any _) (funext fun p => ?_)) shown
    rw [Signature.isPositional, Function.comp_apply, id]
    cases p.kind <;> rfl
  rw [byPosition]
  simp only [Run.takesContext, Run.cellAt, bind, EStateM.bind, pure, EStateM.pure, isFunction, cell,
    Option.getD_some]

/-- A call whose arguments do not bind raises an error that says so. -/
theorem call_refused (proper : f.signature.Proper) {args : List Value}
    (unbound : ¬ f.signature.Binds args) (depth : Nat) {address : Nat} {w : World}
    (isFunction : w.heap[address]? = some f.cell) :
    ∃ misfit : Signature.Misfit, f.signature.bind args [] = .error misfit ∧
      (Run.interp (depth + 1)).call (.ref address) args [] w =
        Run.typeError (misfit.message f.shape.fullName) w := by
  obtain ⟨misfit, isMisfit, refused⟩ := bindCall_refused proper unbound
  have isCell : Run.cell? (.ref address) w = .ok (some f.cell) w := by
    simp only [Run.cell?, Run.cellAt, bind, EStateM.bind, pure, EStateM.pure, isFunction,
      Option.getD_some]
  refine ⟨misfit, isMisfit, Run.noted_error ?_⟩
  rw [Run.callValue, Run.bind_of_ok isCell]
  dsimp only [cell]
  rw [Run.callFunction, refused]
  rfl

end ScriptFunction

theorem toDatum_exception {heap : Array Cell} {address : Nat} {kind : ExceptionKind}
    {message : Text} (cell : heap[address]? = some (.exception kind [.text message] []))
    (fuel : Nat) :
    (Value.ref address).toDatum heap (fuel + 2) [] = .exception kind [.text message] [] := by
  simp [Value.toDatum, cell]

end Machine

theorem Signature.Misfit.message_ne_nil (owner : Text) (misfit : Misfit) :
    misfit.message owner ≠ [] := by
  cases misfit <;>
    simp (disch := decide) [Misfit.message, Misfit.message.missing, Text.ofString_ne_nil]

theorem Datum.failureAs_typeError (message : Text) (some_ : message ≠ []) :
    (Datum.exception .typeError [.text message] []).failureAs .handlerError =
      ⟨.handlerError, message⟩ := by
  have shown : (Datum.exception .typeError [.text message] []).plain = message := rfl
  have flat : (Datum.exception .typeError [.text message] []).depth = 1 := rfl
  have short : (Datum.exception .typeError [.text message] []).hasHugeInt = false := rfl
  rw [failureAs, unshown?, flat, short, errorMessage, shown]
  simp [depthLimit, some_]

namespace Machine

namespace Run

theorem sameKey_text (a b : Text) : (Value.text a).sameKey (.text b) = (a == b) := by
  rw [Value.sameKey, Value.identical, Value.equals, Bool.or_self]

/-- The handler in a dict is what is first under the name. -/
theorem handler?_dict {address : Nat} {w : World} {entries : Array (Value × Value)}
    {isExports : Bool} (isDict : w.heap[address]? = some (.dict entries isExports)) (name : Text) :
    handler? (.ref address) name w =
      .ok (((entries.find? fun e => e.1.sameKey (.text name)).map (·.2)).getD .none) w := by
  rw [Array.find?_eq_bind_findIdx?_getElem?]
  simp only [handler?, entries?, cell?, cellAt, bind, EStateM.bind, pure, EStateM.pure, isDict,
    Option.getD_some, findKey?]
  split <;> simp only [*, Option.map_some, Option.map_none, Option.getD_some, Option.getD_none]

/-- A handler that can be called is given the context, as a dict made for the call. -/
theorem callee_found {table handler : Value} {phase : Phase} {w : World}
    (context : List (Datum × Datum))
    (finds : handler? table phase.handlerName w = .ok handler w) (some_ : handler ≠ .none)
    (callable : isCallable handler w = .ok true w) :
    ∃ argument made, (ofEntries context >>= newDict) (w.noting table) = .ok argument made ∧
      callee table phase context w = .ok (.ok (handler, argument)) made ∧
      ∀ (address : Nat) (cell : Cell), w.heap[address]? = some cell →
        made.heap[address]? = some cell := by
  have adds : OnlyAdds (ofEntries context >>= newDict) :=
    (onlyAdds_ofEntries context).bind fun _ => onlyAdds_alloc _
  obtain ⟨argument, made, ran, kept⟩ := adds.finds_cell (w.noting table)
  rw [noting_heap] at kept
  refine ⟨argument, made, ran, ?_, kept⟩
  obtain ⟨entries, between, first, second⟩ := bind_eq_ok ran
  rw [callee, bind_of_ok finds]
  split
  · exact absurd rfl some_
  · rw [bind_of_ok callable, Bool.not_true, if_neg Bool.false_ne_true,
      bind_of_ok (noteResult_eq table w), bind_of_ok first, bind_of_ok second]
    rfl

/-- A call that is refused comes to a failure in the words of the refusal. -/
theorem ended_typeError {call : Run Value} {message : Text} (some_ : message ≠ []) {w : World}
    (refused : call w = typeError message w) :
    ∃ after, ended call w = .ok (.error ⟨.handlerError, message⟩) after := by
  have raises : call w = .error (.raised (.ref w.heap.size))
      { w with heap := w.heap.push (.exception .typeError [.text message] []) } := refused
  refine ⟨{ w with heap := w.heap.push (.exception .typeError [.text message] []) }, ?_⟩
  have shown : (Value.ref w.heap.size).toDatum
      (w.heap.push (.exception .typeError [.text message] [])) showDepth [] =
        .exception .typeError [.text message] [] := toDatum_exception Array.getElem?_push_size _
  rw [ended, bind_of_ok (catching_raised raises)]
  simp only [failureOf, snapshot, bind, EStateM.bind, pure, EStateM.pure, shown,
    Datum.failureAs_typeError message some_]

end Run

open Run (callee_found ended_typeError bind_of_ok)

/-- A phase calls a function of a script with the context if the function has a place for it, and
else with nothing. No other call binds where this one does not, which is so for functions that want
two arguments by position, or any by name; then the phase fails, in the words of the refusal. -/
theorem dispatch_calls_as_taken {f : ScriptFunction} {table : Value} {phase : Phase}
    {address : Nat} {w : World} (context : List (Datum × Datum))
    (finds : Run.handler? table phase.handlerName w = .ok (.ref address) w)
    (isFunction : w.heap[address]? = some f.cell) (proper : f.signature.Proper) :
    ∃ argument made,
      (Run.ofEntries context >>= Run.newDict) (w.noting table) = .ok argument made ∧
      Run.dispatch Run.machine table phase context w =
        Run.ended (Run.machine.call (.ref address) (f.signature.offered argument) []) made ∧
      (¬ f.BindsIn (f.signature.offered argument) made ↔
        ¬ f.BindsIn [argument] made ∧ ¬ f.BindsIn [] made) ∧
      (¬ f.BindsIn (f.signature.offered argument) made ↔
        2 ≤ f.signature.required.length ∨ f.signature.requiredNamed ≠ []) ∧
      (¬ f.BindsIn (f.signature.offered argument) made →
        ∃ (misfit : Signature.Misfit) (after : World),
          f.signature.bind (f.signature.offered argument) [] = .error misfit ∧
          Run.dispatch Run.machine table phase context w =
            .ok (.error ⟨.handlerError, misfit.message f.shape.fullName⟩) after) := by
  have callable : Run.isCallable (.ref address) w = .ok true w := by
    simp only [Run.isCallable, Run.cellAt, bind, EStateM.bind, pure, EStateM.pure, isFunction,
      ScriptFunction.cell, Option.getD_some]
  have some_ : Value.ref address ≠ .none := fun same => by cases same
  obtain ⟨argument, made, isMade, found, kept⟩ := callee_found context finds some_ callable
  -- Whether it takes the context is asked once the argument is made, which has changed no cell.
  have isFunction' := kept address f.cell isFunction
  have offers : (if f.signature.takesPositional = true then [argument] else []) =
      f.signature.offered argument := by
    simp only [Signature.offered, Signature.takesPositional_iff]
  have calls : Run.dispatch Run.machine table phase context w =
      Run.ended (Run.machine.call (.ref address) (f.signature.offered argument) []) made := by
    rw [Run.dispatch_eq, bind_of_ok found]
    dsimp only
    rw [bind_of_ok (ScriptFunction.takesContext_eq isFunction'), offers]
  have wants := Signature.binds_offered_iff proper argument
  have either := Signature.binds_offered_of_either proper argument
  refine ⟨argument, made, isMade, calls, ?_, ?_, fun unbound => ?_⟩
  · simp only [ScriptFunction.bindsIn_iff proper]
    rw [← not_or, not_iff_not]
    refine ⟨fun binds => ?_, either⟩
    rw [Signature.offered] at binds
    split at binds
    · exact .inl binds
    · exact .inr binds
  · rw [ScriptFunction.bindsIn_iff proper, wants, not_and_or, Nat.not_le]
    rfl
  · rw [ScriptFunction.bindsIn_iff proper] at unbound
    obtain ⟨misfit, isMisfit, refused⟩ := ScriptFunction.call_refused proper unbound
      (Run.callDepth - 1) isFunction'
    obtain ⟨after, fails⟩ := ended_typeError (misfit.message_ne_nil f.shape.fullName) refused
    exact ⟨misfit, after, isMisfit, calls.trans fails⟩

/-- A function that wants two arguments by position and one by name. -/
def ScriptFunction.demanding : ScriptFunction where
  shape := ⟨"f", "f", [("c", .positionalOnly, false), ("d", .positional, false),
    ("e", .positional, true), ("rest", .variadic, false), ("k", .keywordOnly, false)], 5, false, []⟩
  body := []
  outer := none
  defaults := [.int 1]
  namedDefaults := []

/-- The state with a table in which a function is the handler for the first phase. -/
def World.handling (f : ScriptFunction) : World :=
  { World.start ⟨.unconnected, []⟩ with
    heap := #[.dict #[(.text "on_validate", .ref 1)] true, f.cell] }

theorem demanding_fails : ∃ after,
    Run.dispatch Run.machine (.ref 0) .validate [] (World.handling .demanding) =
      .ok (.error ⟨.handlerError, "f() missing 1 required positional argument: 'd'"⟩) after := by
  have finds : Run.handler? (.ref 0) Phase.validate.handlerName (.handling .demanding) =
      .ok (.ref 1) (.handling .demanding) := by
    rw [Run.handler?_dict rfl, Array.find?_singleton, Run.sameKey_text]
    rfl
  have isFunction : (World.handling .demanding).heap[1]? = some ScriptFunction.demanding.cell := rfl
  have proper : ScriptFunction.demanding.signature.Proper := ⟨by decide, by decide⟩
  obtain ⟨argument, made, -, -, -, wants, fails⟩ :=
    dispatch_calls_as_taken [] finds isFunction proper
  obtain ⟨misfit, after, isMisfit, failed⟩ := fails (wants.mpr (.inl (by decide)))
  have missing : ScriptFunction.demanding.signature.bind
      (ScriptFunction.demanding.signature.offered argument) [] =
        .error (.missingPositional ["d"]) := rfl
  cases missing.symm.trans isMisfit
  exact ⟨after, failed⟩

end Machine

end PhaseScript
