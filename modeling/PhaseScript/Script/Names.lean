import PhaseScript.Script.Syntax
/-
What happens to names in one scope: which are read, which are assigned to and which are declared global, in the order
of the text. What a function or a comprehension inside does to names of its own is left out; a name bound inside a
comprehension by `:=` belongs to the scope around it.
-/
set_option autoImplicit false

namespace PhaseScript.Script

inductive NameEvent where
  | used (name : Text)
  | assigned (name : Text)
  | declaredGlobal (name : Text)
  | yields
  deriving DecidableEq, Repr, Inhabited

namespace NameEvent

def assigned? : NameEvent → Option Text
  | .assigned name => some name
  | _ => none

def declared? : NameEvent → Option Text
  | .declaredGlobal name => some name
  | _ => none

/-- The events that leave a comprehension. -/
def leavesComprehension : NameEvent → Bool
  | .assigned _ => true
  | _ => false

end NameEvent

mutual

/-- The events of an expression that is read. -/
def Expr.events : Expr → List NameEvent
  | .constant _ _ => []
  | .name _ name => [.used name]
  | .attribute _ object _ => object.events
  | .subscript _ object index => object.events ++ index.events
  | .slice _ lower upper step => optionEvents lower ++ optionEvents upper ++ optionEvents step
  | .call _ function arguments named => function.events ++ exprsEvents arguments ++ namedEvents named
  | .unary _ _ operand => operand.events
  | .binary _ _ left right => left.events ++ right.events
  | .both _ parts => exprsEvents parts
  | .either _ parts => exprsEvents parts
  | .compare _ left rest => left.events ++ restEvents rest
  | .conditional _ test whenTrue whenFalse => test.events ++ whenTrue.events ++ whenFalse.events
  | .lambda _ parameters _ => defaultsEvents parameters
  | .list _ items => exprsEvents items
  | .tuple _ items => exprsEvents items
  | .set _ items => exprsEvents items
  | .dict _ entries => entriesEvents entries
  | .comprehension _ _ item value clauses =>
    firstSourceEvents clauses ++
      (item.events ++ optionEvents value ++ clausesEvents clauses).filter NameEvent.leavesComprehension
  | .bind _ target value => target.targetEvents ++ value.events
  | .starred _ value => value.events
  | .await _ value => value.events
  | .yield _ value => .yields :: optionEvents value
  | .yieldFrom _ source => .yields :: source.events
  | .joined _ pieces => exprsEvents pieces
  | .formatted _ value _ spec => value.events ++ optionEvents spec

/-- The events of an expression that is assigned to. -/
def Expr.targetEvents : Expr → List NameEvent
  | .name _ name => [.assigned name]
  | .attribute _ object _ => object.events
  | .subscript _ object index => object.events ++ index.events
  | .list _ items => targetsEvents items
  | .tuple _ items => targetsEvents items
  | .starred _ value => value.targetEvents
  | _ => []

def exprsEvents : List Expr → List NameEvent
  | [] => []
  | e :: rest => e.events ++ exprsEvents rest

def targetsEvents : List Expr → List NameEvent
  | [] => []
  | e :: rest => e.targetEvents ++ targetsEvents rest

def optionEvents : Option Expr → List NameEvent
  | none => []
  | some e => e.events

def namedEvents : List (Option Text × Expr) → List NameEvent
  | [] => []
  | (_, e) :: rest => e.events ++ namedEvents rest

def restEvents : List (Comparison × Expr) → List NameEvent
  | [] => []
  | (_, e) :: rest => e.events ++ restEvents rest

def entriesEvents : List (Option Expr × Expr) → List NameEvent
  | [] => []
  | (key, value) :: rest => optionEvents key ++ value.events ++ entriesEvents rest

def firstSourceEvents : List (Clause Expr) → List NameEvent
  | [] => []
  | ⟨_, source, _, _⟩ :: _ => source.events

def clausesEvents : List (Clause Expr) → List NameEvent
  | [] => []
  | ⟨_, source, conditions, _⟩ :: rest => source.events ++ exprsEvents conditions ++ clausesEvents rest

/-- The events of the defaults and annotations of parameters, which belong to the scope around the function. -/
def defaultsEvents : Parameters Expr → List NameEvent
  | ⟨positionalOnly, positional, variadic, keywordOnly, keywords⟩ =>
    parameterEvents positionalOnly ++ parameterEvents positional ++ parameterEvents keywordOnly
      ++ parameterEvents? variadic ++ parameterEvents? keywords

def parameterEvents : List (Parameter Expr) → List NameEvent
  | [] => []
  | ⟨_, annotation, value, _⟩ :: rest => optionEvents value ++ optionEvents annotation ++ parameterEvents rest

def parameterEvents? : Option (Parameter Expr) → List NameEvent
  | none => []
  | some ⟨_, annotation, _, _⟩ => optionEvents annotation

end

mutual

def Stmt.events : Stmt → List NameEvent
  | .expr _ value => value.events
  | .assign _ targets value => targetsEvents targets ++ value.events
  | .augment _ target _ value =>
    target.targetEvents ++ target.events ++ value.events
  | .return_ _ value => optionEvents value
  | .raise _ error cause => optionEvents error ++ optionEvents cause
  | .assert _ test message => test.events ++ optionEvents message
  | .delete _ targets => targetsEvents targets
  | .pass _ | .break_ _ | .continue_ _ => []
  | .import_ _ names => names.map fun entry =>
    .assigned (entry.given.getD (entry.name.takeWhile fun p => !p.is '.'))
  | .importFrom _ _ names _ => names.map fun entry => .assigned (entry.given.getD entry.name)
  | .global _ names => names.map .declaredGlobal
  | .if_ _ test body orelse => test.events ++ blockEvents body ++ blockEvents orelse
  | .while _ test body orelse => test.events ++ blockEvents body ++ blockEvents orelse
  | .for_ _ target source body orelse =>
    target.targetEvents ++ source.events ++ blockEvents body ++ blockEvents orelse
  | .try_ _ body handlers orelse finally_ =>
    blockEvents body ++ handlersEvents handlers ++ blockEvents orelse ++ blockEvents finally_
  | .with_ _ items body => itemsEvents items ++ blockEvents body
  | .function _ name parameters _ decorators returns =>
    .assigned name :: defaultsEvents parameters ++ optionEvents returns ++ exprsEvents decorators
  | .class_ _ name bases named _ decorators =>
    .assigned name :: exprsEvents bases ++ namedEvents named ++ exprsEvents decorators
  | .forbidden _ _ => []

def blockEvents : List Stmt → List NameEvent
  | [] => []
  | s :: rest => s.events ++ blockEvents rest

def handlersEvents : List (Handler Stmt) → List NameEvent
  | [] => []
  | ⟨_, kind, name, body⟩ :: rest =>
    optionEvents kind ++ (name.map NameEvent.assigned).toList ++ blockEvents body ++ handlersEvents rest

def itemsEvents : List (Expr × Option Expr) → List NameEvent
  | [] => []
  | (value, target) :: rest => value.events ++ (target.map Expr.targetEvents).getD [] ++ itemsEvents rest

end

/-- Names without repetition, each where it stands first. -/
def distinct (names : List Text) : List Text :=
  (names.foldl (fun (seen : List Text) name => if seen.contains name then seen else name :: seen) []).reverse

/-- The names of parameters in the order in which their values are kept. -/
def Parameters.names {α : Type} (p : Parameters α) : List Text :=
  (p.positionalOnly ++ p.positional ++ p.keywordOnly ++ p.variadic.toList ++ p.keywords.toList).map (·.name)

end PhaseScript.Script
