import PhaseScript.Script.Names
import PhaseScript.Script.Block
import PhaseScript.Script.Code
import PhaseScript.Script.Source
/-
From a permitted tree to code. Names are settled here, and what only the whole of a function shows to be wrong is
found here: a jump without its loop, a star without its row, blocks that stand too deep in each other.
-/
set_option autoImplicit false

namespace PhaseScript.Script

namespace Lowering

abbrev Lower := Except CodeFault

def faultAt {α : Type} (place : Place) (words : Text) : Lower α := .error ⟨place.line, words⟩

/-- The names of one scope that runs. -/
structure Scope where
  names : List Text
  globals : List Text
  isComprehension : Bool
  deriving Inhabited

/-- What surrounds the part of the tree at hand. The scopes stand innermost first. -/
structure Context where
  scopes : List Scope
  /-- What goes before the name of a function made here. -/
  namePath : Text
  inFunction : Bool
  inLoop : Bool
  /-- How many loops and guarded blocks of the same function are around. -/
  depth : Nat
  /-- The last line of the requests for features at the beginning. -/
  featureLine : Nat
  /-- Whether this is the index of a place that is written: there a slice is made without calling its name. -/
  writes : Bool

/-- Where a name is kept, seen from so many scopes further in. -/
def locateFrom (name : Text) : Nat → List Scope → Location
  | _, [] => .global
  | hops, scope :: outer =>
    if scope.globals.contains name then .global
    else match scope.names.idxOf? name with
      | some index => .slot hops index
      | none => locateFrom name (hops + 1) outer

def Context.locate (c : Context) (name : Text) : Location := locateFrom name 0 c.scopes

/-- Where a name bound by `:=` is kept: past the comprehensions around. -/
def Context.locateBound (c : Context) (name : Text) : Location :=
  let inner := c.scopes.takeWhile (·.isComprehension)
  match c.scopes.drop inner.length with
  | [] => .global
  | outer => locateFrom name inner.length outer

def Context.load (c : Context) (name : Text) : Code := .load name (c.locate name)

def Context.store (c : Context) (name : Text) : Code := .store name (c.locate name)

/-- The full name of a function made here. -/
def Context.fullName (c : Context) (name : Text) : Text :=
  match c.scopes with
  | scope :: _ => if scope.globals.contains name then name else c.namePath ++ name
  | [] => name

mutual

/-- Whether the names of printing are read in an expression. -/
def readsPrint : Expr → Bool
  | .constant _ _ => false
  | .name _ name => name.is "print" || name.is "printed"
  | .attribute _ object _ => readsPrint object
  | .subscript _ object index => readsPrint object || readsPrint index
  | .slice _ lower upper step => readsPrint? lower || readsPrint? upper || readsPrint? step
  | .call _ function arguments named => readsPrint function || readPrint arguments || namedReadPrint named
  | .unary _ _ operand => readsPrint operand
  | .binary _ _ left right => readsPrint left || readsPrint right
  | .both _ parts => readPrint parts
  | .either _ parts => readPrint parts
  | .compare _ left rest => readsPrint left || restReadPrint rest
  | .conditional _ test whenTrue whenFalse => readsPrint test || readsPrint whenTrue || readsPrint whenFalse
  | .lambda _ parameters body => parametersReadPrint parameters || readsPrint body
  | .list _ items => readPrint items
  | .tuple _ items => readPrint items
  | .set _ items => readPrint items
  | .dict _ entries => entriesReadPrint entries
  | .comprehension _ _ item value clauses => readsPrint item || readsPrint? value || clausesReadPrint clauses
  | .bind _ _ value => readsPrint value
  | .starred _ value => readsPrint value
  | .await _ value => readsPrint value
  | .yield _ value => readsPrint? value
  | .yieldFrom _ source => readsPrint source
  | .joined _ pieces => readPrint pieces
  | .formatted _ value _ spec => readsPrint value || readsPrint? spec

def readsPrint? : Option Expr → Bool
  | none => false
  | some e => readsPrint e

def readPrint : List Expr → Bool
  | [] => false
  | e :: rest => readsPrint e || readPrint rest

def namedReadPrint : List (Option Text × Expr) → Bool
  | [] => false
  | (_, e) :: rest => readsPrint e || namedReadPrint rest

def restReadPrint : List (Comparison × Expr) → Bool
  | [] => false
  | (_, e) :: rest => readsPrint e || restReadPrint rest

def entriesReadPrint : List (Option Expr × Expr) → Bool
  | [] => false
  | (key, value) :: rest => readsPrint? key || readsPrint value || entriesReadPrint rest

def clausesReadPrint : List (Clause Expr) → Bool
  | [] => false
  | ⟨target, source, conditions, _⟩ :: rest =>
    readsPrint target || readsPrint source || readPrint conditions || clausesReadPrint rest

def parametersReadPrint : Parameters Expr → Bool
  | ⟨positionalOnly, positional, variadic, keywordOnly, keywords⟩ =>
    parameterListReadsPrint positionalOnly || parameterListReadsPrint positional
      || parameterListReadsPrint keywordOnly || parameterReadsPrint? variadic || parameterReadsPrint? keywords

def parameterListReadsPrint : List (Parameter Expr) → Bool
  | [] => false
  | ⟨_, annotation, value, _⟩ :: rest => readsPrint? annotation || readsPrint? value || parameterListReadsPrint rest

def parameterReadsPrint? : Option (Parameter Expr) → Bool
  | none => false
  | some ⟨_, annotation, value, _⟩ => readsPrint? annotation || readsPrint? value

end

mutual

/-- Whether the names of printing are read in a statement, functions inside left out. -/
def stmtReadsPrint : Stmt → Bool
  | .expr _ value => readsPrint value
  | .assign _ targets value => readPrint targets || readsPrint value
  | .augment _ _ _ value => readsPrint value
  | .return_ _ value => readsPrint? value
  | .raise _ error cause => readsPrint? error || readsPrint? cause
  | .assert _ test message => readsPrint test || readsPrint? message
  | .delete _ targets => readPrint targets
  | .if_ _ test body orelse => readsPrint test || blockReadsPrint body || blockReadsPrint orelse
  | .while _ test body orelse => readsPrint test || blockReadsPrint body || blockReadsPrint orelse
  | .for_ _ target source body orelse =>
    readsPrint target || readsPrint source || blockReadsPrint body || blockReadsPrint orelse
  | .try_ _ body handlers orelse finally_ =>
    blockReadsPrint body || handlersReadPrint handlers || blockReadsPrint orelse || blockReadsPrint finally_
  | .with_ _ items body => itemsReadPrint items || blockReadsPrint body
  | .class_ _ _ bases named body decorators =>
    readPrint bases || namedReadPrint named || blockReadsPrint body || readPrint decorators
  | _ => false

def blockReadsPrint : List Stmt → Bool
  | [] => false
  | s :: rest => stmtReadsPrint s || blockReadsPrint rest

def handlersReadPrint : List (Handler Stmt) → Bool
  | [] => false
  | ⟨_, kind, _, body⟩ :: rest => readsPrint? kind || blockReadsPrint body || handlersReadPrint rest

def itemsReadPrint : List (Expr × Option Expr) → Bool
  | [] => false
  | (value, target) :: rest => readsPrint value || readsPrint? target || itemsReadPrint rest

end

/-- The first instruction of a scope in which printing is tried. -/
def printRefusal : Code := .fail .nameError "name '_print_' is not defined"

/-- Whether an expression is a number that is known beforehand. -/
def isFixedNumber : Expr → Bool
  | .constant _ (.int _) | .constant _ (.float _) | .constant _ (.imaginary _) | .constant _ (.bool _) => true
  | .unary _ _ e => isFixedNumber e
  | .binary _ _ a b => isFixedNumber a && isFixedNumber b
  | _ => false

mutual

/-- Whether the value of an expression is known beforehand. -/
def isFixed : Expr → Bool
  | .constant _ _ => true
  | .tuple _ items => allFixed items
  | e => isFixedNumber e

def allFixed : List Expr → Bool
  | [] => true
  | e :: rest => isFixed e && allFixed rest

end

def isStarred : Expr → Bool
  | .starred _ _ => true
  | _ => false

mutual

/-- How a row of targets takes a value apart. -/
def unpackSpec (items : List Expr) : UnpackSpec :=
  let least := (items.filter fun e => !isStarred e).length
  .items least (unpackChildren least 0 0 items)

def unpackChildren (least : Nat) (index : Int) (offset : Int) : List Expr → List (Int × UnpackSpec)
  | [] => []
  | .starred _ _ :: rest => unpackChildren least (index + 1) (Int.ofNat least + 1) rest
  | .tuple _ items :: rest =>
    let inner := (items.filter fun e => !isStarred e).length
    (index - offset, .items inner (unpackChildren inner 0 0 items)) ::
      unpackChildren least (index + 1) offset rest
  | _ :: rest => unpackChildren least (index + 1) offset rest

end

/-- The instruction that takes a value apart for a row of targets, of which one may have a star. -/
def unpackCode (place : Place) (items : List Expr) : Lower Code :=
  let before := (items.takeWhile fun e => !isStarred e).length
  match items.drop before with
  | [] => .ok (.unpack before none)
  | _ :: after =>
    if after.any isStarred then faultAt place "multiple starred expressions in assignment"
    else .ok (.unpack before (some after.length))

/-- Guards the taking apart of a value for a row in round brackets. -/
def guardFor : Expr → List Code
  | .tuple _ items => [.guardUnpack (unpackSpec items)]
  | _ => []

def none_ : Code := .constant .none

/-- The parameters of a function, in the order in which their values are kept. -/
def parameterShapes (p : Parameters Expr) : List (Text × ParameterKind × Bool) :=
  let shape (kind : ParameterKind) (q : Parameter Expr) := (q.name, kind, q.default.isSome)
  p.positionalOnly.map (shape .positionalOnly) ++ p.positional.map (shape .positional)
    ++ p.keywordOnly.map (shape .keywordOnly) ++ p.variadic.toList.map (shape .variadic)
    ++ p.keywords.toList.map (shape .keywords)

/-- The scope of a function with these parameters and these events in its body. -/
def functionScope (parameters : List Text) (events : List NameEvent) : Scope :=
  let globals := events.filterMap NameEvent.declared?
  let assigned := (events.filterMap NameEvent.assigned?).filter fun name => !globals.contains name
  ⟨distinct (parameters ++ assigned), globals, false⟩

def Context.inside (c : Context) (scope : Scope) (fullName : Text) : Context :=
  ⟨scope :: c.scopes, fullName ++ ".<locals>.", true, false, 0, c.featureLine, false⟩

/-- How many loops and guarded blocks may stand in each other. -/
def depthLimit : Nat := 20

/-- Enters so many blocks. -/
def Context.deeper (c : Context) (place : Place) (blocks : Nat) : Lower Context :=
  if c.depth + blocks > depthLimit then faultAt place "too many statically nested blocks"
  else .ok { c with depth := c.depth + blocks }

/-- A named argument must not come twice. -/
def checkNamed : List (Option Text × Expr) → Lower Unit
  | [] => return ()
  | (none, _) :: rest => checkNamed rest
  | (some name, _) :: rest =>
    match rest.find? fun entry => entry.1 == some name with
    | some (_, e) => faultAt e.place ("keyword argument repeated: " ++ name)
    | none => checkNamed rest

def hasYield (events : List NameEvent) : Bool := events.contains .yields

def comprehensionFunction : ComprehensionKind → String
  | .list => "<listcomp>"
  | .set => "<setcomp>"
  | .dict => "<dictcomp>"
  | .generator => "<genexpr>"

/-- The last instruction for each item of a comprehension. -/
def collect : ComprehensionKind → List Code
  | .list => [.addItem]
  | .set => [.addItem]
  | .dict => [.addEntry]
  | .generator => [.yieldValue, .drop]

/-- What a comprehension starts with. -/
def collection : ComprehensionKind → List Code
  | .list => [.display .list 0]
  | .set => [.display .set 0]
  | .dict => [.dict 0]
  | .generator => []

def asBranches (conditions : List (List Code)) (body : List Code) : List Code :=
  conditions.foldr (fun test inner => test ++ [.branch inner []]) body

mutual

/-- The code that puts the value of an expression on the stack. -/
def lowerExpr (c : Context) : Expr → Lower (List Code)
  | .constant _ value => return [.constant value]
  | .name _ name => return [c.load name]
  | .attribute _ object name => return (← lowerExpr c object) ++ [.attribute name]
  | .subscript _ object index => return (← lowerExpr c object) ++ (← lowerExpr { c with writes := false } index) ++ [.item]
  | .slice _ lower upper step => do
    let parts := (← lowerOption c lower) ++ (← lowerOption c upper) ++ (← lowerOption c step)
    return if c.writes then parts ++ [.slice] else c.load "slice" :: parts ++ [.call 3 []]
  | .call _ function arguments named => do
    if arguments.any isStarred || named.any fun entry => entry.1.isNone then
      checkNamed named
      let called ← lowerExpr c function
      let items ← lowerItems c arguments
      let entries ← lowerNamed c named
      return called ++ [.display .list 0] ++ items
        ++ (if named.isEmpty then [] else .dict 0 :: entries) ++ [.spreadCall !named.isEmpty]
    else
      let called ← lowerExpr c function
      checkNamed named
      return called ++ (← lowerExprs c arguments) ++ (← lowerNamedValues c named)
        ++ [.call arguments.length (named.filterMap (·.1))]
  | .unary _ operator operand => return (← lowerExpr c operand) ++ [.unary operator]
  | .binary _ operator left right => return (← lowerExpr c left) ++ (← lowerExpr c right) ++ [.binary operator]
  | .both _ parts => lowerParts c Code.andAlso parts
  | .either _ parts => lowerParts c Code.orElse parts
  | .compare _ left rest => return (← lowerExpr c left) ++ (← lowerComparisons c rest)
  | .conditional _ test whenTrue whenFalse =>
    return (← lowerExpr c test) ++ [.branch (← lowerExpr c whenTrue) (← lowerExpr c whenFalse)]
  | .lambda _ parameters body => do
    let events := body.events
    let scope := functionScope parameters.names events
    let fullName := c.fullName "<lambda>"
    let defaults ← lowerParameters c parameters
    let code ← lowerExpr (c.inside scope fullName) body
    return defaults.1 ++ [.function ⟨"<lambda>", fullName, parameterShapes parameters, scope.names.length,
      hasYield events, capturesOf code⟩ (code ++ [.return_]) defaults.2.1 defaults.2.2]
  | .list _ items => do
    if items.any isStarred then return .display .list 0 :: (← lowerItems c items)
    else return (← lowerExprs c items) ++ [.display .list items.length]
  | .tuple _ items => do
    if items.any isStarred then return .display .list 0 :: (← lowerItems c items) ++ [.listToTuple]
    else
      return (← lowerExprs c items)
        ++ [.display (if allFixed items then .constantTuple else .tuple) items.length]
  | .set _ items => do
    if items.any isStarred then return .display .set 0 :: (← lowerItems c items)
    else
      return (← lowerExprs c items)
        ++ [.display (if 2 < items.length && allFixed items then .constantSet else .set) items.length]
  | .dict _ entries => do
    if entries.any fun entry => entry.1.isNone then return .dict 0 :: (← lowerEntries c entries)
    else return (← lowerPairs c entries) ++ [.dict entries.length]
  | .comprehension place kind item value clauses => do
    let targets := distinct ((clauses.flatMap fun clause => clause.target.targetEvents).filterMap
      NameEvent.assigned?)
    let fullName := c.fullName (comprehensionFunction kind)
    let scope : Scope := ⟨".0" :: targets, [], true⟩
    let inner : Context := ⟨scope :: c.scopes, fullName ++ ".<locals>.", c.inFunction, false, 0, c.featureLine, false⟩
    if kind != .generator && clauses.any (·.isAsync) then
      faultAt place "asynchronous comprehension outside of an asynchronous function"
    let loops ← lowerClauses inner true clauses
    let itemCode ← lowerExpr inner item
    let valueCode ← match value with
      | some e => lowerExpr inner e
      | none => pure []
    let body := loops (itemCode ++ valueCode ++ collect kind)
    let first ← lowerFirstSource c clauses
    let shape : FunctionShape := ⟨comprehensionFunction kind, fullName,
      [(".0", .positionalOnly, false)], scope.names.length, kind == .generator, capturesOf body⟩
    let ending : List Code := if kind == .generator then [] else [.return_]
    return first ++ [.comprehend kind shape (collection kind ++ body ++ ending)]
  | .bind _ target value => do
    match target with
    | .name _ name => return (← lowerExpr c value) ++ [.duplicate, .store name (c.locateBound name)]
    | _ => lowerExpr c value
  | .starred place _ => faultAt place "can't use starred expression here"
  | .await place _ => faultAt place "'await' outside function"
  | .yield place value => do
    if !c.inFunction then faultAt place "'yield' outside function"
    return (← lowerOption c value) ++ [.yieldValue]
  | .yieldFrom place source => do
    if !c.inFunction then faultAt place "'yield' outside function"
    return (← lowerExpr c source) ++ [.iterate, none_, .yieldFrom]
  | .joined _ pieces => return (← lowerExprs c pieces) ++ [.join pieces.length]
  | .formatted _ value conversion spec => do
    let code ← lowerExpr c value
    match spec with
    | some e => return code ++ (← lowerExpr c e) ++ [.format conversion true]
    | none => return code ++ [.format conversion false]

def lowerOption (c : Context) : Option Expr → Lower (List Code)
  | none => return [none_]
  | some e => lowerExpr c e

def lowerExprs (c : Context) : List Expr → Lower (List Code)
  | [] => return []
  | e :: rest => return (← lowerExpr c e) ++ (← lowerExprs c rest)

/-- Items that are added one by one to what is below them on the stack. -/
def lowerItems (c : Context) : List Expr → Lower (List Code)
  | [] => return []
  | .starred _ e :: rest => return (← lowerExpr c e) ++ .addItems :: (← lowerItems c rest)
  | e :: rest => return (← lowerExpr c e) ++ .addItem :: (← lowerItems c rest)

def lowerNamedValues (c : Context) : List (Option Text × Expr) → Lower (List Code)
  | [] => return []
  | (_, e) :: rest => return (← lowerExpr c e) ++ (← lowerNamedValues c rest)

/-- Named arguments that are added one by one to the dict below them. -/
def lowerNamed (c : Context) : List (Option Text × Expr) → Lower (List Code)
  | [] => return []
  | (none, e) :: rest => return (← lowerExpr c e) ++ .addNamed :: (← lowerNamed c rest)
  | (some name, e) :: rest =>
    return .constant (.text name) :: (← lowerExpr c e) ++ [.dict 1, .addNamed] ++ (← lowerNamed c rest)

/-- Parts of which each but the first is run only if those before it allow. -/
def lowerParts (c : Context) (join : List Code → Code) : List Expr → Lower (List Code)
  | [] => return []
  | [e] => lowerExpr c e
  | e :: rest => return (← lowerExpr c e) ++ [join (← lowerParts c join rest)]

def lowerComparisons (c : Context) : List (Comparison × Expr) → Lower (List Code)
  | [] => return []
  | [(operator, e)] => return (← lowerExpr c e) ++ [.compare operator]
  | (operator, e) :: rest => return (← lowerExpr c e) ++ [.chain operator (← lowerComparisons c rest)]

def lowerPairs (c : Context) : List (Option Expr × Expr) → Lower (List Code)
  | [] => return []
  | (key, value) :: rest =>
    return (← lowerOption c key) ++ (← lowerExpr c value) ++ (← lowerPairs c rest)

def lowerEntries (c : Context) : List (Option Expr × Expr) → Lower (List Code)
  | [] => return []
  | (none, value) :: rest => return (← lowerExpr c value) ++ .addEntries :: (← lowerEntries c rest)
  | (some key, value) :: rest =>
    return (← lowerExpr c key) ++ (← lowerExpr c value) ++ .addEntry :: (← lowerEntries c rest)

/-- The source of a comprehension's first clause, which is run outside it. -/
def lowerFirstSource (c : Context) : List (Clause Expr) → Lower (List Code)
  | [] => return []
  | ⟨_, source, _, isAsync⟩ :: _ => do
    return (← lowerExpr c source) ++ (if isAsync then [.refuseAsync] else [])

def lowerConditions (c : Context) : List Expr → Lower (List (List Code))
  | [] => return []
  | e :: rest => return (← lowerExpr c e) :: (← lowerConditions c rest)

/-- The loops of a comprehension, to be put around the code for one item. -/
def lowerClauses (c : Context) (isFirst : Bool) : List (Clause Expr) → Lower (List Code → List Code)
  | [] => return id
  | ⟨target, source, conditions, _⟩ :: rest => do
    let from_ ← if isFirst then pure [Code.load ".0" (.slot 0 0)] else lowerExpr c source
    let into ← lowerTarget c target
    let tests ← lowerConditions c conditions
    let inner ← lowerClauses c false rest
    return fun item => from_ ++ [.for_ (guardFor target ++ into) (asBranches tests (inner item)) []]

/-- The code for the defaults of parameters and for what they are annotated with, with the number of defaults of
positional parameters and the names of the others. -/
def lowerParameters (c : Context) : Parameters Expr → Lower (List Code × Nat × List Text)
  | ⟨positionalOnly, positional, variadic, keywordOnly, keywords⟩ => do
    let first ← lowerDefaults c positionalOnly
    let second ← lowerDefaults c positional
    let third ← lowerDefaults c keywordOnly
    let annotations := (← lowerAnnotations c positional) ++ (← lowerAnnotations c positionalOnly)
      ++ (← lowerAnnotation? c variadic) ++ (← lowerAnnotations c keywordOnly) ++ (← lowerAnnotation? c keywords)
    return (first.1 ++ second.1 ++ third.1 ++ annotations, first.2.length + second.2.length, third.2)

def lowerDefaults (c : Context) : List (Parameter Expr) → Lower (List Code × List Text)
  | [] => return ([], [])
  | ⟨name, _, some e, _⟩ :: rest => do
    let code ← lowerExpr c e
    let more ← lowerDefaults c rest
    return (code ++ more.1, name :: more.2)
  | ⟨_, _, none, _⟩ :: rest => lowerDefaults c rest

def lowerAnnotations (c : Context) : List (Parameter Expr) → Lower (List Code)
  | [] => return []
  | ⟨_, some e, _, _⟩ :: rest => return (← lowerExpr c e) ++ .drop :: (← lowerAnnotations c rest)
  | ⟨_, none, _, _⟩ :: rest => lowerAnnotations c rest

def lowerAnnotation? (c : Context) : Option (Parameter Expr) → Lower (List Code)
  | some ⟨_, some (.starred _ e), _, _⟩ => return (← lowerExpr c e) ++ [.drop]
  | some ⟨_, some e, _, _⟩ => return (← lowerExpr c e) ++ [.drop]
  | _ => return []

/-- The code that takes a value from the stack into a target. -/
def lowerTarget (c : Context) : Expr → Lower (List Code)
  | .name _ name => return [c.store name]
  | .attribute _ object name => return (← lowerExpr c object) ++ [.setAttribute name]
  | .subscript _ object index => return (← lowerExpr c object) ++ (← lowerExpr { c with writes := true } index) ++ [.setItem]
  | .list place items => return (← unpackCode place items) :: (← lowerTargets c items)
  | .tuple place items => return (← unpackCode place items) :: (← lowerTargets c items)
  | .starred place _ => faultAt place "starred assignment target must be in a list or tuple"
  | _ => return []

def lowerTargets (c : Context) : List Expr → Lower (List Code)
  | [] => return []
  | .starred _ e :: rest => return (← lowerTarget c e) ++ (← lowerTargets c rest)
  | e :: rest => return (← lowerTarget c e) ++ (← lowerTargets c rest)

/-- The code that deletes a target. -/
def lowerDeletion (c : Context) : Expr → Lower (List Code)
  | .name _ name => return [.erase name (c.locate name)]
  | .attribute _ object name => return (← lowerExpr c object) ++ [.eraseAttribute name]
  | .subscript _ object index => return (← lowerExpr c object) ++ (← lowerExpr { c with writes := true } index) ++ [.eraseItem]
  | .list _ items => lowerDeletions c items
  | .tuple _ items => lowerDeletions c items
  | _ => return []

def lowerDeletions (c : Context) : List Expr → Lower (List Code)
  | [] => return []
  | e :: rest => return (← lowerDeletion c e) ++ (← lowerDeletions c rest)

end

/-- Assigns the value of some code to targets. A row in round brackets among them has the code run anew for each. -/
def lowerAssignment (c : Context) (targets : List Expr) (value : List Code) : Lower (List Code) := do
  let isRow : Expr → Bool := fun
    | .tuple _ _ => true
    | _ => false
  if targets.any isRow then
    let codes ← targets.mapM fun target => return value ++ guardFor target ++ (← lowerTarget c target)
    return codes.flatten
  else
    let stores ← targets.mapM (lowerTarget c)
    let keeping := (stores.dropLast.map fun store => Code.duplicate :: store).flatten
    return value ++ keeping ++ (stores.getLast?.getD [])

/-- The features that a script may ask for. -/
def features : List String := ["nested_scopes", "generators", "division", "absolute_import", "with_statement",
  "print_function", "unicode_literals", "barry_as_FLUFL", "generator_stop", "annotations"]

/-- Checks a request for features. -/
def checkFeatures (place : Place) : List Alias → Lower Unit
  | [] => return ()
  | entry :: rest => do
    if entry.name.is "braces" then faultAt place "not a chance"
    if !(features.any fun f => entry.name.is f) then
      faultAt place ("future feature " ++ entry.name ++ " is not defined")
    checkFeatures place rest

def importRefusal : Code := .fail .importError "__import__ not found"

mutual

def lowerStmt (c : Context) : Stmt → Lower (List Code)
  | .expr _ value => return (← lowerExpr c value) ++ [.drop]
  | .assign _ targets value => do lowerAssignment c targets (← lowerExpr c value)
  | .augment _ target operator value =>
    return (← lowerExpr c target) ++ (← lowerExpr c value) ++ .augmented operator :: (← lowerTarget c target)
  | .return_ place value => do
    if !c.inFunction then faultAt place "'return' outside function"
    return (← lowerOption c value) ++ [.return_]
  | .raise _ error cause => do
    match error, cause with
    | none, _ => return [.raise false false]
    | some e, none => return (← lowerExpr c e) ++ [.raise true false]
    | some e, some f => return (← lowerExpr c e) ++ (← lowerExpr c f) ++ [.raise true true]
  | .assert _ test message => do
    let failure ← match message with
      | some e => pure ((← lowerExpr c e) ++ [Code.raiseAssertion true])
      | none => pure [Code.raiseAssertion false]
    return (← lowerExpr c test) ++ [.branch [] failure]
  | .delete _ targets => lowerDeletions c targets
  | .pass _ => return []
  | .break_ place => if c.inLoop then return [.break_] else faultAt place "'break' outside loop"
  | .continue_ place => if c.inLoop then return [.continue_] else faultAt place "'continue' not properly in loop"
  | .import_ _ _ => return [importRefusal]
  | .importFrom place module _ _ => do
    if module == some (Text.ofString "__future__") && c.featureLine < place.line then
      faultAt place "from __future__ imports must occur at the beginning of the file"
    return [importRefusal]
  | .global _ _ => return []
  | .if_ _ test body orelse =>
    return (← lowerExpr c test) ++ [.branch (← lowerBlock c body) (← lowerBlock c orelse)]
  | .while place test body orelse => do
    let inner ← c.deeper place 1
    let testCode ← lowerExpr c test
    return [.while testCode (← lowerBlock { inner with inLoop := true } body) (← lowerBlock c orelse)]
  | .for_ place target source body orelse => do
    let inner ← c.deeper place 1
    let sourceCode ← lowerExpr c source
    return sourceCode ++ [.for_ (guardFor target ++ (← lowerTarget c target))
      (← lowerBlock { inner with inLoop := true } body) (← lowerBlock c orelse)]
  | .try_ place body handlers orelse finally_ => do
    let guarded ← if finally_.isEmpty then pure c else c.deeper place 1
    let code ← lowerBlock (← if handlers.isEmpty then pure guarded else guarded.deeper place 1) body
    let whenDone ← lowerBlock guarded orelse
    let whenRaised ← lowerHandlers guarded handlers
    let inner := if handlers.isEmpty then code else [.try_ code whenRaised whenDone]
    if finally_.isEmpty then return inner else return [.finally_ inner (← lowerBlock guarded finally_)]
  | .with_ place items body => do
    let managers ← lowerManagers c place items
    let _ ← lowerBlock (← c.deeper place items.length) body
    return managers
  | .function _ name parameters body decorators returns => do
    let events := blockEvents body
    let scope := functionScope parameters.names events
    let fullName := c.fullName name
    let wrappers ← lowerExprs c decorators
    let defaults ← lowerParameters c parameters
    let returned ← match returns with
      | some e => pure ((← lowerExpr c e) ++ [Code.drop])
      | none => pure []
    let code ← lowerBlock (c.inside scope fullName) body
    let prints := blockReadsPrint body || parametersReadPrint parameters || readPrint decorators || readsPrint? returns
    let code := if prints then printRefusal :: code else code
    let shape : FunctionShape := ⟨name, fullName, parameterShapes parameters, scope.names.length, hasYield events,
      capturesOf code⟩
    return wrappers ++ defaults.1 ++ returned ++ [.function shape code defaults.2.1 defaults.2.2]
      ++ decorators.map (fun _ => Code.call 1 []) ++ [c.store name]
  | .class_ _ _ bases named body decorators => do
    let wrappers ← lowerExprs c decorators
    let _ ← lowerBlock { c with inFunction := false, inLoop := false, depth := 0 } body
    checkNamed named
    let parents ← lowerExprs c bases
    let _ ← lowerNamedValues c named
    return wrappers ++ parents ++ [.fail .nameError "name '__metaclass__' is not defined"]
  | .forbidden _ _ => return []

def lowerBlock (c : Context) : List Stmt → Lower (List Code)
  | [] => return []
  | s :: rest => return (← lowerStmt c s) ++ (← lowerBlock c rest)

def lowerHandlers (c : Context) :
    List (Handler Stmt) → Lower (List (List Code × Option (Text × Location) × List Code))
  | [] => return []
  | ⟨place, kind, name, body⟩ :: rest => do
    if kind.isNone && !rest.isEmpty then faultAt place "default 'except:' must be last"
    let test ← match kind with
      | some e => lowerExpr (← c.deeper place 1) e
      | none => pure []
    let kept := name.map fun name => (name, c.locate name)
    return (test, kept, ← lowerBlock (← c.deeper place 2) body) :: (← lowerHandlers c rest)

/-- What the managers of a block are, each inside those before it. Only the first can be entered. -/
def lowerManagers (c : Context) (place : Place) : List (Expr × Option Expr) → Lower (List Code)
  | [] => return []
  | (value, target) :: rest => do
    let code ← lowerExpr c value
    let inner ← c.deeper place 1
    let _ ← match target with
      | some e => lowerTarget inner e
      | none => pure []
    let _ ← lowerManagers inner place rest
    return code ++ [.enterContext]

end

/-- The last line of the requests for features, which stand before everything but a text. -/
def featureLine : Nat → List Stmt → Lower Nat
  | last, .importFrom place module names _ :: rest => do
    if module == some (Text.ofString "__future__") then
      checkFeatures place names
      featureLine place.line rest
    else return last
  | last, _ => return last

def withoutDescription : List Stmt → List Stmt
  | .expr _ (.constant _ (.text _)) :: rest => rest
  | body => body

end Lowering

open Lowering in
/-- The code of a script's tree. -/
def Program.ofTree (body : List Stmt) : Except CodeFault (List Code) := do
  let line ← featureLine 0 (withoutDescription body)
  checkBlocks body
  let code ← lowerBlock ⟨[], [], false, false, 0, line, false⟩ body
  return if blockReadsPrint body then printRefusal :: code else code

/-- The code of a script, or what is said about why it has none. -/
def compile (source : Text) : Except Text (List Code) := do
  let body ← parsePermitted source
  match Program.ofTree body with
  | .ok code => .ok code
  | .error fault => .error fault.message

end PhaseScript.Script
