import PhaseScript.Machine.Holding
import PhaseScript.Rpc.Channel
/-
The state of a run and the effects of its steps. A step may change the state also when it raises: what was sent or
written before stays.
-/
set_option autoImplicit false

namespace PhaseScript.Machine

/-- The state of a run. -/
structure World where
  heap : Array Cell
  globals : List (Text × Value)
  exchange : Http.Exchange
  environment : List (Text × Text)
  channel : Option Rpc.Channel
  /-- How many promises have been made. -/
  promises : Nat
  /-- How many marks have been given. -/
  marks : Nat
  /-- The exceptions that are being handled, the latest first. -/
  handled : List Value
  watch : Watch
  deriving Inhabited

/-- Why a step has no result. -/
inductive Trouble where
  | raised (error : Value)
  /-- The bound for the number of steps was reached. -/
  | exhausted
  deriving Inhabited

/-- A step that may change the state and may raise. -/
abbrev Run (α : Type) := EStateM Trouble World α

/-- Puts a value under a name: in its place if the name is there, else last. -/
def putNamed {α : Type} (name : Text) (value : α) : List (Text × α) → List (Text × α)
  | [] => [(name, value)]
  | (n, v) :: rest => if n == name then (n, value) :: rest else (n, v) :: putNamed name value rest

def getNamed? {α : Type} (entries : List (Text × α)) (name : Text) : Option α :=
  (entries.find? fun entry => entry.1 == name).map (·.2)

namespace Run

/-- A new cell. -/
def alloc (cell : Cell) : Run Value := fun w => .ok (.ref w.heap.size) { w with heap := w.heap.push cell }

def cellAt (address : Nat) : Run Cell := fun w => .ok ((w.heap[address]?).getD (.namespace [])) w

def setCell (address : Nat) (cell : Cell) : Run Unit := fun w => .ok () { w with heap := w.heap.setIfInBounds address cell }

def watched : Run Watch := fun w => .ok w.watch w

def modifyWatch (change : Watch → Watch) : Run Unit := fun w => .ok () { w with watch := change w.watch }

/-- Notes what came of a part of the step at hand, until the step ends. -/
def noteResult (v : Value) : Run Unit := do
  if (← watched).isOn then modifyWatch fun watch => { watch with results := v :: watch.results }

/-- Notes that an exception has come through a scope. -/
def noteTrace (scope : Option Nat) (error : Value) : Run Unit := do
  match scope, error with
  | some scope, .ref address =>
    let watch ← watched
    if watch.isOn && !watch.traces.contains (address, scope) then
      modifyWatch fun watch => { watch with traces := (address, scope) :: watch.traces }
  | _, _ => return ()

/-- The cell that a value is the address of. -/
def cell? (v : Value) : Run (Option Cell) :=
  match v with
  | .ref address => return some (← cellAt address)
  | _ => return none

def newList (items : List Value) : Run Value := alloc (.list items.toArray)

def newArray (items : Array Value) : Run Value := alloc (.list items)

/-- A dict of entries that have different keys. -/
def newDict (entries : List (Value × Value)) : Run Value := alloc (.dict entries.toArray false)

def newException (kind : ExceptionKind) (args : List Value) : Run Value := alloc (.exception kind args [])

/-- A mark that nothing has yet. -/
def newMark : Run Nat := fun w => .ok (w.marks + 1) { w with marks := w.marks + 1 }

/-- A new row. -/
def newTuple (items : List Value) : Run Value := return .tuple items (.own (← newMark))

/-- A row as a plain one, whose items go by no names. -/
def plainRow (items : List Value) (mark : RowMark) : Run Value :=
  match mark with
  | .week _ => newTuple items
  | _ => return .tuple items mark

/-- A number that is none gets a mark of its own, by which it is known. -/
def newNumber (x : Binary64) : Run Binary64 := do
  if x.isNaN then return x.marked (← newMark) else return x

/-- What comes of an operation: numbers that are none are new. -/
def fresh (v : Value) : Run Value := do
  match v with
  | .float x => if x.isNaN then return .float (← newNumber x) else return v
  | .complex re im =>
    if re.isNaN || im.isNaN then return .complex (← newNumber re) (← newNumber im) else return v
  | _ => return v

/-- What a call gives: numbers that are none and have no mark yet are new. -/
def freshUnmarked (v : Value) : Run Value := do
  let fits (x : Binary64) : Bool := !x.isNaN || x.abs == Binary64.nan
  match v with
  | .float x => if x.isNaN && fits x then fresh v else return v
  | .complex re im => if (re.isNaN || im.isNaN) && fits re && fits im then fresh v else return v
  | _ => return v

/-- A new promise. -/
def newPromise (rejected : Bool) (payload : Value) : Run Value := fun w =>
  .ok (.promise w.promises rejected payload) { w with promises := w.promises + 1 }

/-- Raises a value. -/
def raiseValue {α : Type} (error : Value) : Run α := throw (.raised error)

/-- Raises a new exception with these arguments. -/
def raiseArgs {α : Type} (kind : ExceptionKind) (args : List Value) : Run α := do
  raiseValue (← newException kind args)

/-- Raises a new exception with a message. -/
def raise {α : Type} (kind : ExceptionKind) (message : Text) : Run α := raiseArgs kind [.text message]

def typeError {α : Type} (message : Text) : Run α := raise .typeError message

def valueError {α : Type} (message : Text) : Run α := raise .valueError message

/-- Runs a step, giving what it raises as a value. -/
def catching {α : Type} (step : Run α) : Run (Except Value α) := fun before =>
  match step before with
  | .ok a after => .ok (.ok a) after
  | .error (.raised e) after => .ok (.error e) after
  | .error .exhausted after => .error .exhausted after

end Run

end PhaseScript.Machine
