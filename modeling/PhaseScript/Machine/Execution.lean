import PhaseScript.Machine.Release
/-
Running functions to their end. Functions call functions, so the machine that a step is given is one level lower than
the machine that takes the step; at the lowest level every call is refused.
-/
set_option autoImplicit false

namespace PhaseScript.Machine

namespace Run

/-- Runs a frame until it halts. -/
def runFrame (m : Interp) (frame : Frame) : Run Halt := loop (watchedStep m) repeatedly frame

/-- Runs a frame to its result. -/
def resultOf (m : Interp) (frame : Frame) : Run Value := do
  match ← runFrame m frame with
  | .finished v => return v
  | .failed error => raiseValue error
  | .paused v _ => return v

/-- Calls a function of the script: a generator is made, anything else runs at once. -/
def callFunction (m : Interp) (shape : Script.FunctionShape) (body : List Script.Code) (outer : Option Nat)
    (defaults : List Value) (namedDefaults : List (Text × Value)) (args : List Value) (named : List (Text × Value)) :
    Run Value := do
  let values ← bindCall shape defaults namedDefaults args named
  let frame : Frame := ⟨body, [], [], ← newScope shape values outer⟩
  if shape.isGenerator then alloc (.generator shape.fullName (.waiting frame false)) else resultOf m frame

/-- Calls a value. -/
def callValue (m : Interp) (f : Value) (args : List Value) (named : List (Text × Value)) : Run Value := do
  match ← cell? f with
  | some (.function shape body outer defaults namedDefaults) =>
    callFunction m shape body outer defaults namedDefaults args named
  | _ => callOther m f args named

/-- What a generator has raised, as those who asked it see it: the end of an iteration would be mistaken for its own. -/
def raisedByGenerator (error : Value) : Run Value := do
  if ← isException .stopIteration error then
    newException .runtimeError [.text "generator raised StopIteration"]
  else return error

/-- Takes note of why a generator has stopped. -/
def settleGenerator (address : Nat) (name : Text) (reason : Halt) : Run Pause := do
  match reason with
  | .paused v frame =>
    let own := (handledBy frame.blocks).length
    (fun w => .ok () { w with handled := w.handled.drop own } : Run Unit)
    setCell address (.generator name (.waiting frame true))
    noteLingering address
    return .yielded v
  | .finished v =>
    setCell address (.generator name .finished)
    return .returned v
  | .failed error =>
    setCell address (.generator name .finished)
    raiseValue (← raisedByGenerator error)

/-- Raises an exception in the generator that another one's items come from, if it is one. -/
def throwDown (m : Interp) (source error : Value) : Run Pause := do
  match source with
  | .ref inner =>
    match ← cellAt inner with
    | .generator _ _ =>
      if ← isException .generatorExit error then
        let _ ← closeGenerator m inner
        raiseValue error
      else m.resume inner (.error error)
    | _ => raiseValue error
  | _ => raiseValue error

/-- The first step of a generator that is gone on with. -/
def wake (m : Interp) (frame : Frame) (begun : Bool) (handed : Except Value Value) : Run Progress := do
  match handed, frame.code, frame.stack with
  | .ok v, _, stack => goOn (if begun then { frame with stack := v :: stack } else frame)
  | .error error, .yieldFrom :: rest, source :: stack =>
    match ← catching (whileWaiting frame (throwDown m source error)) with
    | .ok (.yielded v) => halt (.paused v frame)
    | .ok (.returned v) => goOn { frame with code := rest, stack := v :: stack }
    | .error error => leave frame (.raised error) frame.blocks
  | .error error, _, _ => leave frame (.raised error) frame.blocks

/-- Goes on with a generator. -/
def resumeGenerator (m : Interp) (address : Nat) (handed : Except Value Value) : Run Pause := do
  match ← cellAt address with
  | .generator name (.waiting frame begun) =>
    setCell address (.generator name .running)
    let own := handledBy frame.blocks
    (fun w => .ok () { w with handled := own ++ w.handled } : Run Unit)
    match ← wake m frame begun handed with
    | .ok reason => settleGenerator address name reason
    | .error frame => do settleGenerator address name (← runFrame m frame)
  | .generator _ .running => valueError "generator already executing"
  | _ =>
    match handed with
    | .ok _ => return .returned .none
    | .error error => raiseValue error

/-- The next item of the iterator or generator at an address. -/
def nextAt (m : Interp) (address : Nat) : Run (Option Value) := do
  match ← cellAt address with
  | .iterator name source => nextOfIterator m address name source
  | .generator _ _ =>
    match ← resumeGenerator m address (.ok .none) with
    | .yielded v => return some v
    | .returned _ => return none
  | _ => typeErrorOf "'" (.ref address) "' object is not an iterator"

def tooDeep {α : Type} : Run α := raise .recursionError "maximum recursion depth exceeded"

/-- A value that a part of a step gives. -/
def noted (part : Run Value) : Run Value := do
  let v ← part
  noteResult v
  return v

/-- The next item of the iterator or generator at an address, noted as a part of a step. -/
def notedNext (m : Interp) (address : Nat) : Run (Option Value) := do
  let found ← nextAt m address
  found.forM noteResult
  return found

/-- Goes on with a generator, and notes what it gives as a part of a step. -/
def notedResume (m : Interp) (address : Nat) (handed : Except Value Value) : Run Pause := do
  let pause ← resumeGenerator m address handed
  match pause with
  | .yielded v | .returned v => noteResult v
  return pause

/-- The machine that allows so many calls within calls. -/
def interp : Nat → Interp
  | 0 => ⟨fun _ _ _ => tooDeep, fun _ => tooDeep, fun _ _ => tooDeep⟩
  | depth + 1 =>
    let m := interp depth
    ⟨fun f args named => noted (callValue m f args named), notedNext m, notedResume m⟩

/-- How many calls within calls a script may make. -/
def callDepth : Nat := 985

/-- The machine of a run. -/
def machine : Interp := interp callDepth

/-- Runs the code of a script at its top level. -/
def runScript (code : List Script.Code) : Run Unit := do
  let _ ← resultOf machine ⟨code, [], [], none⟩

end Run

end PhaseScript.Machine
