import PhaseScript.Machine.Step
/-
Letting go of generators. A generator that waits where something is left to be done is closed as soon as nothing holds
it any more, so that what is to be done in any case is done then. This is looked into after each step, and only where a
script can leave something half done.
-/
set_option autoImplicit false

namespace PhaseScript.Machine

/-- Whether a block has something done when it is left. -/
def Block.isGuard : Block → Bool
  | .guarded _ _ | .final _ => true
  | _ => false

/-- Whether a generator waits where something is left to be done. -/
def Cell.isLingering : Cell → Bool
  | .generator _ (.waiting frame true) => frame.blocks.any Block.isGuard
  | _ => false

/-- The frames and the values that go on after a step. -/
def Progress.kept : Progress → List Frame × List Value
  | .error frame => ([frame], [])
  | .ok (.paused v frame) => ([frame], [v])
  | .ok (.finished v) | .ok (.failed v) => ([], [v])

/-- Whether what a name stands for holds nothing. -/
def placeIsBare (w : World) (scope : Option Nat) (name : Text) (location : Script.Location) : Bool :=
  match location with
  | .global => ((getNamed? w.globals name).map fun v => v.held.isEmpty).getD true
  | .slot hops index =>
    match scopeAbove w.heap hops scope with
    | some address => ((Holder.slot address index).held w.heap w.watch).isEmpty
    | none => true

/-- Whether the next step of a frame lets go of nothing that holds anything, as far as it can be told beforehand. -/
def dropsNothing (w : World) (frame : Frame) : Bool :=
  let areBare (count : Nat) : Bool := (frame.stack.take count).all fun v => v.held.isEmpty
  match frame.code with
  | [] => match frame.blocks with
    | .then_ _ :: _ | .loop _ _ _ :: _ => true
    | _ => false
  | instruction :: _ => match instruction with
    | .constant _ | .load _ _ | .duplicate | .display _ _ | .dict _ | .for_ _ _ _ | .while _ _ _ | .try_ _ _ _
    | .finally_ _ _ => true
    | .drop | .unary _ | .branch _ _ | .andAlso _ | .orElse _ => areBare 1
    | .binary _ | .augmented _ | .compare _ | .chain _ _ => areBare 2
    | .store name location => placeIsBare w frame.scope name location
    | _ => false

/-- The frame as it holds its values while its next instruction is carried out: a function of the script is handed its
arguments for good, and other functions are lent them. -/
def Frame.waiting (heap : Array Cell) (frame : Frame) : Frame :=
  match frame.code with
  | .comprehend _ _ _ :: _ => { frame with stack := frame.stack.drop 1 }
  | .call positional names :: _ =>
    match frame.stack.drop (positional + names.length) with
    | .ref address :: below =>
      match heap[address]? with
      | some (.function _ _ _ _ _) => { frame with stack := below }
      | _ => frame
    | _ => frame
  | _ => frame

/-- Whether a frame goes on after a step without leaving a block. -/
def goesOnInside (frame : Frame) : Progress → Bool
  | .error after => frame.blocks.length ≤ after.blocks.length || frame.code.isEmpty
  | .ok _ => false

namespace Run

/-- Carries out a part of a frame's work, for which the frame waits. -/
def whileWaiting {α : Type} (frame : Frame) (part : Run α) : Run α := do
  let before ← watched
  if !before.isOn then part
  else
    modifyWatch fun watch => { watch with outer := frame :: before.outer }
    let outcome ← catching part
    modifyWatch fun watch => { watch with outer := before.outer, results := before.results }
    match outcome with
    | .ok a => return a
    | .error error => raiseValue error

/-- Takes note of a generator that waits where something is left to be done. -/
def noteLingering (address : Nat) : Run Unit := do
  let watch ← watched
  if watch.isOn && !watch.lingering.contains address && (← cellAt address).isLingering then
    modifyWatch fun watch => { watch with lingering := watch.lingering ++ [address] }

/-- Closes a generator that nothing holds. What it raises is lost, and if it waits again it is not gone on with. -/
def dismiss (m : Interp) (address : Nat) : Run Unit := do
  let _ ← catching (closeGenerator m address)
  match ← cellAt address with
  | .generator name _ => setCell address (.generator name .finished)
  | _ => return ()

/-- Closes the generators that nothing holds any more after a step, when only some frames and values go on beside those
that wait; `before` is what was held before the step. Closing one may let go of others. -/
def release (m : Interp) (before : List Holder) (kept : List Frame × List Value) : Nat → Run Unit
  | 0 => return ()
  | fuel + 1 => do
    let (heap, handled, globals) ← fun w => .ok (w.heap, w.handled, w.globals) w
    let watch ← watched
    let lingering := watch.lingering.filter fun address => (heap[address]?).any Cell.isLingering
    if !lingering.isEmpty then
      let running := (kept.1 ++ watch.outer).flatMap (Frame.held heap)
        ++ heldByAll (kept.2 ++ watch.results ++ handled ++ globals.map (·.2))
      let alive := (reach (Holder.held heap watch) searchBound running {} []).1
      if !(lingering.all fun address => alive.contains (.cell address)) then
        let gone := (unheld heap watch alive before).filterMap fun
          | .cell address => if lingering.contains address then some address else none
          | .slot _ _ => none
        if !gone.isEmpty then
          modifyWatch fun now => { now with
            lingering, outer := kept.1 ++ watch.outer, results := kept.2 ++ gone.map Value.ref ++ watch.results }
          gone.forM fun address => do if (← cellAt address).isLingering then dismiss m address
          modifyWatch fun now => { now with outer := watch.outer, results := watch.results }
          release m before kept fuel

/-- How often closing generators may let go of others. -/
def releaseBound : Nat := 1000

/-- What a frame and the global names hold, directly or through other things, if a generator is watched. -/
def heldNow (frame : Frame) : Run (List Holder) := do
  if (← watched).lingering.isEmpty then return []
  let (heap, globals) ← fun w => .ok (w.heap, w.globals) w
  let watch ← watched
  return (reach (Holder.held heap watch) searchBound (frame.held heap ++ heldByAll (globals.map (·.2))) {} []).2.reverse

/-- One step of a frame, and what comes of what it lets go of. -/
def watchedStep (m : Interp) (frame : Frame) : Run Progress := do
  if !(← watched).isOn then step m frame
  else if ← fun w => .ok (dropsNothing w frame) w then
    let progress ← whileWaiting frame (step m frame)
    if !goesOnInside frame progress then release m (← heldNow frame) progress.kept releaseBound
    return progress
  else
    let before ← heldNow frame
    let heap ← fun w => .ok w.heap w
    let progress ← whileWaiting (frame.waiting heap) (step m frame)
    release m before progress.kept releaseBound
    return progress

end Run

end PhaseScript.Machine
