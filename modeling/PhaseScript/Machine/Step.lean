import PhaseScript.Machine.Scope
import PhaseScript.Machine.Call
import PhaseScript.Machine.Format
/-
One step of a function that runs. A step carries out one instruction, or leaves a block that has come to its end.
When a step raises, the blocks around are left one by one until one of them handles the exception.
-/
set_option autoImplicit false

namespace PhaseScript.Machine

open Script (Code)

/-- Why a function stops: it waits at a `yield` with a value, has a result, or has raised. -/
inductive Halt where
  | paused (v : Value) (frame : Frame)
  | finished (v : Value)
  | failed (error : Value)
  deriving Inhabited

/-- What comes of a step: more to do, or a halt. -/
abbrev Progress := Except Frame Halt

/-- The value of a constant. -/
def valueOf : Script.Constant → Value
  | .none => .none
  | .bool b => .bool b
  | .ellipsis => .ellipsis
  | .int n => .int n
  | .float x => .float x
  | .imaginary x => .complex Binary64.zero x
  | .text t => .text t
  | .bytes b => .bytes b

namespace Run

/-- There is more to do. -/
def goOn (frame : Frame) : Run Progress := return .error frame

/-- The function stops. -/
def halt (reason : Halt) : Run Progress := return .ok reason

/-- An exception begins to be handled. -/
def beginHandling (error : Value) : Run Unit := fun w => .ok () { w with handled := error :: w.handled }

/-- The latest exception that is being handled has been dealt with. -/
def endHandling : Run Unit := fun w => .ok () { w with handled := w.handled.drop 1 }

/-- The exceptions that the blocks of a frame are handling, the latest first. -/
def handledBy (blocks : List Block) : List Value := blocks.filterMap fun
  | .handling error _ => some error
  | .resume (.raised error) => some error
  | _ => none

/-- A handler is left: its exception is dealt with and its name forgotten. -/
def leaveHandler (scope : Option Nat) (name : Option (Text × Script.Location)) : Run Unit := do
  endHandling
  match name with
  | some (name, location) => forget scope name location
  | none => return ()

/-- The frame with other code, blocks and an empty stack. -/
def restart (frame : Frame) (code : List Code) (blocks : List Block) : Frame := { frame with code, blocks, stack := [] }

/-- Begins the code that runs in any case. -/
def beginFinal (frame : Frame) (pending : Completion) (code : List Code) (blocks : List Block) : Run Progress := do
  match pending with
  | .raised error => beginHandling error
  | _ => pure ()
  goOn (restart frame code (.resume pending :: blocks))

/-- Goes on with the kinds of the next handler, if there is one. -/
def nextHandler (frame : Frame) (error : Value) (handlers : List HandlerCode) (blocks : List Block) :
    Option Frame :=
  match handlers with
  | [] => none
  | (test, _, _) :: _ => some (restart frame test (.matching error handlers :: blocks))

/-- Leaves blocks until one of them deals with the way in which they are left. -/
def leave (frame : Frame) (completion : Completion) : List Block → Run Progress
  | [] =>
    match completion with
    | .raised error => halt (.failed error)
    | .returned v => halt (.finished v)
    | _ => halt (.finished .none)
  | block :: blocks => do
    match block, completion with
    | .loop test body orelse, .continued =>
      goOn (restart frame test (.deciding test body orelse :: blocks))
    | .each _ _ _ _, .continued => goOn (restart frame [] (block :: blocks))
    | .loop _ _ _, .broke | .each _ _ _ _, .broke => goOn (restart frame [] blocks)
    | .guarded handlers _, .raised error =>
      match nextHandler frame error handlers blocks with
      | some frame => goOn frame
      | none => leave frame completion blocks
    | .handling _ name, _ =>
      leaveHandler frame.scope name
      leave frame completion blocks
    | .final code, _ => beginFinal frame completion code blocks
    | .resume (.raised _), _ =>
      endHandling
      leave frame completion blocks
    | _, _ => leave frame completion blocks

/-- Whether an exception is of one of the kinds that a handler is for: a kind, or a tuple of kinds. -/
def isHandled (error kinds : Value) : Run Bool := do
  let kinds := match kinds with
    | .tuple items _ => items
    | v => [v]
  let kinds ← kinds.mapM fun v => do
    match v with
    | .type (.exception kind) => return kind
    | _ => typeError "catching classes that do not inherit from BaseException is not allowed"
  match ← cell? error with
  | some (.exception of_ _ _) => return kinds.any of_.is
  | _ => return false

/-- Takes a handler that fits, or goes on with the next one. A handler without a test fits everything. -/
def tryHandler (frame : Frame) (error : Value) (handlers : List HandlerCode) (blocks : List Block) : Run Progress := do
  match handlers with
  | [] => leave frame (.raised error) blocks
  | (test, name, body) :: rest =>
    let fits ← match test, frame.stack with
      | [], _ => pure true
      | _, kinds :: _ => isHandled error kinds
      | _, [] => pure false
    if fits then
      beginHandling error
      match name with
      | some (name, location) => store frame.scope name location error
      | none => pure ()
      goOn (restart frame body (.handling error name :: blocks))
    else match nextHandler frame error rest blocks with
      | some frame => goOn frame
      | none => leave frame (.raised error) blocks

/-- The code at hand has come to its end: leaves the innermost block, or goes round once more. -/
def endOfCode (m : Interp) (frame : Frame) : Run Progress := do
  match frame.blocks with
  | [] => halt (.finished .none)
  | block :: blocks =>
    match block with
    | .then_ rest => goOn { frame with code := rest, blocks }
    | .deciding test body orelse =>
      let goesOn ← truth (frame.stack.headD .none)
      goOn (if goesOn then restart frame body (.loop test body orelse :: blocks) else restart frame orelse blocks)
    | .loop test body orelse => goOn { frame with code := test, blocks := .deciding test body orelse :: blocks }
    | .each it target body orelse =>
      match ← nextItem m it with
      | some v => goOn { frame with code := target ++ body, stack := v :: frame.stack }
      | none => goOn { frame with code := orelse, blocks }
    | .guarded _ orelse => goOn { frame with code := orelse, blocks }
    | .matching error handlers => tryHandler frame error handlers blocks
    | .handling _ name =>
      leaveHandler frame.scope name
      goOn { frame with blocks }
    | .final code => beginFinal frame .normal code blocks
    | .resume pending =>
      match pending with
      | .normal => goOn { frame with blocks }
      | .raised _ =>
        endHandling
        leave frame pending blocks
      | _ => leave frame pending blocks

/-- The iterator of a value that is taken apart. -/
def unpackIterator (v : Value) : Run Value := do
  match ← catching (iterator v) with
  | .ok it => return it
  | .error _ => typeErrorOf "cannot unpack non-iterable " v " object"

/-- The next items of an iterator after those found, at most so many, and whether there are more. -/
def takeItems (m : Interp) (it : Value) : Nat → List Value → Run (List Value × Bool)
  | 0, found => do return (found.reverse, (← nextItem m it).isSome)
  | n + 1, found => do
    match ← nextItem m it with
    | some v => takeItems m it n (v :: found)
    | none => return (found.reverse, false)

/-- Takes the items of a value for so many places. -/
def unpackExactly (m : Interp) (v : Value) (count : Nat) : Run (List Value) := do
  let (items, hasMore) ← takeItems m (← unpackIterator v) count []
  if hasMore then valueError ("too many values to unpack (expected " ++ Text.ofNat count ++ ")")
  if items.length < count then
    valueError ("not enough values to unpack (expected " ++ Text.ofNat count ++ ", got "
      ++ Text.ofNat items.length ++ ")")
  return items

/-- Takes the items of a value for the places before and after one that gets all the others. -/
def unpackAround (m : Interp) (v : Value) (before after : Nat) : Run (List Value) := do
  let items ← itemsOf m (← unpackIterator v)
  if items.length < before + after then
    valueError ("not enough values to unpack (expected at least " ++ Text.ofNat (before + after) ++ ", got "
      ++ Text.ofNat items.length ++ ")")
  let middle := (items.drop before).take (items.length - before - after)
  return items.take before ++ (← newList middle) :: items.drop (items.length - after)

mutual

/-- A list of the items of a value, in which the parts that are taken apart in turn are such lists as well. -/
def guardedRow (m : Interp) (v : Value) : Script.UnpackSpec → Run Value
  | .items least children => do
    let items := (← itemsOf m v).toArray
    if items.size < least then newArray items
    else newArray (← guardedParts m items children)

def guardedParts (m : Interp) (items : Array Value) : List (Int × Script.UnpackSpec) → Run (Array Value)
  | [] => return items
  | (index, spec) :: rest => do
    let place := (if index < 0 then index + items.size else index).toNat
    match items[place]? with
    | some v => guardedParts m (items.setIfInBounds place (← guardedRow m v spec)) rest
    | none => guardedParts m items rest

end

/-- Raises what a `raise` names. -/
def raiseNamed {α : Type} (m : Interp) (v : Value) : Run α := do
  match ← exceptionFrom? m v with
  | some error => raiseValue error
  | none => typeError "exceptions must derive from BaseException"

/-- Checks what a `raise` gives as the cause. -/
def checkCause (m : Interp) (cause : Value) : Run Unit := do
  match cause with
  | .none => return ()
  | _ =>
    if (← exceptionFrom? m cause).isNone then typeError "exception causes must derive from BaseException"

/-- Raises again what is being handled. -/
def raiseAgain {α : Type} : Run α := do
  let handled ← fun w => .ok w.handled w
  match handled with
  | error :: _ => raiseValue error
  | [] => raise .runtimeError "No active exception to reraise"

/-- Hands a value to an iterator that another function's items come from. -/
def delegate (m : Interp) (it handed : Value) : Run Pause := do
  let plain : Run Pause := do
    match ← nextItem m it with
    | some v => return .yielded v
    | none => return .returned .none
  match it with
  | .ref address =>
    match ← cellAt address, handed with
    | .generator _ _, _ => m.resume address (.ok handed)
    | _, .none => plain
    | _, _ => do
      let kind ← typeName it
      raise .attributeError ("'" ++ kind ++ "' object has no attribute 'send'")
  | _ => plain

/-- The name of the function through which calls with spread arguments go. -/
def spreadCaller : Text := "_apply"

/-- The items that a star adds to a call. -/
def spreadItems (m : Interp) (v : Value) : Run (List Value) := do
  match ← catching (iterator v) with
  | .ok _ => itemsOf m v
  | .error _ => typeErrorOf "Value after * must be an iterable, not " v []

/-- Adds named arguments to others; a name must be a text and must not come twice. -/
def addNamed (f : Value) (entries : Array (Value × Value)) (more : Value) : Run (Array (Value × Value)) := do
  let _ := f
  match ← entries? more with
  | none =>
    typeErrorOf "plugin_runtime.engines.script.sandbox._apply() argument after ** must be a mapping, not " more []
  | some others =>
    others.foldlM (fun found (key, v) => do
      match key with
      | .text name =>
        if (findKey? found key).isSome then
          typeError ("plugin_runtime.engines.script.sandbox._apply() got multiple values for keyword argument '" ++ name
            ++ "'")
        return found.push (key, v)
      | _ => typeError "keywords must be strings") entries

/-- Named arguments from the entries of a dict. -/
def namedArguments (entries : Array (Value × Value)) : List (Text × Value) :=
  entries.toList.filterMap fun
    | (.text name, v) => some (name, v)
    | _ => none

/-- Calls through the function that spreads arguments: its own first parameter goes by a name, which is taken. -/
def callSpread (m : Interp) (f : Value) (args : List Value) (named : List (Text × Value)) : Run Value := do
  if named.any fun entry => entry.1.is "f" then
    typeError (spreadCaller ++ "() got multiple values for argument 'f'")
  m.call f args named

/-- The values of a dict display, pairs of key and value from the bottom up. -/
def entriesFrom : List Value → Array (Value × Value) → Run (Array (Value × Value))
  | k :: v :: rest, found => do
    checkHashable k
    entriesFrom rest (putEntry found k v)
  | _, found => return found

/-- Makes what a display shows. -/
def display (kind : Script.DisplayKind) (items : List Value) : Run Value := do
  match kind with
  | .list => newList items
  | .tuple => newTuple items
  | .constantTuple => return .tuple items .items
  | .set =>
    items.forM checkHashable
    newSet (ValueSet.ofItems items.toArray)
  | .constantSet =>
    let noted := ValueSet.ofItems (ValueSet.ofItems items.toArray).items
    newSet noted.copy

/-- Adds items to the list or set below them. -/
def addTo (container : Value) (items : List Value) : Run Unit := do
  match container with
  | .ref address =>
    match ← cellAt address with
    | .list found =>
      setCell address (.namespace [])
      setCell address (.list (items.foldl Array.push found))
    | .set _ => do
      items.forM checkHashable
      modifySet address fun s => items.foldl ValueSet.with_ s
    | _ => return ()
  | _ => return ()

/-- Adds the items of a value to the list or set below it. -/
def spreadTo (m : Interp) (container v : Value) : Run Unit := do
  match container, ← cell? container with
  | .ref address, some (.set _) => addItems m address v
  | _, _ => addTo container (← spreadItems m v)

/-- Carries out an instruction that leaves blocks or halts, or one that only changes the stack. -/
def execute (m : Interp) (frame : Frame) (instruction : Code) (rest : List Code) : Run Progress := do
  let stack := frame.stack
  let go (stack : List Value) : Run Progress := goOn { frame with code := rest, stack }
  let after : List Block := if rest.isEmpty then frame.blocks else .then_ rest :: frame.blocks
  let enter (code : List Code) (stack : List Value) : Run Progress :=
    goOn { frame with code, stack, blocks := after }
  match instruction, stack with
  | .constant c, _ => go (valueOf c :: stack)
  | .load name location, _ => do go ((← load frame.scope name location) :: stack)
  | .store name location, v :: stack => do
    store frame.scope name location v
    go stack
  | .erase name location, _ => do
    erase frame.scope name location
    go stack
  | .drop, _ => go (stack.drop 1)
  | .duplicate, v :: _ => go (v :: stack)
  | .attribute name, v :: stack => do go ((← getAttribute v name) :: stack)
  | .setAttribute name, v :: new :: stack => do
    setAttribute v name new
    go stack
  | .eraseAttribute name, v :: stack => do
    eraseAttribute v name
    go stack
  | .item, i :: v :: stack => do go ((← item v i) :: stack)
  | .setItem, i :: v :: new :: stack => do
    setItem m v i new
    go stack
  | .eraseItem, i :: v :: stack => do
    eraseItem v i
    go stack
  | .slice, step :: stop :: start :: stack => go (.slice start stop step :: stack)
  | .unary operator, v :: stack => do go ((← unary operator v) :: stack)
  | .binary operator, w :: v :: stack => do go ((← binary m item operator v w) :: stack)
  | .augmented operator, w :: v :: stack => do go ((← augment m item operator v w) :: stack)
  | .compare operator, w :: v :: stack => do go ((← comparison m operator v w) :: stack)
  | .display kind size, _ => do go ((← display kind (stack.take size).reverse) :: stack.drop size)
  | .dict size, _ => do
    let entries ← entriesFrom (stack.take (2 * size)).reverse #[]
    go ((← alloc (.dict entries false)) :: stack.drop (2 * size))
  | .addItem, v :: container :: stack => do
    addTo container [v]
    go (container :: stack)
  | .addItems, v :: container :: stack => do
    spreadTo m container v
    go (container :: stack)
  | .listToTuple, v :: stack => do go ((← newTuple (← itemsOf m v)) :: stack)
  | .addEntry, v :: k :: container :: stack => do
    checkHashable k
    match container with
    | .ref address => setDict address (putEntry (← dictAt address) k v)
    | _ => pure ()
    go (container :: stack)
  | .addEntries, v :: container :: stack => do
    match ← entries? v, container with
    | some more, .ref address => setDict address (putEntries (← dictAt address) more)
    | _, _ => typeErrorOf "'" v "' object is not a mapping"
    go (container :: stack)
  | .addNamed, v :: container :: stack => do
    match container with
    | .ref address => setDict address (← addNamed container (← dictAt address) v)
    | _ => pure ()
    go (container :: stack)
  | .call positional names, _ => do
    let values := (stack.take names.length).reverse
    let below := stack.drop names.length
    let args := (below.take positional).reverse
    match below.drop positional with
    | f :: stack => do go ((← m.call f args (names.zip values)) :: stack)
    | [] => go []
  | .spreadCall true, named :: args :: f :: stack => do
    go ((← callSpread m f (← itemsOf m args) (namedArguments ((← entries? named).getD #[]))) :: stack)
  | .spreadCall false, args :: f :: stack => do go ((← callSpread m f (← itemsOf m args) []) :: stack)
  | .branch whenTrue whenFalse, v :: stack => do enter (if ← truth v then whenTrue else whenFalse) stack
  | .andAlso more, v :: below => do if ← truth v then enter more below else go stack
  | .orElse more, v :: below => do if ← truth v then go stack else enter more below
  | .chain operator more, w :: v :: stack => do
    let held ← comparison m operator v w
    if ← truth held then enter more (w :: stack) else go (held :: stack)
  | .function shape body defaults namedDefaults, _ => do
    let namedValues := (stack.take namedDefaults.length).reverse
    let below := stack.drop namedDefaults.length
    let f ← alloc (.function shape body frame.scope (below.take defaults).reverse (namedDefaults.zip namedValues))
    go (f :: below.drop defaults)
  | .comprehend _ shape body, v :: stack => do
    let it ← iterator v
    let f ← alloc (.function shape body frame.scope [] [])
    go ((← m.call f [it] []) :: stack)
  | .refuseAsync, v :: _ =>
    typeErrorOf "'async for' requires an object with __aiter__ method, got " v []
  | .format conversion true, asked :: v :: stack => do
    go (.text (← formatValue (← converted conversion v) (← plainText asked)) :: stack)
  | .format conversion false, v :: stack => do
    go (.text (← formatValue (← converted conversion v) []) :: stack)
  | .join size, _ => do
    let texts ← (stack.take size).reverse.mapM plainText
    go (.text texts.flatten :: stack.drop size)
  | .yieldValue, v :: stack => halt (.paused v { frame with code := rest, stack })
  | .iterate, v :: stack => do go ((← iterator v) :: stack)
  | .yieldFrom, handed :: it :: stack => do
    match ← delegate m it handed with
    | .yielded v => halt (.paused v { frame with stack := it :: stack })
    | .returned v => go (v :: stack)
  | .guardUnpack spec, v :: stack => do go ((← guardedRow m v spec) :: stack)
  | .unpack before none, v :: stack => do go ((← unpackExactly m v before) ++ stack)
  | .unpack before (some after), v :: stack => do go ((← unpackAround m v before after) ++ stack)
  | .raise false _, _ => raiseAgain
  | .raise true false, v :: _ => raiseNamed m v
  | .raise true true, cause :: v :: _ => do
    match ← exceptionFrom? m v with
    | none => typeError "exceptions must derive from BaseException"
    | some error =>
      checkCause m cause
      raiseValue error
  | .raiseAssertion true, v :: _ => raiseArgs .assertionError [v]
  | .raiseAssertion false, _ => raiseArgs .assertionError []
  | .while test body orelse, _ => goOn { frame with code := test, blocks := .deciding test body orelse :: after }
  | .for_ target body orelse, v :: stack => do
    let it ← iterator v
    goOn { frame with code := [], stack, blocks := .each it target body orelse :: after }
  | .try_ body handlers orelse, _ => goOn { frame with code := body, blocks := .guarded handlers orelse :: after }
  | .finally_ body final, _ => goOn { frame with code := body, blocks := .final final :: after }
  | .break_, _ => leave frame .broke frame.blocks
  | .continue_, _ => leave frame .continued frame.blocks
  | .return_, v :: _ => leave frame (.returned v) frame.blocks
  | .enterContext, v :: _ => typeErrorOf "'" v "' object does not support the context manager protocol"
  | .fail kind words, _ => raise kind words
  | _, _ => go stack

/-- One step of a frame. -/
def step (m : Interp) (frame : Frame) : Run Progress := do
  let attempt := match frame.code with
    | [] => endOfCode m frame
    | instruction :: rest => execute m frame instruction rest
  match ← catching attempt with
  | .ok progress => return progress
  | .error error =>
    noteTrace frame.scope error
    leave frame (.raised error) frame.blocks

end Run

end PhaseScript.Machine
