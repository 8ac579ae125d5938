import PhaseScript.Machine.Iterate
import PhaseScript.Envelope
/-
Promises. A promise has settled when it is made, so a callback runs at once; there is nothing to wait for. A value
counts as a promise if it has a `then` that can be called.
-/
set_option autoImplicit false

namespace PhaseScript.Machine.Run

/-- Whether a value can be called. -/
def isCallable (v : Value) : Run Bool := do
  match v with
  | .builtin (.part _ _ _) => return false
  | .type _ | .generic _ _ _ _ | .builtin _ | .method _ _ _ => return true
  | .ref address =>
    match ← cellAt address with
    | .function _ _ _ _ _ => return true
    | .foreign d => return d.isCallable
    | _ => return false
  | _ => return false

/-- Whether a value counts as a promise. -/
def isThenable (v : Value) : Run Bool := do
  match v with
  | .promise _ _ _ => return true
  | .ref address =>
    match ← cellAt address with
    | .dict entries true =>
      match entries.find? fun e => e.1.sameKey (.text "then") with
      | some (_, f) => isCallable f
      | none => return false
    | .foreign d => return d.isThenable
    | _ => return false
  | _ => return false

/-- A promise that is resolved with a value; what counts as a promise stays as it is. -/
def resolve (v : Value) : Run Value := do
  if ← isThenable v then return v else newPromise false v

/-- A promise that is rejected with an error. -/
def reject (error : Value) : Run Value := newPromise true error

/-- Whether what is raised is an error like any other. What tells a generator to leave is none. -/
def isError (raised : Value) : Run Bool := do
  match ← cell? raised with
  | some (.exception kind _ _) => return kind.is .exception
  | _ => return true

/-- What a callback makes of an argument: the promise it gives, a promise of the value it gives, or a rejection with
the error it raises. What is no error goes through. -/
def settle (callback : Value → Run Value) (arg : Value) : Run Value := do
  match ← catching (callback arg) with
  | .error e => if ← isError e then reject e else raiseValue e
  | .ok r => resolve r

/-- The next promise of a chain: the callback for the way in which a promise is settled is called, and without one
the promise itself goes on. -/
def chain (onFulfilled onRejected : Option (Value → Run Value)) (promise : Value) : Run Value := do
  match promise with
  | .promise _ false value =>
    match onFulfilled with
    | some callback => settle callback value
    | none => return promise
  | .promise _ true error =>
    match onRejected with
    | some callback => settle callback error
    | none => return promise
  | _ => return promise

/-- The items gathered so far, the latest first, or the rejection that ends the gathering. -/
abbrev Gathered := Except Value (List Value)

/-- Takes one item in: a rejection ends the gathering, a promise gives its value, anything else is itself. -/
def gather (found : List Value) (item : Value) : Gathered :=
  match item with
  | .promise _ true _ => .error item
  | .promise _ false value => .ok (value :: found)
  | _ => .ok (item :: found)

/-- The promise of all items: the first rejection among them, or a list of what they are resolved with. -/
def allOf (m : Interp) (items : Value) : Run Value := do
  let it ← iterator items
  let gathered ← foldItems m (fun (found : Gathered) item => do
    match found with
    | .error e => return (.error e, true)
    | .ok found => match gather found item with
      | .error e => return (.error e, true)
      | .ok found => return (.ok found, false)) it (.ok [])
  match gathered with
  | .error rejection => return rejection
  | .ok found => do newPromise false (← newList found.reverse)

end PhaseScript.Machine.Run
