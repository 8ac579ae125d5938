import PhaseScript.Machine.Compare
/-
What a builtin needs of the machine that runs it: to call a value, to take the next item of an iterator, and to go on
with a generator.
-/
set_option autoImplicit false

namespace PhaseScript.Machine

/-- How a generator stops: it gives a value and waits, or has come to its end with a result. -/
inductive Pause where
  | yielded (v : Value)
  | returned (v : Value)
  deriving Inhabited

structure Interp where
  /-- Calls a value with arguments by position and by name. -/
  call : Value → List Value → List (Text × Value) → Run Value
  /-- The next item of the iterator or generator at an address. -/
  next : Nat → Run (Option Value)
  /-- Goes on with the generator at an address: it is handed a value, or an exception is raised in it. -/
  resume : Nat → Except Value Value → Run Pause

/-- Calls a value with arguments by position. -/
def Interp.apply (m : Interp) (f : Value) (args : List Value) : Run Value := m.call f args []

namespace Run

/-- Raises the complaint that a value does not support something, with the name of its type in the middle. -/
def typeErrorOf {α : Type} (before : Text) (v : Value) (after : Text) : Run α := do
  typeError (before ++ (← typeName v) ++ after)

def repeatedly : Nat := 10 ^ 12

/-- Runs a step until it gives a result; the fuel bounds the number of turns. -/
def loop {σ α : Type} (step : σ → Run (Except σ α)) : Nat → σ → Run α
  | 0, _ => throw .exhausted
  | fuel + 1, s => do
    match ← step s with
    | .error s => loop step fuel s
    | .ok a => return a

/-- The integer that an index is. -/
def index (v : Value) : Run Int :=
  match v.int? with
  | some n => return n
  | none => typeErrorOf "'" v "' object cannot be interpreted as an integer"

/-- The integer that an index is, if it fits in a word of sixty-four bits. -/
def sizeIndex (v : Value) : Run Int := do
  let n ← index v
  if n ≥ 2 ^ 63 || n < -(2 ^ 63) then raise .overflowError "Python int too large to convert to C ssize_t"
  return n

/-- The integer that an index is, if it fits in a word of thirty-two bits. -/
def wordIndex (v : Value) : Run Int := do
  let n ← index v
  if n ≥ 2 ^ 31 || n < -(2 ^ 31) then raise .overflowError "Python int too large to convert to C int"
  return n

/-- A number of places that still fit into memory; a negative one is none. -/
def roomFor (n : Int) : Run Nat := if n > 100000000 then raiseArgs .memoryError [] else return n.toNat

end Run

end PhaseScript.Machine
