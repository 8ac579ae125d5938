import PhaseScript.Script.Syntax
import PhaseScript.Datum.Basic
/-
The code that a script is run as: instructions over a stack of values, with the parts that are run again or only
sometimes kept as code inside an instruction. Names have been settled: each is kept in a place of a scope so many
scopes out, or among the global names. Also what can be seen of code before it runs: which names of the scopes around
a function its body uses, and whether a script can leave a function half done that is to be finished in any case.
-/
set_option autoImplicit false

namespace PhaseScript.Script

/-- Where the value of a name is kept. -/
inductive Location where
  | slot (hops index : Nat)
  | global
  deriving DecidableEq, Repr, Inhabited

/-- What is known of a function before it is made. -/
structure FunctionShape where
  name : Text
  /-- The name with the names of the functions around it. -/
  fullName : Text
  /-- The parameters, with whether each has a default. -/
  parameters : List (Text × ParameterKind × Bool)
  slots : Nat
  isGenerator : Bool
  /-- The places of scopes around that the body uses: how many scopes out from where the function is made, and which. -/
  captured : List (Nat × Nat)
  deriving Repr, Inhabited

/-- How a value is taken apart: so many items, and for some of them in turn how. Negative places count from the end. -/
inductive UnpackSpec where
  | items (least : Nat) (children : List (Int × UnpackSpec))
  deriving Repr, Inhabited

/-- What a display makes. -/
inductive DisplayKind where
  | list
  | tuple
  /-- A tuple of constants, which is the same each time. -/
  | constantTuple
  | set
  /-- A set of constants, copied from one that was made of them beforehand. -/
  | constantSet
  deriving DecidableEq, Repr, Inhabited

inductive Code where
  | constant (value : Constant)
  | load (name : Text) (location : Location)
  | store (name : Text) (location : Location)
  | erase (name : Text) (location : Location)
  | drop
  | duplicate
  | attribute (name : Text)
  | setAttribute (name : Text)
  | eraseAttribute (name : Text)
  | item
  | setItem
  | eraseItem
  /-- Makes a slice of three values, for a place that is written. -/
  | slice
  | unary (operator : UnaryOperator)
  | binary (operator : BinaryOperator)
  | augmented (operator : BinaryOperator)
  | compare (operator : Comparison)
  | display (kind : DisplayKind) (size : Nat)
  | dict (size : Nat)
  /-- Adds the top value, or all its items, to the list or set below it. -/
  | addItem
  | addItems
  | listToTuple
  /-- Sets the two top values as key and value in the dict below them. -/
  | addEntry
  | addEntries
  /-- Adds named arguments to those below; a name must not come twice. -/
  | addNamed
  | call (positional : Nat) (names : List Text)
  /-- Calls with a list of arguments and perhaps a dict of named ones. -/
  | spreadCall (hasNamed : Bool)
  | branch (whenTrue whenFalse : List Code)
  /-- Goes on with the rest only if the top value is true, and then without it. -/
  | andAlso (rest : List Code)
  | orElse (rest : List Code)
  /-- Compares, and goes on with the rest only if the comparison holds, keeping the right value for it. -/
  | chain (operator : Comparison) (rest : List Code)
  | function (shape : FunctionShape) (body : List Code) (defaults : Nat) (namedDefaults : List Text)
  /-- Runs a comprehension over the top value, or makes a generator of it. -/
  | comprehend (kind : ComprehensionKind) (shape : FunctionShape) (body : List Code)
  /-- Refuses the top value as the source of an asynchronous loop. -/
  | refuseAsync
  | format (conversion : Conversion) (hasSpec : Bool)
  | join (size : Nat)
  | yieldValue
  /-- Puts the iterator of the top value in its place. -/
  | iterate
  /-- Hands the top value to the iterator below it and gives what comes, until the iterator ends. -/
  | yieldFrom
  /-- Takes a value apart through copies of itself and its parts as lists. -/
  | guardUnpack (spec : UnpackSpec)
  /-- Takes the items of a value, the first to the top; with `after` the middle ones are kept as a list. -/
  | unpack (before : Nat) (after : Option Nat)
  | raise (hasError hasCause : Bool)
  | raiseAssertion (hasMessage : Bool)
  | while (test body orelse : List Code)
  | for_ (target body orelse : List Code)
  /-- Handlers have a test for the kind, a name to keep the exception under, and a body. -/
  | try_ (body : List Code) (handlers : List (List Code × Option (Text × Location) × List Code))
      (orelse : List Code)
  | finally_ (body final : List Code)
  | break_
  | continue_
  | return_
  | enterContext
  | fail (kind : ExceptionKind) (words : Text)
  deriving Repr, Inhabited

/-! ### What can be seen of code -/

/-- A place of a scope around a function as the function sees it: how many scopes out from where the function is made,
and which place. -/
abbrev Capture := Nat × Nat

/-- The place that a name is kept in, seen from so many functions further in, if it is outside of the outermost. -/
def Location.capture? (depth : Nat) : Location → Option Capture
  | .slot hops index => if depth < hops then some (hops - depth - 1, index) else none
  | .global => none

mutual

/-- The places around a function that an instruction of its body uses, the instruction being so many functions in. -/
def Code.captures (depth : Nat) : Code → List Capture
  | .load _ location | .store _ location | .erase _ location => (location.capture? depth).toList
  | .branch whenTrue whenFalse => codesCapture depth whenTrue ++ codesCapture depth whenFalse
  | .andAlso rest | .orElse rest | .chain _ rest => codesCapture depth rest
  | .function _ body _ _ | .comprehend _ _ body => codesCapture (depth + 1) body
  | .while test body orelse => codesCapture depth test ++ codesCapture depth body ++ codesCapture depth orelse
  | .for_ target body orelse => codesCapture depth target ++ codesCapture depth body ++ codesCapture depth orelse
  | .try_ body handlers orelse =>
    codesCapture depth body ++ handlersCapture depth handlers ++ codesCapture depth orelse
  | .finally_ body final => codesCapture depth body ++ codesCapture depth final
  | _ => []

def codesCapture (depth : Nat) : List Code → List Capture
  | [] => []
  | code :: rest => code.captures depth ++ codesCapture depth rest

def handlersCapture (depth : Nat) : List (List Code × Option (Text × Location) × List Code) → List Capture
  | [] => []
  | (test, name, body) :: rest =>
    codesCapture depth test ++ (name.bind fun entry => entry.2.capture? depth).toList ++ codesCapture depth body
      ++ handlersCapture depth rest

end

/-- The places around a function that its body uses, each once. -/
def capturesOf (body : List Code) : List Capture := (codesCapture 0 body).eraseDups

mutual

/-- Whether an instruction is of a kind, or one inside it is. -/
def Code.has (isOfKind : Code → Bool) : Code → Bool
  | .branch whenTrue whenFalse => codesHave isOfKind whenTrue || codesHave isOfKind whenFalse
  | .andAlso rest | .orElse rest | .chain _ rest => codesHave isOfKind rest
  | .function shape body defaults namedDefaults =>
    isOfKind (.function shape body defaults namedDefaults) || codesHave isOfKind body
  | .comprehend _ _ body => codesHave isOfKind body
  | .while test body orelse => codesHave isOfKind test || codesHave isOfKind body || codesHave isOfKind orelse
  | .for_ target body orelse => codesHave isOfKind target || codesHave isOfKind body || codesHave isOfKind orelse
  | .try_ body handlers orelse =>
    isOfKind (.try_ body handlers orelse) || codesHave isOfKind body || handlersHave isOfKind handlers
      || codesHave isOfKind orelse
  | .finally_ body final =>
    isOfKind (.finally_ body final) || codesHave isOfKind body || codesHave isOfKind final
  | code => isOfKind code

def codesHave (isOfKind : Code → Bool) : List Code → Bool
  | [] => false
  | code :: rest => code.has isOfKind || codesHave isOfKind rest

def handlersHave (isOfKind : Code → Bool) : List (List Code × Option (Text × Location) × List Code) → Bool
  | [] => false
  | (test, _, body) :: rest => codesHave isOfKind test || codesHave isOfKind body || handlersHave isOfKind rest

end

/-- Whether an instruction guards others, or has some run in any case. -/
def isGuard : Code → Bool
  | .try_ _ _ _ | .finally_ _ _ => true
  | _ => false

/-- Whether an instruction makes a function that waits in its midst, and guards something there. -/
def mayWaitGuarded : Code → Bool
  | .function shape body _ _ => shape.isGenerator && codesHave isGuard body
  | _ => false

/-- Whether a script has a function that can wait where something is left to be done. -/
def canLinger (script : List Code) : Bool := codesHave mayWaitGuarded script

end PhaseScript.Script
