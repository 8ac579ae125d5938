import PhaseScript.Machine.Interp
/-
How builtins take their arguments, and what they say of arguments that do not fit.
-/
set_option autoImplicit false

namespace PhaseScript.Machine

/-- Parameters that may be given by name: the first `positionalOnly` by position alone, those after
`positionalMost` by name alone. The first `required` must be given. -/
structure NamedParameters where
  names : List Text
  required : Nat
  positionalOnly : Nat
  positionalMost : Nat
  deriving Repr, Inhabited

/-- What arguments must be that stand before one which is left out. -/
inductive EarlyCheck where
  | wholeNumber
  | day
  deriving Repr, Inhabited

/-- How a builtin takes its arguments. -/
inductive Intake where
  /-- No argument; `declared` where this can be learnt from outside. -/
  | nothing (declared : Bool)
  | single
  /-- From so many to so many, none by name. -/
  | span (least most : Nat)
  | named (parameters : NamedParameters)
  | checked (early : EarlyCheck) (parameters : NamedParameters)
  /-- So many and no more, none by name. -/
  | exactly (count : Nat)
  /-- Any number, none by name; complaints show the bare name. -/
  | any
  /-- Any number, none by name; complaints show the full name. -/
  | many
  deriving Repr, Inhabited

namespace Intake

/-- Whether it can be learnt from outside that no argument is taken by position. -/
def takesNone : Intake → Bool
  | .nothing declared => declared
  | .named parameters | .checked _ parameters => parameters.positionalMost == 0
  | _ => false

def plural (n : Nat) : Text := if n == 1 then [] else "s"

/-- The complaint about a number of arguments outside a span. -/
def spanComplaint (name : Text) (least most given : Nat) : Text :=
  let bound := if given < least then least else most
  let words : Text := if least == most then [] else if given < least then "at least " else "at most "
  name ++ " expected " ++ words ++ Text.ofNat bound ++ " argument" ++ plural bound ++ ", got " ++ Text.ofNat given

end Intake

namespace Run

open Intake (plural)

/-- Refuses a number of arguments outside a span. -/
def checkSpan (name : Text) (least most given : Nat) : Run Unit :=
  if given < least || most < given then typeError (Intake.spanComplaint name least most given) else return ()

/-- The arguments of parameters that may be named, none where one is left out. `owner` is the name in complaints, with
its brackets. What stands before an argument that is left out is read by `early` before that is complained of. -/
def takeNamedAfter (early : Value → Run Unit) (owner : Text) (p : NamedParameters) (args : List Value)
    (named : List (Text × Value)) : Run (List (Option Value)) := do
  let all := p.names.length
  let given := args.length + named.length
  let counted (words : Text) (n : Nat) (kind : Text) (given : Nat) : Text :=
    owner ++ " takes " ++ words ++ " " ++ Text.ofNat n ++ " " ++ kind ++ "argument" ++ plural n ++ " ("
      ++ Text.ofNat given ++ " given)"
  if all < given then
    typeError (counted "at most" all (if args.isEmpty then ("keyword " : Text) else []) given)
  if p.positionalMost < args.length then
    if p.positionalMost == 0 then typeError (owner ++ " takes no positional arguments")
    typeError (counted (if p.required < p.positionalMost then "at most" else "exactly") p.positionalMost "positional "
      args.length)
  let leastByPlace := min p.positionalOnly p.required
  if args.length < leastByPlace then
    typeError (counted (if leastByPlace < p.positionalMost then "at least" else "exactly") leastByPlace "positional "
      args.length)
  let byName (place : Nat) (name : Text) : Option Value :=
    if place < p.positionalOnly then none else getNamed? named name
  let found := p.names.zipIdx.map fun (name, place) => (name, place, (args[place]?).or (byName place name))
  match found.find? fun (_, place, v) => place < p.required && v.isNone with
  | some (name, place, _) =>
    (found.take place).forM fun (_, _, v) => v.forM early
    typeError (owner ++ " missing required argument '" ++ name ++ "' (pos " ++ Text.ofNat (place + 1) ++ ")")
  | none => pure ()
  match p.names.zipIdx.find? fun (name, place) => place < args.length && (byName place name).isSome with
  | some (name, place) =>
    typeError ("argument for " ++ owner ++ " given by name ('" ++ name ++ "') and position ("
      ++ Text.ofNat (place + 1) ++ ")")
  | none => pure ()
  match named.find? fun (name, _) => !(p.names.drop p.positionalOnly).contains name with
  | some (name, _) =>
    typeError ("'" ++ name ++ "' is an invalid keyword argument for "
      ++ (if owner.is "function" then ("this function" : Text) else owner))
  | none => pure ()
  return found.map (·.2.2)

/-- The arguments of parameters that may be named, none where one is left out. -/
def takeNamed (owner : Text) (p : NamedParameters) (args : List Value) (named : List (Text × Value)) :
    Run (List (Option Value)) := takeNamedAfter (fun _ => return ()) owner p args named

/-- The complaint about an argument of the wrong kind, in which `None` goes by its own name. -/
def refuseArgument {α : Type} (must : Text) (v : Value) : Run α :=
  match v with
  | .none => typeError (must ++ ", not None")
  | _ => typeErrorOf (must ++ ", not ") v []

/-- Checks an argument of a method that goes by a name. -/
def checkEarly (check : EarlyCheck) (name : Text) (v : Value) : Run Unit :=
  match check, v with
  | .wholeNumber, _ => do
    let n ← index v
    if n ≥ 2 ^ 31 || n < -(2 ^ 31) then valueError "ISO calendar component out of range"
  | .day, .date _ | .day, .moment _ => return ()
  | .day, _ => refuseArgument (name ++ "() argument 1 must be datetime.date") v

/-- The arguments of a builtin. `name` is the bare name and `owner` the full one. -/
def takeArguments (intake : Intake) (name owner : Text) (args : List Value) (named : List (Text × Value)) :
    Run (List (Option Value)) := do
  let refuseNames (shown : Text) : Run Unit :=
    if named.isEmpty then return () else typeError (shown ++ "() takes no keyword arguments")
  let noNames := refuseNames owner
  match intake with
  | .nothing _ =>
    noNames
    if !args.isEmpty then
      typeError (owner ++ "() takes no arguments (" ++ Text.ofNat args.length ++ " given)")
    return []
  | .single =>
    noNames
    if args.length != 1 then
      typeError (owner ++ "() takes exactly one argument (" ++ Text.ofNat args.length ++ " given)")
    return args.map some
  | .span least most =>
    noNames
    checkSpan name least most args.length
    return args.map some
  | .named parameters => takeNamed (name ++ "()") parameters args named
  | .checked early parameters => takeNamedAfter (checkEarly early name) (name ++ "()") parameters args named
  | .exactly count =>
    refuseNames name
    if args.length != count then
      typeError (name ++ "() takes exactly " ++ Text.ofNat count ++ " argument" ++ plural count ++ " ("
        ++ Text.ofNat args.length ++ " given)")
    return args.map some
  | .any =>
    refuseNames name
    return args.map some
  | .many =>
    noNames
    return args.map some

end Run

/-- A method of the values of a type, which the body is given in the form `σ`. -/
structure Method (σ : Type) where
  name : String
  intake : Intake
  body : Interp → σ → List (Option Value) → Run Value

/-- An argument that was given. -/
def given? (args : List (Option Value)) (place : Nat) : Option Value := (args[place]?).join

/-- An argument, `None` where it was left out. -/
def argument (args : List (Option Value)) (place : Nat) : Value := (given? args place).getD .none

/-- The method with a name. -/
def findMethod? {σ : Type} (methods : List (Method σ)) (name : Text) : Option (Method σ) :=
  methods.find? fun method => name.is method.name

/-- Calls a method of a type. -/
def Method.call {σ : Type} (method : Method σ) (typeName : String) (m : Interp) (self : σ) (args : List Value)
    (named : List (Text × Value)) : Run Value := do
  let args ← Run.takeArguments method.intake (Text.ofString method.name)
    (Text.ofString typeName ++ "." ++ Text.ofString method.name) args named
  method.body m self args

end PhaseScript.Machine
