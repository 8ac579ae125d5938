import PhaseScript.Datum.Basic
/-
Binding the arguments of a call to the parameters of a function, and what is said when they do not fit.
-/
set_option autoImplicit false

namespace PhaseScript

/-- A parameter with its default. -/
structure FormalParameter (α : Type) where
  name : Text
  kind : ParameterKind
  default : Option α
  deriving Repr, Inhabited

/-- The parameters of a function: those taken by position, those by name alone, then the collecting ones. -/
structure Signature (α : Type) where
  /-- The name that complaints begin with. -/
  owner : Text
  parameters : List (FormalParameter α)
  deriving Repr, Inhabited

/-- What a parameter is bound to. -/
inductive Bound (α : Type) where
  | one (value : α)
  | row (values : List α)
  | named (entries : List (Text × α))
  deriving Repr, Inhabited

namespace Signature

variable {α : Type}

def isPositional (p : FormalParameter α) : Bool := p.kind == .positionalOnly || p.kind == .positional

def positional (s : Signature α) : List (FormalParameter α) := s.parameters.filter isPositional

def keywordOnly (s : Signature α) : List (FormalParameter α) := s.parameters.filter fun p => p.kind == .keywordOnly

def hasVariadic (s : Signature α) : Bool := s.parameters.any fun p => p.kind == .variadic

def hasKeywords (s : Signature α) : Bool := s.parameters.any fun p => p.kind == .keywords

/-- Whether a call may hand over a value by position. -/
def takesPositional (s : Signature α) : Bool :=
  s.parameters.any fun p => isPositional p || p.kind == .variadic

/-- Why arguments do not fit. -/
inductive Misfit where
  | unexpectedName (name : Text)
  | positionalOnlyByName (names : List Text)
  | repeatedName (name : Text)
  | tooMany (least most given named : Nat)
  | missingPositional (names : List Text)
  | missingNamed (names : List Text)
  deriving DecidableEq, Repr, Inhabited

def plural (n : Nat) : Text := if n == 1 then [] else "s"

/-- Names in quotes, as a sentence lists them. -/
def nameList (names : List Text) : Text :=
  let quoted : List Text := names.map fun n => "'" ++ n ++ "'"
  match quoted.reverse with
  | [] => []
  | [n] => n
  | [n, m] => m ++ " and " ++ n
  | n :: rest => Text.join ", " rest.reverse ++ ", and " ++ n

/-- What is said of a misfit. -/
def Misfit.message (owner : Text) : Misfit → Text
  | .unexpectedName name => owner ++ "() got an unexpected keyword argument '" ++ name ++ "'"
  | .positionalOnlyByName names =>
    owner ++ "() got some positional-only arguments passed as keyword arguments: '" ++ Text.join ", " names ++ "'"
  | .repeatedName name => owner ++ "() got multiple values for argument '" ++ name ++ "'"
  | .tooMany least most given named =>
    let counts : Text := if least == most then Text.ofNat most
      else "from " ++ Text.ofNat least ++ " to " ++ Text.ofNat most
    let many : Text := if least != most then "s" else plural most
    let others : Text := if named == 0 then [] else
      " positional argument" ++ plural given ++ " (and " ++ Text.ofNat named ++ " keyword-only argument"
        ++ plural named ++ ")"
    owner ++ "() takes " ++ counts ++ " positional argument" ++ many ++ " but " ++ Text.ofNat given ++ others
      ++ (if given == 1 && named == 0 then (" was given" : Text) else " were given")
  | .missingPositional names => missing "positional" names
  | .missingNamed names => missing "keyword-only" names
where
  missing (kind : String) (names : List Text) : Text :=
    owner ++ "() missing " ++ Text.ofNat names.length ++ " required " ++ Text.ofString kind ++ " argument"
      ++ plural names.length ++ ": " ++ nameList names

/-- The values found so far by name, and the names left for a collecting parameter. -/
structure Found (α : Type) where
  values : List (Text × α)
  others : List (Text × α)

/-- Takes the named arguments in turn. -/
def takeNamed (s : Signature α) : List (Text × α) → Found α → Except Misfit (Found α)
  | [], found => .ok found
  | (name, value) :: rest, found =>
    let open_ := s.parameters.any fun p => p.name == name && (p.kind == .positional || p.kind == .keywordOnly)
    if open_ then
      if found.values.any fun entry => entry.1 == name then .error (.repeatedName name)
      else takeNamed s rest { found with values := found.values ++ [(name, value)] }
    else if s.hasKeywords then takeNamed s rest { found with others := found.others ++ [(name, value)] }
    else .error (.unexpectedName name)

def lookup (found : Found α) (name : Text) : Option α := (found.values.find? fun entry => entry.1 == name).map (·.2)

/-- The parameters of a list that have neither a value nor a default. -/
def unfilled (found : Found α) (parameters : List (FormalParameter α)) : List Text :=
  (parameters.filter fun p => (lookup found p.name).isNone && p.default.isNone).map (·.name)

/-- Binds arguments to parameters, in the order of the parameters. -/
def bind (s : Signature α) (args : List α) (named : List (Text × α)) : Except Misfit (List (Bound α)) := do
  let places := s.positional
  let start : Found α := ⟨(places.map (·.name)).zip args, []⟩
  let byName := (places.filter fun p => p.kind == .positionalOnly && named.any fun n => n.1 == p.name).map (·.name)
  let found ← match takeNamed s named start with
    | .error (.unexpectedName name) =>
      if byName.isEmpty then .error (.unexpectedName name) else .error (.positionalOnlyByName byName)
    | result => result
  if places.length < args.length && !s.hasVariadic then
    let least := (places.filter fun p => p.default.isNone).length
    let given := (s.keywordOnly.filter fun p => (lookup found p.name).isSome).length
    throw (.tooMany least places.length args.length given)
  let missing := unfilled found places
  if !missing.isEmpty then throw (.missingPositional missing)
  let missing := unfilled found s.keywordOnly
  if !missing.isEmpty then throw (.missingNamed missing)
  return s.parameters.filterMap fun p =>
    match p.kind with
    | .variadic => some (.row (args.drop places.length))
    | .keywords => some (.named found.others)
    | _ => ((lookup found p.name).or p.default).map .one

end Signature

end PhaseScript
