import PhaseScript.Script.Syntax
/-
What a script must not hold. The complaints come in the order in which a walk over the tree meets them; a forbidden
statement is met once, whatever stands inside it.
-/
set_option autoImplicit false

namespace PhaseScript.Script

namespace Policy

/-- The methods of a class that may have names of their own kind. -/
def permittedMethods : List String := ["__init__", "__contains__", "__lt__", "__le__", "__eq__", "__ne__", "__gt__",
  "__ge__"]

def reservedNames : List String := ["print", "printed", "builtins", "breakpoint"]

/-- The attributes through which code and frames could be reached. -/
def inspecting : List String := ["tb_frame", "tb_next", "co_code", "f_back", "f_builtins", "f_code", "f_globals",
  "f_locals", "f_trace", "gi_frame", "gi_code", "gi_yieldfrom", "cr_await", "cr_frame", "cr_code", "cr_origin"]

def isIn (t : Text) (words : List String) : Bool := words.any fun w => t.is w

def complaint (place : Place) (words : Text) : List Text := ["Line " ++ Text.ofNat place.line ++ ": " ++ words]

def inQuotes (name : Text) : Text := "\"" ++ name ++ "\""

/-- The complaint about a name that something is bound to. -/
def checkName (place : Place) (name : Text) (method : Bool) : List Text :=
  if Text.startsWith name "_" && !name.is "_"
      && !(method && isIn name permittedMethods && place.column != 0) then
    complaint place (inQuotes name ++ " is an invalid variable name because it starts with \"_\"")
  else if Text.endsWith name "__roles__" then
    complaint place (inQuotes name ++ " is an invalid variable name because it ends with \"__roles__\".")
  else if isIn name reservedNames then complaint place (inQuotes name ++ " is a reserved name.")
  else []

/-- The complaint about a name that is read; the names of printing are let through. -/
def checkRead (place : Place) (name : Text) : List Text :=
  if name.is "print" || name.is "printed" then [] else checkName place name false

def checkAttribute (place : Place) (name : Text) : List Text :=
  (if Text.startsWith name "_" && !name.is "_" then
    complaint place (inQuotes name ++ " is an invalid attribute name because it starts with \"_\".")
  else []) ++
  (if Text.endsWith name "__roles__" then
    complaint place (inQuotes name ++ " is an invalid attribute name because it ends with \"__roles__\".")
  else []) ++
  (if isIn name inspecting then
    complaint place (inQuotes name ++ " is a restricted name, that is forbidden to access in RestrictedPython.")
  else [])

/-- The complaints about the names of parameters, all under the place of the function. -/
def checkParameterNames (place : Place) (p : Parameters Expr) : List Text :=
  let check (name : Text) := checkName place name false
  (p.positional.flatMap fun q => check q.name) ++ (p.variadic.toList.flatMap fun q => check q.name)
    ++ (p.keywords.toList.flatMap fun q => check q.name) ++ (p.keywordOnly.flatMap fun q => check q.name)

def notAllowed (place : Place) (name : String) : List Text :=
  complaint place (Text.ofString name ++ " statements are not allowed.")

/-- The complaint about a call of a function that runs text. -/
def checkCalled (place : Place) : Expr → List Text
  | .name _ name =>
    if name.is "exec" then complaint place "Exec calls are not allowed."
    else if name.is "eval" then complaint place "Eval calls are not allowed."
    else []
  | _ => []

mutual

/-- The complaints about an expression; `bound` tells whether it is a target. -/
def checkExpr (bound : Bool) : Expr → List Text
  | .constant _ _ => []
  | .name place name => if bound then checkName place name false else checkRead place name
  | .attribute place object name => checkAttribute place name ++ checkExpr false object
  | .subscript _ object index => checkExpr false object ++ checkExpr false index
  | .slice _ lower upper step => checkOption lower ++ checkOption upper ++ checkOption step
  | .call place function arguments named =>
    checkCalled place function ++ checkExpr false function ++ checkExprs false arguments ++ checkNamed named
  | .unary _ _ operand => checkExpr false operand
  | .binary _ _ left right => checkExpr false left ++ checkExpr false right
  | .both _ parts => checkExprs false parts
  | .either _ parts => checkExprs false parts
  | .compare _ left rest => checkExpr false left ++ checkRest rest
  | .conditional _ test whenTrue whenFalse =>
    checkExpr false test ++ checkExpr false whenTrue ++ checkExpr false whenFalse
  | .lambda place parameters body =>
    checkParameterNames place parameters ++ checkParameters parameters ++ checkExpr false body
  | .list _ items => checkExprs bound items
  | .tuple _ items => checkExprs bound items
  | .set _ items => checkExprs false items
  | .dict _ entries => checkKeys entries ++ checkValues entries
  | .comprehension _ _ item value clauses => checkExpr false item ++ checkOption value ++ checkClauses clauses
  | .bind _ target value => checkExpr true target ++ checkExpr false value
  | .starred _ value => checkExpr bound value
  | .await place _ => notAllowed place "Await"
  | .yield _ value => checkOption value
  | .yieldFrom _ source => checkExpr false source
  | .joined _ pieces => checkExprs false pieces
  | .formatted _ value _ spec => checkExpr false value ++ checkOption spec

def checkExprs (bound : Bool) : List Expr → List Text
  | [] => []
  | e :: rest => checkExpr bound e ++ checkExprs bound rest

def checkOption : Option Expr → List Text
  | none => []
  | some e => checkExpr false e

def checkNamed : List (Option Text × Expr) → List Text
  | [] => []
  | (_, e) :: rest => checkExpr false e ++ checkNamed rest

def checkRest : List (Comparison × Expr) → List Text
  | [] => []
  | (_, e) :: rest => checkExpr false e ++ checkRest rest

def checkKeys : List (Option Expr × Expr) → List Text
  | [] => []
  | (key, _) :: rest => checkOption key ++ checkKeys rest

def checkValues : List (Option Expr × Expr) → List Text
  | [] => []
  | (_, value) :: rest => checkExpr false value ++ checkValues rest

def checkClauses : List (Clause Expr) → List Text
  | [] => []
  | ⟨target, source, conditions, _⟩ :: rest =>
    checkExpr true target ++ checkExpr false source ++ checkExprs false conditions ++ checkClauses rest

/-- The complaints about what parameters are annotated with and about their defaults. -/
def checkParameters : Parameters Expr → List Text
  | ⟨positionalOnly, positional, variadic, keywordOnly, keywords⟩ =>
    checkAnnotations positionalOnly ++ checkAnnotations positional ++ checkAnnotation? variadic
      ++ checkAnnotations keywordOnly ++ checkDefaults keywordOnly ++ checkAnnotation? keywords
      ++ checkDefaults positionalOnly ++ checkDefaults positional

def checkAnnotation? : Option (Parameter Expr) → List Text
  | none => []
  | some ⟨_, annotation, _, _⟩ => checkOption annotation

def checkAnnotations : List (Parameter Expr) → List Text
  | [] => []
  | ⟨_, annotation, _, _⟩ :: rest => checkOption annotation ++ checkAnnotations rest

def checkDefaults : List (Parameter Expr) → List Text
  | [] => []
  | ⟨_, _, value, _⟩ :: rest => checkOption value ++ checkDefaults rest

end

/-- The complaints about imported names. -/
def checkAliases (place : Place) : List Alias → List Text
  | [] => []
  | entry :: rest =>
    (if entry.name.any fun p => p.is '*' then complaint place "\"*\" imports are not allowed." else [])
      ++ checkName place entry.name false
      ++ (entry.given.map (checkName place · false)).getD []
      ++ checkAliases place rest

def checkItems : List (Expr × Option Expr) → List Text
  | [] => []
  | (value, target) :: rest =>
    checkExpr false value ++ (target.map (checkExpr true)).getD [] ++ checkItems rest

mutual

/-- The complaints about a statement. -/
def checkStmt : Stmt → List Text
  | .expr _ value => checkExpr false value
  | .assign _ targets value => checkExprs true targets ++ checkExpr false value
  | .augment place target _ value =>
    checkExpr true target ++ checkExpr false value ++
      match target with
      | .attribute _ _ _ => complaint place "Augmented assignment of attributes is not allowed."
      | .subscript _ _ _ => complaint place "Augmented assignment of object items and slices is not allowed."
      | _ => []
  | .return_ _ value => checkOption value
  | .raise _ error cause => checkOption error ++ checkOption cause
  | .assert _ test message => checkExpr false test ++ checkOption message
  | .delete _ targets => checkExprs true targets
  | .pass _ => []
  | .break_ _ => []
  | .continue_ _ => []
  | .import_ place names => checkAliases place names
  | .importFrom place _ names _ => checkAliases place names
  | .global _ _ => []
  | .if_ _ test body orelse => checkExpr false test ++ checkBlock body ++ checkBlock orelse
  | .while _ test body orelse => checkExpr false test ++ checkBlock body ++ checkBlock orelse
  | .for_ _ target source body orelse =>
    checkExpr true target ++ checkExpr false source ++ checkBlock body ++ checkBlock orelse
  | .try_ _ body handlers orelse finally_ =>
    checkBlock body ++ checkHandlers handlers ++ checkBlock orelse ++ checkBlock finally_
  | .with_ _ items body => checkItems items ++ checkBlock body
  | .function place name parameters body decorators returns =>
    checkName place name true ++ checkParameterNames place parameters ++ checkParameters parameters
      ++ checkBlock body ++ checkExprs false decorators ++ checkOption returns
  | .class_ place name bases named body decorators =>
    checkName place name false ++ checkExprs false bases ++ checkNamed named ++ checkBlock body
      ++ checkExprs false decorators
      ++ (if named.any fun entry => entry.1 == some (Text.ofString "metaclass") then
          complaint place "The keyword argument \"metaclass\" is not allowed."
        else [])
  | .forbidden place kind => notAllowed place kind.name

def checkBlock : List Stmt → List Text
  | [] => []
  | s :: rest => checkStmt s ++ checkBlock rest

def checkHandlers : List (Handler Stmt) → List Text
  | [] => []
  | ⟨place, kind, name, body⟩ :: rest =>
    checkOption kind ++ checkBlock body ++ (name.map (checkName place · false)).getD [] ++ checkHandlers rest

end

end Policy

/-- The complaints about a script, none if it may run. -/
def complaints (body : List Stmt) : List Text := Policy.checkBlock body

end PhaseScript.Script
