import PhaseScript.Datum.Equal
import PhaseScript.Datum.Text
import PhaseScript.Json.Writer
/-
The JSON value of a datum as it is, for data that are made of nothing but what JSON has: other data are refused and
not made into text.
-/
set_option autoImplicit false

namespace PhaseScript.Datum

/-- What of a datum has no JSON value. -/
inductive JsonRefusal where
  | circular
  | tooDeep
  | notFinite
  | tooManyDigits
  | unsupported (typeName : Text)
  | key (typeName : Text)
  | unordered (left right : Text)
  deriving DecidableEq, Repr, Inhabited

namespace JsonRefusal

def kind : JsonRefusal → ExceptionKind
  | .tooDeep => .recursionError
  | .circular | .notFinite | .tooManyDigits => .valueError
  | _ => .typeError

def message : JsonRefusal → Text
  | .circular => "Circular reference detected"
  | .tooDeep => "maximum recursion depth exceeded while encoding a JSON object"
  | .notFinite => Json.WriteFault.message .notFinite
  | .tooManyDigits => Json.WriteFault.message .tooManyDigits
  | .unsupported typeName => "Object of type " ++ typeName ++ " is not JSON serializable"
  | .key typeName => "keys must be str, int, float, bool or None, not " ++ typeName
  | .unordered left right =>
    "'<' not supported between instances of '" ++ left ++ "' and '" ++ right ++ "'"

end JsonRefusal

/-- What is done with keys that are no names and with numbers that are not finite, and the order of members. A complaint
about a key in an indented text does not name the module of its type. -/
structure JsonRules where
  isIndented : Bool
  skipKeys : Bool
  allowNotFinite : Bool
  sortKeys : Bool
  deriving DecidableEq, Repr, Inhabited

/-- The usual rules: no key is left out, every number is written, members stay in their order. -/
def JsonRules.usual : JsonRules := ⟨false, false, true, false⟩

/-- A number for the order of keys. -/
def keyNumeral? : Datum → Option Numeral
  | .int n => some (.int n)
  | .bool b => some (.int (if b then 1 else 0))
  | .float x => some (.float x)
  | _ => Option.none

/-- The order of two keys, if they have one. -/
def compareKeys? (a b : Datum) : Option Ordering :=
  match a, b with
  | .text s, .text t => some (Text.compare s t)
  | _, _ => match keyNumeral? a, keyNumeral? b with
    | some (.int m), some (.int n) => some (compare m n)
    | some (.int m), some (.float y) => some (((y.compareInt? m).map Ordering.swap).getD .gt)
    | some (.float x), some (.int n) => some ((x.compareInt? n).getD .gt)
    | some (.float x), some (.float y) => some ((Binary64.compare? x y).getD .gt)
    | _, _ => Option.none

/-- The first two neighbours that have no order. -/
def firstUnordered? : List (Datum × Datum) → Option (Text × Text)
  | a :: b :: rest =>
    match compareKeys? b.1 a.1 with
    | Option.none => some (b.1.longTypeName, a.1.longTypeName)
    | some _ => firstUnordered? (b :: rest)
  | _ => Option.none

/-- Members in the order of their keys. -/
def inKeyOrder (entries : List (Datum × Datum)) : Except JsonRefusal (List (Datum × Datum)) :=
  match firstUnordered? entries with
  | some (left, right) => .error (.unordered left right)
  | Option.none => .ok (entries.mergeSort fun a b => (compareKeys? b.1 a.1) != some .lt)

/-- The name of a member from its key. -/
def memberName (rules : JsonRules) : Datum → Except JsonRefusal (Option Text)
  | .text t => .ok (some t)
  | .none => .ok (some "null")
  | .bool b => .ok (some (if b then "true" else "false"))
  | .int n => if Json.tooManyDigits n then .error .tooManyDigits else .ok (some (Text.ofInt n))
  | .float x =>
    if !x.isFinite && !rules.allowNotFinite then .error .notFinite else .ok (some (Json.floatText x))
  | d => if rules.skipKeys then .ok Option.none else .error (.key (if rules.isIndented then d.typeName else d.longTypeName))

mutual

/-- The JSON value of a datum. -/
def toJson (rules : JsonRules) : Datum → Except JsonRefusal Json
  | .none => .ok .null
  | .bool b => .ok (.bool b)
  | .int n => if Json.tooManyDigits n then .error .tooManyDigits else .ok (.int n)
  | .float x => if !x.isFinite && !rules.allowNotFinite then .error .notFinite else .ok (.float x)
  | .text t => .ok (.string t)
  | .list items => (toJsonAll rules items).map .array
  | .tuple items => (toJsonAll rules items).map .array
  | .week year number weekday => .ok (.array [.int year, .int number, .int weekday])
  | .dict entries => (toJsonMembers rules entries).map .object
  | .cycle _ => .error .circular
  | d => .error (.unsupported d.typeName)

def toJsonAll (rules : JsonRules) : List Datum → Except JsonRefusal (List Json)
  | [] => .ok []
  | d :: rest => do
    let value ← toJson rules d
    return value :: (← toJsonAll rules rest)

def toJsonMembers (rules : JsonRules) : List (Datum × Datum) → Except JsonRefusal (List (Text × Json))
  | [] => .ok []
  | (key, d) :: rest => do
    match ← memberName rules key with
    | some name => do
      let value ← toJson rules d
      return (name, value) :: (← toJsonMembers rules rest)
    | Option.none => toJsonMembers rules rest

end

mutual

/-- The datum with the members of all its dicts in the order of their keys. -/
def sorted : Datum → Except JsonRefusal Datum
  | .list items => (sortedAll items).map .list
  | .tuple items => (sortedAll items).map .tuple
  | .dict entries => do inKeyOrder (← sortedEntries entries) |>.map .dict
  | d => .ok d

def sortedAll : List Datum → Except JsonRefusal (List Datum)
  | [] => .ok []
  | d :: rest => do
    let d ← sorted d
    return d :: (← sortedAll rest)

def sortedEntries : List (Datum × Datum) → Except JsonRefusal (List (Datum × Datum))
  | [] => .ok []
  | (key, d) :: rest => do
    let d ← sorted d
    return (key, d) :: (← sortedEntries rest)

end

/-- The JSON text of a datum by some rules, in some style. -/
def jsonTextBy (rules : JsonRules) (style : Json.Style) (d : Datum) : Except JsonRefusal Text := do
  if depthLimit < d.depth && !d.hasCycle then .error .tooDeep
  let d ← if rules.sortKeys then sorted d else .ok d
  return Json.render style (← toJson rules d)

/-- The JSON text of a datum, written in the usual way. -/
def jsonText (d : Datum) : Except JsonRefusal Text := jsonTextBy .usual .spaced d

end PhaseScript.Datum
