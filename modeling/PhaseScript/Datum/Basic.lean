import PhaseScript.Datum.ExceptionKind
import PhaseScript.Calendar.Text
import PhaseScript.Number.Decimal
import PhaseScript.Http.Response
import PhaseScript.Json.Basic
/-
Data: values without identity, as they cross the border between a script and the program around it. A datum is a
tree; what a script shares or changes has been resolved before a value becomes a datum.
-/
set_option autoImplicit false

namespace PhaseScript

/-- How a parameter takes its argument. -/
inductive ParameterKind where
  | positionalOnly
  | positional
  | variadic
  | keywordOnly
  | keywords
  deriving DecidableEq, Repr, Inhabited

/-- A value without identity. -/
inductive Datum where
  | none
  | bool (b : Bool)
  | int (n : Int)
  | float (x : Binary64)
  | complex (re im : Binary64)
  | text (t : Text)
  | bytes (b : Bytes)
  | list (items : List Datum)
  | tuple (items : List Datum)
  /-- The items stand in the order in which the set gives them out. -/
  | set (frozen : Bool) (items : List Datum)
  | dict (entries : List (Datum × Datum))
  | date (d : Date)
  /-- The place of a day in its week: the year, the number of the week and the day of the week. -/
  | week (year number weekday : Int)
  | clock (t : ClockTime)
  | moment (m : Moment)
  | duration (d : Duration)
  | decimal (d : Decimal)
  | uuid (n : Nat)
  /-- An exception with its arguments, and what is known of it beside them. -/
  | exception (kind : ExceptionKind) (args : List Datum) (details : List (Text × Datum))
  | promise (rejected : Bool) (payload : Datum)
  | response (source : Http.Response) (headers : Datum)
  /-- An object known by the name of its type and by its text alone. -/
  | thing (typeName shown : Text)
  /-- An object with these attributes; `thenable` ones also have a method `then`. -/
  | object (thenable : Bool) (attributes : List (Text × Datum))
  | coroutine
  | awaitable
  /-- A function that gives a fixed result, or raises, or gives its parameters. -/
  | stub (parameters : List (Text × ParameterKind × Option Datum)) (result : Option Datum)
      (raises : Option (ExceptionKind × List Datum))
  | builtin (name : Text)
  /-- A container met again inside itself. -/
  | cycle (shown : Text)
  deriving Inhabited, Repr

namespace Datum

mutual

/-- The datum of a JSON value. -/
def ofJson : Json → Datum
  | .null => .none
  | .bool b => .bool b
  | .int n => .int n
  | .float x => .float x
  | .string t => .text t
  | .array items => .list (ofJsonItems items)
  | .object members => .dict (ofJsonMembers members)

def ofJsonItems : List Json → List Datum
  | [] => []
  | item :: items => ofJson item :: ofJsonItems items

def ofJsonMembers : List (Text × Json) → List (Datum × Datum)
  | [] => []
  | (name, value) :: members => (.text name, ofJson value) :: ofJsonMembers members

end

/-- The dict of named data. -/
def ofMembers (members : List (Text × Datum)) : Datum := .dict (members.map fun (n, d) => (.text n, d))

/-- The value under a text key. -/
def get? (entries : List (Datum × Datum)) (name : Text) : Option Datum :=
  match entries with
  | [] => Option.none
  | (.text key, value) :: rest => if key == name then some value else get? rest name
  | _ :: rest => get? rest name

/-- The name of the type of a datum. -/
def typeName : Datum → Text
  | .none => "NoneType"
  | .bool _ => "bool"
  | .int _ => "int"
  | .float _ => "float"
  | .complex _ _ => "complex"
  | .text _ => "str"
  | .bytes _ => "bytes"
  | .list _ => "list"
  | .tuple _ => "tuple"
  | .set false _ => "set"
  | .set true _ => "frozenset"
  | .dict _ => "dict"
  | .date _ => "date"
  | .week _ _ _ => "IsoCalendarDate"
  | .clock _ => "time"
  | .moment _ => "datetime"
  | .duration _ => "timedelta"
  | .decimal _ => "Decimal"
  | .uuid _ => "UUID"
  | .exception kind _ _ => Text.ofString kind.name
  | .promise false _ => "ResolvedPromise"
  | .promise true _ => "RejectedPromise"
  | .response _ _ => "FetchResponse"
  | .thing name _ => name
  | .object true _ => "Thenable"
  | .object false _ => "SimpleNamespace"
  | .coroutine => "coroutine"
  | .awaitable => "Awaitable"
  | .stub .. => "function"
  | .builtin _ => "builtin_function_or_method"
  | .cycle _ => "list"

/-- The name of the type of a datum, with that of its module where complaints name it. -/
def longTypeName (d : Datum) : Text :=
  let name := d.typeName
  match d with
  | .date _ | .week _ _ _ | .clock _ | .moment _ | .duration _ => "datetime." ++ name
  | .decimal _ => "decimal." ++ name
  | .thing _ _ =>
    if name.is "timezone" then "datetime." ++ name
    else if name.is "GenericAlias" || name.is "UnionType" || name.is "SimpleNamespace" then "types." ++ name
    else name
  | _ => name

/-- Whether a datum counts as true: nothing, zeros and empty things do not. -/
def isTrue : Datum → Bool
  | .none => false
  | .bool b => b
  | .int n => n != 0
  | .float x => !x.isZero
  | .complex re im => !(re.isZero && im.isZero)
  | .text t => !t.isEmpty
  | .bytes b => !b.isEmpty
  | .list items | .tuple items | .set _ items => !items.isEmpty
  | .dict entries => !entries.isEmpty
  | .duration d => d.micros != 0
  | .decimal ⟨_, .finite digits _⟩ => digits != 0
  | _ => true

/-- The first datum if it counts as true, else the second. -/
def orElse (d other : Datum) : Datum := if d.isTrue then d else other

/-- The entry under a text key, `None` if there is none. -/
def entry (entries : List (Datum × Datum)) (name : Text) : Datum := (get? entries name).getD .none

end Datum

end PhaseScript
