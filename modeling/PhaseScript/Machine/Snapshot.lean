import PhaseScript.Machine.Heap
import PhaseScript.Machine.Identity
import PhaseScript.Datum.Text
/-
Values and data. A snapshot of a value is the datum it is at the moment; a datum that is read in gets new cells for
its containers. Texts of values are the texts of their snapshots.
-/
set_option autoImplicit false

namespace PhaseScript.Machine

/-- Whether a builtin function shows itself as one that is written in the language of the scripts. -/
def Builtin.isPlainFunction : Builtin → Bool
  | .jsonLoads | .jsonDumps | .resolve | .reject | .allOf | .fetch | .envGet | .envInt | .envBool | .console _
  | .storage _ => true
  | _ => false

/-- The name of the type of a builtin function. -/
def Builtin.typeName (f : Builtin) : Text :=
  match f with
  | .unbound _ _ => "method_descriptor"
  | .part _ _ isKept => if isKept then "member_descriptor" else "getset_descriptor"
  | _ => if f.isPlainFunction then "function" else "builtin_function_or_method"

/-- The methods of promises and responses are functions of the scripts' own language too. -/
def Value.hasPlainMethods : Value → Bool
  | .promise _ _ _ | .response _ _ => true
  | _ => false

/-- The name of the type of what is in a cell. -/
def Cell.typeName : Cell → Text
  | .list _ => "list"
  | .dict _ isExports => if isExports then "Exports" else "dict"
  | .set _ => "set"
  | .scope _ _ _ => "cell"
  | .function _ _ _ _ _ => "function"
  | .generator _ _ => "generator"
  | .iterator name _ => name
  | .exception kind _ _ => Text.ofString kind.name
  | .foreign d => d.typeName
  | .namespace _ => "SimpleNamespace"
  | .proxy _ => "mappingproxy"
  | .view .keys _ => "dict_keys"
  | .view .values _ => "dict_values"
  | .view .items _ => "dict_items"
  | .module _ _ => "module"
  | .session _ _ => Text.ofString TypeName.session.name
  | .client _ _ => "Client"

/-- The name of the type of a value. -/
def Run.shortTypeName (v : Value) : Run Text :=
  match v with
  | .none => return "NoneType"
  | .bool _ => return "bool"
  | .int _ => return "int"
  | .float _ => return "float"
  | .complex _ _ => return "complex"
  | .text _ => return "str"
  | .bytes _ => return "bytes"
  | .ellipsis => return "ellipsis"
  | .notImplemented => return "NotImplementedType"
  | .tuple _ (.week _) => return "IsoCalendarDate"
  | .tuple _ _ => return "tuple"
  | .range _ _ _ => return "range"
  | .slice _ _ _ => return "slice"
  | .date _ => return "date"
  | .clock _ => return "time"
  | .moment _ => return "datetime"
  | .duration _ => return "timedelta"
  | .zone _ => return "timezone"
  | .type _ => return "type"
  | .generic _ _ _ _ => return "GenericAlias"
  | .oneOf _ _ => return "UnionType"
  | .builtin f => return f.typeName
  | .method object _ _ => return if object.hasPlainMethods then "method" else "builtin_function_or_method"
  | .promise _ rejected _ => return if rejected then "RejectedPromise" else "ResolvedPromise"
  | .response _ _ => return "FetchResponse"
  | .ref address => return (← Run.cellAt address).typeName

/-- The name of the type of a value as complaints give it: some types are named with their module. -/
def Run.typeName (v : Value) : Run Text := do
  let name ← Run.shortTypeName v
  match v with
  | .date _ | .clock _ | .moment _ | .duration _ | .zone _ | .tuple _ (.week _) => return "datetime." ++ name
  | .generic _ _ _ _ | .oneOf _ _ => return "types." ++ name
  | .ref address =>
    match ← Run.cellAt address with
    | .namespace _ => return "types." ++ name
    | _ => return name
  | _ => return name

/-- What a container shows of itself when it is met inside itself. -/
def Cell.cycleText : Cell → Text
  | .dict _ _ => "\x7b...\x7d"
  | .set _ => "set(...)"
  | .view _ _ => "..."
  | .exception kind _ _ => Text.ofString kind.name ++ "(...)"
  | _ => "[...]"

/-- Whether it is noticed that a cell is met inside itself. An exception is only by the tuple of its arguments, which
it does not show for a single one. -/
def Cell.isWatched : Cell → Bool
  | .exception _ args _ => 2 ≤ args.length
  | .proxy _ => false
  | _ => true

/-- The name of a type after that of its module, if it does not belong to the language itself. -/
def TypeName.fullName (t : TypeName) : Text :=
  let module := match t with
    | .date | .moment | .clock | .duration => "datetime."
    | .session => "plugin_runtime.engines.host."
    | .exception kind => if kind == .jsonDecodeError then "json.decoder." else ""
    | _ => ""
  Text.ofString module ++ Text.ofString t.name

/-- The texts of types. -/
def TypeName.shown (t : TypeName) : Text := "<class '" ++ t.fullName ++ "'>"

def rangeText (start stop step : Int) : Text :=
  "range(" ++ Text.ofInt start ++ ", " ++ Text.ofInt stop
    ++ (if step == 1 then ([] : Text) else ", " ++ Text.ofInt step) ++ ")"

/-- The name of a builtin function with that of its module, if it has one to show. -/
def Builtin.fullName? : Builtin → Option Text
  | .core f => some (Text.ofString f.name)
  | .anyAttribute => some "getattr"
  | .math name => some ("math." ++ name)
  | _ => none

/-- The text of a builtin function. -/
def Builtin.shown (f : Builtin) : Text :=
  match f with
  | .core g => "<built-in function " ++ Text.ofString g.name ++ ">"
  | .anyAttribute => "<built-in function getattr>"
  | .math name => "<built-in function " ++ name ++ ">"
  | .unbound owner name => "<method '" ++ name ++ "' of '" ++ owner.fullName ++ "' objects>"
  | .part owner name isKept =>
    (if isKept then ("<member '" : Text) else "<attribute '") ++ name ++ "' of '" ++ owner.fullName ++ "' objects>"
  | _ => if f.isPlainFunction then "<function>" else "<built-in method>"

/-- The name under which a value that has one is shown in a type. -/
def Value.nameInType? (heap : Array Cell) : Value → Option Text
  | .none => some "None"
  | .ellipsis => some "..."
  | .type t => some t.fullName
  | .builtin f => f.fullName?
  | .ref address =>
    match heap[address]? with
    | some (.function shape _ _ _ _) => some ("plugin." ++ shape.fullName)
    | _ => Option.none
  | _ => Option.none

/-- The datum of a value in a heap. `path` holds the containers around; the fuel bounds the depth. -/
def Value.toDatum (heap : Array Cell) : Nat → List Nat → Value → Datum
  | 0, _, _ => .cycle "..."
  | fuel + 1, path, v =>
    let dataOf (path : List Nat) (items : List Value) : List Datum := items.map (Value.toDatum heap fuel path)
    let inType (v : Value) : Text := (v.nameInType? heap).getD (Value.toDatum heap fuel path v).quoted
    match v with
    | .none => .none
    | .bool b => .bool b
    | .int n => .int n
    | .float x => .float x
    | .complex re im => .complex re im
    | .text t => .text t
    | .bytes b => .bytes b
    | .ellipsis => .thing "ellipsis" "Ellipsis"
    | .notImplemented => .thing "NotImplementedType" "NotImplemented"
    | .tuple [.int year, .int number, .int weekday] (.week _) => .week year number weekday
    | .tuple items _ => .tuple (dataOf path items)
    | .range start stop step => .thing "range" (rangeText start stop step)
    | .slice start stop step =>
      .thing "slice" ("slice(" ++ Text.join ", " ((dataOf path [start, stop, step]).map Datum.quoted)
        ++ ")")
    | .date d => .date d
    | .clock t => .clock t
    | .moment m => .moment m
    | .duration d => .duration d
    | .zone offset => .thing "timezone" (zoneName offset)
    | .type t => .thing "type" t.shown
    | .generic isSpread origin args _ =>
      let shown : Text := if args.isEmpty then "()" else Text.join ", " (args.map inType)
      .thing "GenericAlias" ((if isSpread then ("*" : Text) else []) ++ origin.fullName ++ "[" ++ shown ++ "]")
    | .oneOf types _ => .thing "UnionType" (Text.join " | " (types.map inType))
    | .builtin f => .thing f.typeName f.shown
    | .method object name _ =>
      if object.hasPlainMethods then .thing "method" ("<bound method " ++ name ++ ">")
      else .thing "builtin_function_or_method" ("<built-in method " ++ name ++ ">")
    | .promise _ rejected payload => .promise rejected (Value.toDatum heap fuel path payload)
    | .response source headers => .response source (Value.toDatum heap fuel path headers)
    | .ref address =>
      let cell := (heap[address]?).getD (.namespace [])
      if path.contains address then .cycle cell.cycleText
      else
        let path := if cell.isWatched then address :: path else path
        match cell with
        | .list items => .list (dataOf path items.toList)
        | .dict entries _ => .dict ((entries.toList.map fun e => (Value.toDatum heap fuel path e.1, Value.toDatum heap fuel path e.2)))
        | .set items => .set false (dataOf path items.items.toList)
        | .exception kind args attributes =>
          let names : List String := ["filename", "filename2", "lineno", "start", "end", "reason"]
          let shown := attributes.filter fun e => names.any e.1.is
          .exception kind (dataOf path args) (shown.map fun e => (e.1, Value.toDatum heap fuel path e.2))
        | .foreign d => d
        | .proxy dict =>
          .thing "mappingproxy" ("mappingproxy(" ++ (Value.toDatum heap fuel path (.ref dict)).quoted ++ ")")
        | .view kind dict =>
          let items : List Datum := match (heap[dict]?).getD (.namespace []) with
            | .dict entries _ =>
              match kind with
              | .keys => dataOf path (entries.toList.map (·.1))
              | .values => dataOf path (entries.toList.map (·.2))
              | .items => dataOf path (entries.toList.map fun e => .tuple [e.1, e.2] .items)
            | _ => []
          .thing cell.typeName (cell.typeName ++ "(" ++ (Datum.list items).quoted ++ ")")
        | .namespace _ => .thing "SimpleNamespace" "namespace()"
        | .module name _ => .thing "module" ("<module '" ++ name ++ "'>")
        | .function shape _ _ _ _ => .thing "function" ("<function " ++ shape.fullName ++ ">")
        | .generator name _ => .thing "generator" ("<generator object " ++ name ++ ">")
        | .iterator name _ => .thing name ("<" ++ name ++ " object>")
        | .scope _ _ _ => .thing "cell" "<cell>"
        | .session _ _ => .thing cell.typeName ("<" ++ TypeName.session.fullName ++ " object>")
        | .client _ _ => .thing cell.typeName "<httpx.Client object>"

namespace Run

/-- How deep a value may be that is shown. -/
def showDepth : Nat := 2000

/-- The datum that a value is now. -/
def snapshot (v : Value) : Run Datum := fun w => .ok (v.toDatum w.heap showDepth []) w

/-- Refuses data with integers that are too long to write. -/
def checkDigits (d : Datum) : Run Unit :=
  if d.hasHugeInt then
    valueError
      "Exceeds the limit (4300 digits) for integer string conversion; use sys.set_int_max_str_digits() to increase the limit"
  else return ()

/-- Refuses data that cannot be shown: too deep ones, and those with integers that are too long to write. -/
def checkShown (d : Datum) : Run Unit := do
  if Datum.depthLimit < d.depth then
    raise .recursionError "maximum recursion depth exceeded while getting the repr of an object"
  checkDigits d

/-- The text that a value is inside a container. -/
def quotedText (v : Value) : Run Text := do
  let d ← snapshot v
  checkShown d
  return d.quoted

/-- The text that a reader is shown of a value. -/
def plainText (v : Value) : Run Text :=
  match v with
  | .text t => return t
  | _ => do
    let d ← snapshot v
    checkShown d
    return d.plain

mutual

/-- The value of a datum. -/
def ofDatum : Datum → Run Value
  | .none => return .none
  | .bool b => return .bool b
  | .int n => return .int n
  | .float x => fresh (.float x)
  | .complex re im => fresh (.complex re im)
  | .text t => return .text t
  | .bytes b => return .bytes b
  | .date d => return .date d
  | .clock t => return .clock t
  | .moment m => return .moment m
  | .duration d => return .duration d
  | .list items => do newList (← ofData items)
  | .tuple items => do newTuple (← ofData items)
  | .set _ items => do alloc (.set (ValueSet.ofItems (← ofData items).toArray))
  | .dict entries => do newDict (← ofEntries entries)
  | .exception kind args details => do alloc (.exception kind (← ofData args) (← ofDetails details))
  | .promise rejected payload => do newPromise rejected (← ofDatum payload)
  | .response source headers => return .response source (← ofDatum headers)
  | d => alloc (.foreign d)

def ofData : List Datum → Run (List Value)
  | [] => return []
  | d :: rest => return (← ofDatum d) :: (← ofData rest)

def ofDetails : List (Text × Datum) → Run (List (Text × Value))
  | [] => return []
  | (name, d) :: rest => return (name, ← ofDatum d) :: (← ofDetails rest)

def ofEntries : List (Datum × Datum) → Run (List (Value × Value))
  | [] => return []
  | (k, v) :: rest => return (← ofDatum k, ← ofDatum v) :: (← ofEntries rest)

end

/-- The value of a number in JSON. The one that is none is always the same. -/
def jsonFloat (x : Binary64) : Value := .float (if x.isNaN then x.marked 1 else x)

mutual

/-- The value of a JSON value. -/
def ofJson : Json → Run Value
  | .null => return .none
  | .bool b => return .bool b
  | .int n => return .int n
  | .float x => return jsonFloat x
  | .string t => return .text t
  | .array items => do newList (← ofJsonItems items)
  | .object members => do newDict (← ofJsonMembers members)

def ofJsonItems : List Json → Run (List Value)
  | [] => return []
  | item :: rest => return (← ofJson item) :: (← ofJsonItems rest)

def ofJsonMembers : List (Text × Json) → Run (List (Value × Value))
  | [] => return []
  | (name, v) :: rest => return (.text name, ← ofJson v) :: (← ofJsonMembers rest)

end

end Run

end PhaseScript.Machine
