import PhaseScript.Script.Code
import PhaseScript.Datum.Basic
import PhaseScript.Http.Session
import PhaseScript.Machine.ItemTable
/-
The values of a running script. A value that can change, or that is known by its identity, is the address of a cell;
all others stand for themselves.
-/
set_option autoImplicit false

namespace PhaseScript.Machine

/-- The types that a script can reach. -/
inductive TypeName where
  | object
  | bool
  | int
  | float
  | complex
  | text
  | bytes
  | list
  | tuple
  | dict
  | set
  | range
  | slice
  | enumerate
  | map
  | filter
  | date
  | moment
  | clock
  | duration
  | session
  | exception (kind : ExceptionKind)
  deriving DecidableEq, Repr, Inhabited

def TypeName.name : TypeName → String
  | .object => "object"
  | .bool => "bool"
  | .int => "int"
  | .float => "float"
  | .complex => "complex"
  | .text => "str"
  | .bytes => "bytes"
  | .list => "list"
  | .tuple => "tuple"
  | .dict => "dict"
  | .set => "set"
  | .range => "range"
  | .slice => "slice"
  | .enumerate => "enumerate"
  | .map => "map"
  | .filter => "filter"
  | .date => "date"
  | .moment => "datetime"
  | .clock => "time"
  | .duration => "timedelta"
  | .session => "HostHttp"
  | .exception kind => kind.name

/-- A type and those above it, the nearest first. -/
def TypeName.lineage : TypeName → List TypeName
  | .object => [.object]
  | .bool => [.bool, .int, .object]
  | .moment => [.moment, .date, .object]
  | .exception kind => kind.lineage.map .exception ++ [.object]
  | t => [t, .object]

/-- The functions that every script can call. -/
inductive CoreFunction where
  | abs
  | all
  | any
  | callable
  | chr
  | delattr
  | divmod
  | hash
  | hex
  | id
  | isinstance
  | issubclass
  | len
  | max
  | min
  | oct
  | ord
  | pow
  | repr
  | round
  | setattr
  | sorted
  | sum
  deriving DecidableEq, Repr, Inhabited

namespace CoreFunction

def everyOne : List CoreFunction := [.abs, .all, .any, .callable, .chr, .delattr, .divmod, .hash, .hex, .id,
  .isinstance, .issubclass, .len, .max, .min, .oct, .ord, .pow, .repr, .round, .setattr, .sorted, .sum]

def name : CoreFunction → String
  | .abs => "abs"
  | .all => "all"
  | .any => "any"
  | .callable => "callable"
  | .chr => "chr"
  | .delattr => "delattr"
  | .divmod => "divmod"
  | .hash => "hash"
  | .hex => "hex"
  | .id => "id"
  | .isinstance => "isinstance"
  | .issubclass => "issubclass"
  | .len => "len"
  | .max => "max"
  | .min => "min"
  | .oct => "oct"
  | .ord => "ord"
  | .pow => "pow"
  | .repr => "repr"
  | .round => "round"
  | .setattr => "setattr"
  | .sorted => "sorted"
  | .sum => "sum"

end CoreFunction

/-- What a call of the storage object asks for. -/
inductive StorageCall where
  | get
  | set
  | remove
  | find
  | items
  | keys
  | clear
  deriving DecidableEq, Repr, Inhabited

/-- The functions made by the program around the script. -/
inductive Builtin where
  | core (f : CoreFunction)
  /-- The function that reads any attribute. -/
  | anyAttribute
  | jsonLoads
  | jsonDumps
  | resolve
  | reject
  | allOf
  | fetch
  | envGet
  | envInt
  | envBool
  /-- The function of this name; without one, the function whose calls name the level. -/
  | console (name : Option Text)
  | storage (call : StorageCall)
  | math (name : Text)
  /-- A method without its object, by the type that brings it. -/
  | unbound (owner : TypeName) (name : Text)
  /-- Another way to make a value than to call its type, or another function of a type. -/
  | maker (type : TypeName) (name : Text)
  /-- A part of the values of a type, by the type that brings it; whether it is kept as it is read. -/
  | part (owner : TypeName) (name : Text) (isKept : Bool)
  /-- A function of which a script may hold no more than its name. -/
  | closed (name : Text)
  deriving DecidableEq, Repr, Inhabited

/-- By what a row is known. -/
inductive RowMark where
  /-- By its items. -/
  | items
  /-- By a number of its own. -/
  | own (number : Nat)
  /-- By a number of its own; its items are the year, the number and the weekday of a day in its week. -/
  | week (number : Nat)
  deriving DecidableEq, Repr, Inhabited

inductive Value where
  | none
  | bool (b : Bool)
  | int (n : Int)
  | float (x : Binary64)
  | complex (re im : Binary64)
  | text (t : Text)
  | bytes (b : Bytes)
  | ellipsis
  | notImplemented
  | tuple (items : List Value) (mark : RowMark)
  | range (start stop step : Int)
  | slice (start stop step : Value)
  | date (d : Date)
  | clock (t : ClockTime)
  | moment (m : Moment)
  | duration (d : Duration)
  /-- The zone of a moment, known by its distance from universal time. -/
  | zone (offset : Duration)
  | type (t : TypeName)
  /-- A type with arguments, or what such a type gives when it is spread, with a mark by which it is known. -/
  | generic (isSpread : Bool) (origin : TypeName) (args : List Value) (mark : Nat)
  /-- One of several types, `none` standing for its own, with a mark by which it is known. -/
  | oneOf (types : List Value) (mark : Nat)
  | builtin (f : Builtin)
  /-- A method of an object with a mark by which it is known. -/
  | method (object : Value) (name : Text) (mark : Nat)
  /-- A settled promise. Promises do not change; each has a number of its own. -/
  | promise (number : Nat) (rejected : Bool) (payload : Value)
  /-- A response with a dict of headers of its own, by which it is known. -/
  | response (source : Http.Response) (headers : Value)
  | ref (address : Nat)
  deriving Repr, Inhabited

/-- What of a dict a view shows. -/
inductive ViewKind where
  | keys
  | values
  | items
  deriving DecidableEq, Repr, Inhabited

/-- Why a run of code leaves a block. -/
inductive Completion where
  | normal
  | raised (error : Value)
  | returned (value : Value)
  | broke
  | continued
  deriving Repr, Inhabited

/-- How an exception is handled: the code for the kinds, a name to keep the exception under, and the code. -/
abbrev HandlerCode := List Script.Code × Option (Text × Script.Location) × List Script.Code

/-- A block of code that has been entered and what happens when it is left. -/
inductive Block where
  | then_ (rest : List Script.Code)
  /-- The test of a loop is being evaluated. -/
  | deciding (test body orelse : List Script.Code)
  | loop (test body orelse : List Script.Code)
  | each (iterator : Value) (target body orelse : List Script.Code)
  | guarded (handlers : List HandlerCode) (orelse : List Script.Code)
  /-- The kinds of the first handler are being evaluated. -/
  | matching (error : Value) (handlers : List HandlerCode)
  /-- A handler is running; its name is forgotten after it. -/
  | handling (error : Value) (name : Option (Text × Script.Location))
  | final (code : List Script.Code)
  /-- Code that runs in any case is running; afterwards the block around is left in this way. -/
  | resume (pending : Completion)
  deriving Repr, Inhabited

/-- A function that runs: what is to be done, what is around it, the values at hand, and the scope. -/
structure Frame where
  code : List Script.Code
  blocks : List Block
  stack : List Value
  scope : Option Nat
  deriving Repr, Inhabited

inductive GeneratorState where
  /-- Not begun, or waiting at a `yield`. -/
  | waiting (frame : Frame) (begun : Bool)
  | running
  | finished
  deriving Repr, Inhabited

namespace GeneratorState

def isRunning : GeneratorState → Bool
  | .running => true
  | _ => false

/-- Whether a generator has begun and waits at a `yield`. -/
def isSuspended : GeneratorState → Bool
  | .waiting _ begun => begun
  | _ => false

end GeneratorState

/-- Where the items of an iterator come from. -/
inductive Iteration where
  | items (left : List Value)
  | listFrom (address index : Nat)
  /-- Over a dict that had these keys at first: the place among them to go on at, and how many entries are to come. -/
  | view (kind : ViewKind) (address : Nat) (keys : Array Value) (place left : Nat)
  /-- Over the set at an address that had so many items at first, from a place on. -/
  | setFrom (address place size : Nat)
  | range (next step : Int) (left : Nat)
  | counted (iterator : Value) (index : Int)
  | mapped (function : Value) (iterators : List Value)
  | kept (function : Value) (iterator : Value)
  | finished
  deriving Repr, Inhabited

/-- A set of values that can be keys. -/
abbrev ValueSet := ItemTable Value

/-- A cell of the heap. -/
inductive Cell where
  | list (items : Array Value)
  | dict (entries : Array (Value × Value)) (isExports : Bool)
  | set (items : ValueSet)
  /-- The names of a function that runs, and those of the scopes around that its body uses. -/
  | scope (slots : Array (Option Value)) (outer : Option Nat) (captured : List (Nat × Nat))
  | function (shape : Script.FunctionShape) (body : List Script.Code) (outer : Option Nat) (defaults : List Value)
      (namedDefaults : List (Text × Value))
  | generator (name : Text) (state : GeneratorState)
  | iterator (typeName : Text) (source : Iteration)
  | exception (kind : ExceptionKind) (args : List Value) (attributes : List (Text × Value))
  /-- A thing from outside of which the script knows nothing but what it shows. -/
  | foreign (d : Datum)
  /-- An object with fixed attributes. -/
  | namespace (entries : List (Text × Value))
  /-- A view of a dict that cannot be written through. -/
  | proxy (dict : Nat)
  | view (kind : ViewKind) (dict : Nat)
  | module (name : Text) (entries : List (Text × Value))
  /-- A session, with what its clients are to the script in the order of its connections. -/
  | session (s : Http.Session) (clients : List Value)
  /-- The client that a session has made at a place among its connections. -/
  | client (session place : Nat)
  deriving Repr, Inhabited

end PhaseScript.Machine
