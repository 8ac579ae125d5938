import PhaseScript.Number.FloatText
/-
JSON values. Members keep their order; a reader keeps one member a name, a writer writes what it is given.
-/
set_option autoImplicit false

namespace PhaseScript

/-- A JSON value; the lax dialect also has the numbers that are not finite. -/
inductive Json where
  | null
  | bool (b : Bool)
  | int (n : Int)
  | float (x : Binary64)
  | string (t : Text)
  | array (items : List Json)
  | object (members : List (Text × Json))
  deriving Inhabited, Repr

namespace Json

/-- The value of a member. -/
def get? (members : List (Text × Json)) (name : Text) : Option Json :=
  (members.find? (·.1 == name)).map (·.2)

/-- Puts a value under a name: in its place if the name is there, else last. -/
def put (name : Text) (value : Json) : List (Text × Json) → List (Text × Json)
  | [] => [(name, value)]
  | (n, v) :: rest => if n == name then (n, value) :: rest else (n, v) :: put name value rest

mutual

/-- Equality of values, member order included; equal numbers of the two kinds stay apart. -/
def same : Json → Json → Bool
  | .null, .null => true
  | .bool a, .bool b => a == b
  | .int a, .int b => a == b
  | .float a, .float b => a == b
  | .string a, .string b => a == b
  | .array a, .array b => sameItems a b
  | .object a, .object b => sameMembers a b
  | _, _ => false

def sameItems : List Json → List Json → Bool
  | [], [] => true
  | a :: as, b :: bs => same a b && sameItems as bs
  | _, _ => false

def sameMembers : List (Text × Json) → List (Text × Json) → Bool
  | [], [] => true
  | (m, a) :: as, (n, b) :: bs => m == n && same a b && sameMembers as bs
  | _, _ => false

end

end Json

end PhaseScript
