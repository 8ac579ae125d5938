import PhaseScript.Text.Basic
/-
Responses of an HTTP client.
-/
set_option autoImplicit false

namespace PhaseScript.Http

/-- Header names and values in order. Names are kept as they were given. -/
abbrev Headers := List (Text × Text)

/-- A response: its status, headers, body and reason phrase. -/
structure Response where
  status : Int
  headers : Headers
  body : Option Text
  reason : Text
  deriving DecidableEq, Repr, Inhabited

/-- Puts a header: in its place if the very name is there, else last. -/
def putHeader (name value : Text) : Headers → Headers
  | [] => [(name, value)]
  | (n, v) :: rest => if n == name then (n, value) :: rest else (n, v) :: putHeader name value rest

/-- Whether a status is in the two hundreds. -/
def isSuccess (status : Int) : Bool := 200 ≤ status && status ≤ 299

end PhaseScript.Http
