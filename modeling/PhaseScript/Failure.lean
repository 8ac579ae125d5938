import PhaseScript.Datum.Text
import PhaseScript.Json.Reader
import PhaseScript.Json.Writer
/-
A failure that ends an operation: the kind of error and what it says. Exceptions as they are raised by what a script
calls have arguments instead, and perhaps attributes of their own.
-/
set_option autoImplicit false

namespace PhaseScript

/-- A failure: its kind and its message. -/
structure Failure where
  kind : ExceptionKind
  message : Text
  deriving DecidableEq, Repr, Inhabited

/-- What an error envelope says of a failure: its message, or the name of its kind when that is empty. -/
def Failure.shown (failure : Failure) : Text :=
  if failure.message.isEmpty then Text.ofString failure.kind.name else failure.message

namespace Datum

/-- Why the text of a datum cannot be made: it is too deep, or an integer in it has too many digits. -/
def unshown? (d : Datum) : Option Failure :=
  if depthLimit < d.depth then
    some ⟨.recursionError, "maximum recursion depth exceeded while getting the repr of an object"⟩
  else if d.hasHugeInt then some ⟨.valueError, Json.WriteFault.message .tooManyDigits⟩
  else Option.none

/-- A failure in the words of an error, or of what kept those words from being made. -/
def failureAs (kind : ExceptionKind) (error : Datum) : Failure := error.unshown?.getD ⟨kind, error.errorMessage⟩

end Datum

/-- The kind of error that a text which is not read as JSON gives. -/
def Json.Refusal.kind : Json.Refusal → ExceptionKind
  | .fault _ _ => .jsonDecodeError
  | .tooManyDigits _ => .valueError
  | .tooDeep _ => .recursionError

/-- Whether a refusal is of what the text says, so that another text might do. -/
def Json.Refusal.isOfValue : Json.Refusal → Bool
  | .tooDeep _ => false
  | _ => true

/-- A raised exception. -/
structure Raised where
  kind : ExceptionKind
  args : List Datum
  attributes : List (Text × Datum)
  deriving Inhabited, Repr

namespace Raised

/-- An exception with a message. -/
def of (kind : ExceptionKind) (message : Text) : Raised := ⟨kind, [.text message], []⟩

/-- The exception as a datum. -/
def datum (r : Raised) : Datum := .exception r.kind r.args r.attributes

/-- The text of the exception. -/
def message (r : Raised) : Text := r.datum.plain

/-- The text of the exception, if it can be made. -/
def message? (r : Raised) : Option Text := if r.datum.unshown?.isSome then none else some r.message

def failure (r : Raised) : Failure := ⟨r.kind, r.message⟩

/-- The complaint that a value lacks an attribute. -/
def noAttribute (d : Datum) (name : String) : Raised :=
  .of .attributeError ("'" ++ d.typeName ++ "' object has no attribute '" ++ Text.ofString name ++ "'")

end Raised

end PhaseScript
