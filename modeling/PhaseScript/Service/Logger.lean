import PhaseScript.Service.Body
import PhaseScript.Datum.Text
/-
The log of the service. A line that a script logs is kept at its level; a level that is not known is taken as `info`.
-/
set_option autoImplicit false

namespace PhaseScript.Service

inductive LogLevel where
  | debug
  | info
  | warning
  | error
  deriving DecidableEq, Repr, Inhabited

/-- The level as the log shows it. -/
def LogLevel.name : LogLevel → Text
  | .debug => "DEBUG"
  | .info => "INFO"
  | .warning => "WARNING"
  | .error => "ERROR"

/-- The level that goes by a name in letters of any case. -/
def LogLevel.ofName (name : Text) : LogLevel :=
  let name := name.lower
  if name.is "debug" then .debug
  else if name.is "warn" || name.is "warning" then .warning
  else if name.is "error" then .error
  else .info

/-- A line of the log. -/
structure LogRecord where
  level : LogLevel
  text : Text
  module : Option Text
  deriving DecidableEq, Repr, Inhabited

/-- A request to log messages. -/
structure LogCall where
  module : Option Text
  level : Text
  messages : List Json
  deriving Repr, Inhabited

namespace LogCall

def checkMessages (members : List (Text × Json)) : Checked (List Json) :=
  match Json.get? members "messages" with
  | none => .ok []
  | some (.array items) => .ok items
  | some _ => refuse ["messages"] "Input should be a valid list"

def checkLevel (members : List (Text × Json)) : Checked Text :=
  match Json.get? members "level" with
  | none => .ok "info"
  | some value => textMember "level" value

/-- The call that the members of a body describe. -/
def check (members : List (Text × Json)) : Checked LogCall :=
  ((nullableText members "module").both ((checkLevel members).both (checkMessages members))).map
    fun (module, level, messages) => ⟨module, level, messages⟩

/-- The text of the line: the module in brackets, then the messages. -/
def text (call : LogCall) : Text :=
  let name := match call.module with
    | some name => if name.isEmpty then "-" else name
    | none => "-"
  "[" ++ name ++ "] " ++ Text.join " " (call.messages.map fun message => (Datum.ofJson message).plain)

/-- The line that a call adds to the log. -/
def record (call : LogCall) : LogRecord := ⟨LogLevel.ofName call.level, call.text, call.module⟩

end LogCall

end PhaseScript.Service
