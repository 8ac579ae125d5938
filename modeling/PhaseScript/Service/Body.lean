import PhaseScript.Http.Client
import PhaseScript.Url.Basic
import PhaseScript.Text.Category
import PhaseScript.Json.Writer
import PhaseScript.Json.Reader
import PhaseScript.Datum.Basic
/-
What the service is asked and what it answers. A path is looked at as it reads once its escapes are resolved. A body
is read as JSON if its header says that it is JSON; its members are then checked one after the other, and everything
that is wrong with them is told at once.
-/
set_option autoImplicit false

namespace PhaseScript.Service

/-- A request to the service. -/
structure Incoming where
  method : Text
  path : Text
  headers : Http.Headers
  body : Bytes
  deriving Inhabited, Repr

/-- An answer of the service. Its body is text without surrogates. -/
structure Outgoing where
  status : Nat
  contentType : Option Text
  body : Text
  deriving DecidableEq, Inhabited, Repr

/-- The value of a header, whatever the case of its letters; of several the first one. -/
def header? (headers : Http.Headers) (name : Text) : Option Text :=
  (headers.find? fun entry => entry.1.lower == name.lower).map (·.2)

def jsonType : Text := "application/json"

/-- An answer without a body. -/
def Outgoing.empty : Outgoing := ⟨204, none, []⟩

/-- An answer with a JSON text as its body. -/
def Outgoing.ofJsonText (status : Nat) (t : Text) : Outgoing := ⟨status, some jsonType, t⟩

/-- An answer with a JSON value as its body. -/
def Outgoing.ofJson (status : Nat) (value : Json) : Outgoing := .ofJsonText status (Json.render .compact value)

/-- The words that go with a status. -/
def reasonOf (status : Nat) : Text :=
  match status with
  | 200 => "OK"
  | 204 => "No Content"
  | 400 => "Bad Request"
  | 404 => "Not Found"
  | 405 => "Method Not Allowed"
  | 422 => "Unprocessable Content"
  | 500 => "Internal Server Error"
  | 503 => "Service Unavailable"
  | _ => []

/-- The answer as a client gets it. -/
def Outgoing.response (answer : Outgoing) : Http.Response :=
  let headers : Http.Headers := match answer.contentType with
    | some name => [("content-length", Text.ofNat (Utf8.encode answer.body).length), ("content-type", name)]
    | none => []
  ⟨answer.status, headers, some answer.body, reasonOf answer.status⟩

/-- What follows the scheme of an address and its colon, if it has one. -/
def afterScheme? (url : Text) : Option Text :=
  let isOfScheme (p : Point) : Bool := p.isAsciiLetter || p.isAsciiDigit || p.is '+' || p.is '-' || p.is '.'
  match url, url.dropWhile isOfScheme with
  | first :: _, colon :: rest => if first.isAsciiLetter && colon.is ':' then some rest else none
  | _, _ => none

/-- A path without the parts that stand for the directory itself or the one above. There is none above the first. -/
def withoutDots (path : Text) : Text :=
  let enter (found : List Text) (part : Text) : List Text :=
    if part.is "." then found
    else if part.is ".." then (if found == [[]] then found else found.tail)
    else part :: found
  Text.join "/" ((Text.splitAtPoint '/' path).foldl enter []).reverse

/-- The path of an address: what stands between the host and a question mark or a hash. What has no scheme or no host
is a path on the service itself, where slashes at its beginning count as one. -/
def pathOf (url : Text) : Text :=
  let plain := url.takeWhile fun p => !(p.is '?' || p.is '#')
  let rest := (afterScheme? plain).getD plain
  let after := if Text.startsWith rest "//" then rest.drop 2 else []
  let host := after.takeWhile fun p => !p.is '/'
  let path := if Text.startsWith rest "//" then after.drop host.length else rest
  let isWhole := (afterScheme? plain).isSome && !host.isEmpty
  withoutDots (if isWhole && !path.isEmpty then path else "/" ++ path.dropWhile (·.is '/'))

/-- The request by some method for an address. -/
def Incoming.ofUrl (method url : Text) (headers : Http.Headers) (body : Bytes) : Incoming :=
  ⟨method.upper, Url.resolved (Url.resolved (pathOf url)), headers, body⟩

/-- What is wrong with one part of a request, and which part it is. -/
structure Complaint where
  place : List Text
  words : Text
  deriving DecidableEq, Repr, Inhabited

/-- The complaint as a line. -/
def Complaint.line (complaint : Complaint) : Text :=
  if complaint.place.isEmpty then complaint.words else Text.join "." complaint.place ++ ": " ++ complaint.words

/-- A checked part of a request. -/
abbrev Checked (α : Type) := Except (List Complaint) α

def refuse {α : Type} (place : List Text) (words : Text) : Checked α := .error [⟨place, words⟩]

/-- Two parts, with the complaints about both. -/
def Checked.both {α β : Type} (a : Checked α) (b : Checked β) : Checked (α × β) :=
  match a, b with
  | .ok a, .ok b => .ok (a, b)
  | .error s, .error t => .error (s ++ t)
  | .error s, .ok _ => .error s
  | .ok _, .error t => .error t

def missingWords : Text := "Field required"

/-- A member that must be a text. -/
def textMember (name : Text) (value : Json) : Checked Text :=
  match value with
  | .string t => .ok t
  | _ => refuse [name] "Input should be a valid string"

/-- A text that must be given. -/
def requiredText (members : List (Text × Json)) (name : Text) : Checked Text :=
  match Json.get? members name with
  | some value => textMember name value
  | none => refuse [name] missingWords

/-- A text that may be left out or null. -/
def nullableText (members : List (Text × Json)) (name : Text) : Checked (Option Text) :=
  match Json.get? members name with
  | none | some .null => .ok none
  | some value => (textMember name value).map some

/-- Members that may be left out or null. -/
def nullableMembers (members : List (Text × Json)) (name : Text) : Checked (Option (List (Text × Json))) :=
  match Json.get? members name with
  | none | some .null => .ok none
  | some (.object entries) => .ok (some entries)
  | some _ => refuse [name] "Input should be a valid dictionary"

/-- Why the body of a request is not used. -/
inductive BodyFault where
  /-- It cannot be read at all. -/
  | unreadable
  | invalid (complaints : List Complaint)
  deriving DecidableEq, Repr

/-- Whether the header of a request says that the body is JSON. Without a header it does not. -/
def saysJson (headers : Http.Headers) : Bool :=
  match header? headers "content-type" with
  | none => false
  | some value =>
    let kind := (Text.stripBy Point.isBlank (value.takeWhile fun p => !p.is ';')).lower
    match Text.splitAtPoint '/' kind with
    | [main, sub] => main.is "application" && (sub.is "json" || Text.endsWith sub "+json")
    | _ => false

/-- The members of a body that must be a JSON object. -/
def bodyMembers (request : Incoming) : Except BodyFault (List (Text × Json)) :=
  if request.body.isEmpty then .error (.invalid [⟨[], missingWords⟩])
  else
    let notMembers : BodyFault :=
      .invalid [⟨[], "Input should be a valid dictionary or object to extract fields from"⟩]
    if !saysJson request.headers then .error notMembers
    else match decodeMessage request.body with
      | .error _ => .error .unreadable
      | .ok t => match Json.read t with
        | .ok (.object members) => .ok members
        | .ok _ => .error notMembers
        | .error (.tooManyDigits _) | .error (.tooDeep _) => .error .unreadable
        | .error (.fault _ left) => .error (.invalid [⟨[Text.ofNat (t.length - left)], "JSON decode error"⟩])

/-- Checks the members of a body. -/
def readBody {α : Type} (check : List (Text × Json) → Checked α) (request : Incoming) : Except BodyFault α := do
  (check (← bodyMembers request)).mapError .invalid

end PhaseScript.Service
