import PhaseScript.Http.Client
import PhaseScript.Datum.JsonSafe
import PhaseScript.Datum.Basic
import PhaseScript.Json.Reader
/-
Fetching: one request from an address and options. A body that is not text or octets is sent as JSON. What goes
wrong once the request is being made is not raised but given back as the reason of a rejection.
-/
set_option autoImplicit false

namespace PhaseScript.Http

/-- The header that says what the body is. -/
def contentType : Text := "content-type"

/-- The options as entries; options that count as false are none. -/
def optionEntries (options : Datum) : Except Raised (List (Datum × Datum)) :=
  if !options.isTrue then .ok []
  else match options with
    | .dict entries => .ok entries
    | other => .error (.noAttribute other "get")

/-- The text of a datum, or the complaint that a number in it is too long. -/
def shownText (d : Datum) : Except Raised Text :=
  if d.hasHugeInt then .error (.of .valueError (Json.WriteFault.message .tooManyDigits)) else .ok d.plain

/-- Headers from entries of any kind, names and values as text. -/
def headerTexts : List (Datum × Datum) → Headers → Except Raised Headers
  | [], headers => .ok headers
  | (name, value) :: rest, headers => do
    headerTexts rest (putHeader (← shownText name) (← shownText value) headers)

/-- The headers that the options ask for. -/
def optionHeaders (entries : List (Datum × Datum)) : Except Raised Headers :=
  let headers := Datum.entry entries "headers"
  if !headers.isTrue then .ok []
  else match headers with
    | .dict entries => headerTexts entries []
    | other => .error (.noAttribute other "items")

/-- Whether a header names the kind of the body, whatever its letters' case. -/
def namesContentType (header : Text × Text) : Bool := header.1.lower == contentType

/-- The JSON-safe form of a datum as the text of a body. -/
def jsonBody (d : Datum) : Except Raised Text :=
  if d.isTooDeep then .error (.of .recursionError "maximum recursion depth exceeded")
  else match d.wireText with
    | .ok t => .ok t
    | .error fault => .error (.of .valueError fault.message)

/-- A body as it is sent, and whether it was written as JSON. -/
def encodedBody (body : Datum) : Except Raised (Datum × Bool) :=
  match body with
  | .text _ | .bytes _ => .ok (body, false)
  | _ => (jsonBody body).map fun t => (.text t, true)

/-- The headers as they are sent beside a body. -/
def headersFor (isJson : Bool) (headers : Headers) : Headers :=
  if isJson && !headers.any namesContentType then putHeader "Content-Type" "application/json" headers else headers

def headerEntries (headers : Headers) : List (Datum × Datum) := headers.map fun (n, v) => (.text n, .text v)

/-- Gives the error that a step raises back as a value. What is raised without being an error, such as an interrupt,
goes through. -/
def attempt {α : Type} (step : Sending α) : Sending (Except Raised α) := fun before =>
  match step before with
  | .ok a after => .ok (.ok a) after
  | .error e after => if e.kind.is .exception then .ok (.error e) after else .error e after

/-- Sends what the options ask for. -/
def fetchWith (url method : Datum) (headers : Headers) (body : Datum) : Sending Response := do
  if body.isTrue then
    let (body, isJson) ← MonadExcept.ofExcept (encodedBody body)
    request (method.orElse (.text "POST")) url (headerEntries (headersFor isJson headers)) body
  else request (method.orElse (.text "GET")) url (headerEntries headers) .none

/-- Fetches: the response, or the error that is the reason of a rejection. Options that are none at all are refused
outright. -/
def fetch (url options : Datum) : Sending (Except Raised Response) := do
  let entries ← MonadExcept.ofExcept (optionEntries options)
  let headers ← MonadExcept.ofExcept (optionHeaders entries)
  attempt (fetchWith url (Datum.entry entries "method") headers (Datum.entry entries "body"))

namespace Response

def isOk (r : Response) : Bool := isSuccess r.status

def isRedirect (r : Response) : Bool := 300 ≤ r.status && r.status ≤ 399

/-- The body as text; no body is an empty text. -/
def text (r : Response) : Text := r.body.getD []

/-- The body read as JSON. -/
def json (r : Response) : Except Json.Refusal Json := Json.read r.text

end Response

/-- The complaint about a way to read a body that is not offered. -/
def unsupported (name : Text) : Raised := .of .notImplementedError ("unsupported method " ++ name)

end PhaseScript.Http
