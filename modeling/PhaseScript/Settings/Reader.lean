import PhaseScript.Settings.Basic
import PhaseScript.Url.Reader
import PhaseScript.Number.Reading
import PhaseScript.Json.Reader
import PhaseScript.Failure
/-
Reading the settings from variables. The case of the letters in a variable's name does not count, and an empty
variable is none. Everything that is wrong is told, setting by setting.
-/
set_option autoImplicit false

namespace PhaseScript.Settings

/-- What is wrong with a setting. -/
structure Complaint where
  setting : Text
  words : Text
  deriving DecidableEq, Repr, Inhabited

/-- Why there are no settings: everything that is wrong with the variables, or a failure to read them at all. -/
inductive Fault where
  | invalid (complaints : List Complaint)
  | broken (failure : Failure)
  deriving DecidableEq, Repr

/-- A setting that is read, or everything that is wrong with it. -/
abbrev Setting (α : Type) := Except (List Text) α

/-- The value of a variable: of several the last one that is not empty. -/
def valueOf? (environment : List (Text × Text)) (name : Text) : Option Text :=
  ((environment.filter fun entry => !entry.2.isEmpty && entry.1.lower == name.lower).getLast?).map (·.2)

/-- Whether a character is a blank around a number; the separators of information are none. -/
def isSpace (p : Point) : Bool := p.isBlank && !(28 ≤ p.val && p.val ≤ 31)

/-- A text without the underscores that stand singly within it, if there are any. -/
def withoutUnderscores? (t : Text) : Option Text :=
  if Text.startsWith t "_" || Text.endsWith t "_" || Text.occursIn "__" t || !t.any (·.is '_') then none
  else some (t.filter fun p => !p.is '_')

/-- Digits without the zeros they begin with, underscores among them included; a last zero, or one before a point,
stays. -/
def withoutZeros (t : Text) : Text :=
  let isLeading (p : Point) : Bool := p.is '0' || p.is '_'
  match t with
  | zero :: _ =>
    if !zero.is '0' then t
    else match t.dropWhile isLeading with
      | [] => (t.getLast?).toList
      | p :: rest => if p.is '.' then (t.takeWhile isLeading).drop ((t.takeWhile isLeading).length - 1) ++ p :: rest
        else p :: rest
  | [] => []

/-- A text without zeros after a point at its end. -/
def withoutZeroFraction (t : Text) : Text :=
  let after := (t.dropWhile fun p => !p.is '.').drop 1
  if !after.isEmpty && after.all (·.is '0') then t.takeWhile fun p => !p.is '.' else t

/-- An integer; zeros may stand before it and after its point. Of the digits that are left there may be 4300. -/
def readInteger (t : Text) : Setting Int :=
  let (isNegative, digits) := Text.takeSign (Text.stripBy isSpace t)
  let digits := withoutZeroFraction (withoutZeros digits)
  let digits := (withoutUnderscores? digits).getD digits
  let count := (digits.takeWhile Point.isAsciiDigit).length + (if isNegative then 1 else 0)
  if 4300 < count then .error ["Unable to parse input string as an integer, exceeded maximum size"]
  else if digits.isEmpty || !digits.all Point.isAsciiDigit then
    .error ["Input should be a valid integer, unable to parse string as an integer"]
  else
    let n := digits.foldl (fun n p => n * 10 + (p.asciiDigit?).getD 0) 0
    .ok (if isNegative then -Int.ofNat n else Int.ofNat n)

/-- A number, with blanks around it or with underscores within it. -/
def readNumber (t : Text) : Setting Binary64 :=
  let plain := Text.stripBy isSpace t
  let read? (t : Text) : Option Binary64 :=
    if t.all fun p => p.val < 128 && !p.isBlank && !p.is '_' then Text.readFloat? t else none
  match (read? plain).or ((withoutUnderscores? t).bind read?) with
  | some x => .ok x
  | none => .error ["Input should be a valid number, unable to parse string as a number"]

/-- One of a few words. -/
def readWord {α : Type} (words : List (Text × α)) (complaint : Text) (t : Text) : Setting α :=
  match words.find? fun entry => entry.1 == t with
  | some (_, a) => .ok a
  | none => .error [complaint]

/-- An address. No half of a surrogate pair stands in one. -/
def readUrl (t : Text) : Setting Url :=
  if !t.isScalar then .error ["Input should be a valid string, unable to parse raw data as a unicode string"]
  else (Url.ofText t).mapError fun fault => ["Input should be a valid URL, " ++ fault.words]

/-- An address on the web, of a length that is usual there. -/
def readWebUrl (t : Text) : Setting Url := do
  if 2083 < (Utf8.encode t).length then .error ["URL should have at most 2083 characters"]
  let url ← readUrl t
  if url.scheme.is "http" || url.scheme.is "https" then return url
  else .error ["URL scheme should be 'http' or 'https'"]

/-- The addresses of a list, with what is wrong with any of them. -/
def readUrls : List Json → Setting (List Url)
  | [] => .ok []
  | item :: rest =>
    let first := match item with
      | .string t => readUrl t
      | _ => .error ["URL input should be a string or URL"]
    match first, readUrls rest with
    | .ok url, .ok urls => .ok (url :: urls)
    | .error s, .error t => .error (s ++ t)
    | .error s, .ok _ => .error s
    | .ok _, .error t => .error t

/-- The parts of a list that is written with commas. -/
def commaParts (t : Text) : List Json :=
  (((Text.splitAtPoint ',' t).map Text.strip).filter fun part => !part.isEmpty).map .string

/-- Origins from a list of addresses. What is no list of addresses should at least be a text. -/
def originsOfList (items : List Json) : Setting Origins :=
  match readUrls items with
  | .ok urls => .ok (.urls urls)
  | .error complaints => .error (complaints ++ [("Input should be a valid string" : Text)])

/-- Origins from a text: addresses with commas between them, unless it looks like a list that could not be read. -/
def originsOfText (t : Text) : Setting Origins :=
  if Text.startsWith t "[" then .ok (.text t) else originsOfList (commaParts t)

/-- The origins, in JSON or with commas; null says nothing. -/
def readOrigins (t : Text) : Setting (Option Origins) :=
  match Json.read t with
  | .ok .null => .ok none
  | .ok (.array items) => (originsOfList items).map some
  | .ok (.string t) => (originsOfText t).map some
  | .ok other => .error ["Value error, " ++ (Datum.ofJson other).plain]
  | .error _ => (originsOfText t).map some

/-- The settings so far with one more read from its variable, or what is wrong with it. -/
def withVariable {α : Type} (environment : List (Text × Text)) (name : Text) (read : Text → Setting α)
    (put : Settings → α → Settings) (state : Settings × List Complaint) : Settings × List Complaint :=
  match valueOf? environment name with
  | none => state
  | some t => match read t with
    | .ok a => (put state.1 a, state.2)
    | .error complaints => (state.1, state.2 ++ complaints.map fun words => ⟨name, words⟩)

/-- Any text. -/
def readText (t : Text) : Setting Text := .ok t

/-- The failure of variables that cannot be read at all: origins that lie too deep in each other. -/
def failure? (environment : List (Text × Text)) : Option Failure :=
  match (valueOf? environment "BACKEND_CORS_ORIGINS").map fun t => (t, Json.read t) with
  | some (t, .error (.tooDeep isArray)) => some ⟨.recursionError, (Json.Refusal.tooDeep isArray).message t⟩
  | _ => none

/-- The settings that variables ask for. -/
def ofVariables (environment : List (Text × Text)) : Except Fault Settings :=
  let stages := Stage.all.map fun stage => (Text.ofString stage.name, stage)
  let backends : List (Text × BackendKind) := [("memory", .memory), ("redis", .redis)]
  let start : Settings × List Complaint := (usual, [])
  let (settings, complaints) := start
    |> withVariable environment "PROJECT_NAME" readText (fun s projectName => { s with projectName })
    |> withVariable environment "ENVIRONMENT" (readWord stages "Input should be 'local', 'staging' or 'production'")
      (fun s stage => { s with stage })
    |> withVariable environment "API_V1_STR" readText (fun s apiRoot => { s with apiRoot })
    |> withVariable environment "LOG_LEVEL" readText (fun s logLevel => { s with logLevel })
    |> withVariable environment "SENTRY_DSN" readWebUrl (fun s url => { s with reportUrl := some url })
    |> withVariable environment "BACKEND_CORS_ORIGINS" readOrigins
      (fun s origins => { s with origins := origins.getD s.origins })
    |> withVariable environment "HOST_HTTP_TIMEOUT" readNumber (fun s httpTimeout => { s with httpTimeout })
    |> withVariable environment "SCRIPT_EXTRA_MODULES" readText (fun s extraModules => { s with extraModules })
    |> withVariable environment "STORAGE_BACKEND" (readWord backends "Input should be 'memory' or 'redis'")
      (fun s storageBackend => { s with storageBackend })
    |> withVariable environment "STORAGE_KEY_PREFIX" readText (fun s keyStart => { s with keyStart })
    |> withVariable environment "REDIS_HOST" readText (fun s redisHost => { s with redisHost })
    |> withVariable environment "REDIS_PORT" readInteger (fun s redisPort => { s with redisPort })
    |> withVariable environment "REDIS_DB" readInteger (fun s redisDatabase => { s with redisDatabase })
    |> withVariable environment "REDIS_PASSWORD" readText (fun s password => { s with redisPassword := some password })
  match failure? environment with
  | some failure => .error (.broken failure)
  | none => if complaints.isEmpty then .ok settings else .error (.invalid complaints)

end PhaseScript.Settings
