import PhaseScript.Number.Binary64
import PhaseScript.Store.Backend
import PhaseScript.Url.Basic
/-
The settings of the program.
-/
set_option autoImplicit false

namespace PhaseScript

/-- Where the program runs. -/
inductive Stage where
  | local
  | staging
  | production
  deriving DecidableEq, Repr, Inhabited

namespace Stage

def all : List Stage := [.local, .staging, .production]

def name : Stage → String
  | .local => "local"
  | .staging => "staging"
  | .production => "production"

end Stage

/-- The origins that may ask from a browser: addresses, or a text that stands for its characters. -/
inductive Origins where
  | urls (urls : List Url)
  | text (t : Text)
  deriving DecidableEq, Repr

instance : Inhabited Origins := ⟨.urls []⟩

/-- The origins one by one, as browsers name them. -/
def Origins.names (origins : Origins) : List Text :=
  let parts := match origins with
    | .urls known => known.map Url.text
    | .text t => t.map fun p => [p]
  parts.map (Text.dropEndWhile (·.is '/'))

/-- The settings. -/
structure Settings where
  projectName : Text
  stage : Stage
  /-- Where the paths of plugins and probes begin. -/
  apiRoot : Text
  logLevel : Text
  /-- Where failures are reported to. -/
  reportUrl : Option Url
  origins : Origins
  /-- How long scripts wait for an answer, in seconds. -/
  httpTimeout : Binary64
  extraModules : Text
  storageBackend : BackendKind
  /-- What the keys of the store begin with in a database. -/
  keyStart : Text
  redisHost : Text
  redisPort : Int
  redisDatabase : Int
  redisPassword : Option Text
  deriving DecidableEq, Repr, Inhabited

namespace Settings

/-- The settings without any variable set. -/
def usual : Settings where
  projectName := "plugin-runtime"
  stage := .local
  apiRoot := "/api/v1"
  logLevel := "INFO"
  reportUrl := none
  origins := .urls []
  httpTimeout := Binary64.ofInt 30
  extraModules := []
  storageBackend := .memory
  keyStart := "storage:"
  redisHost := "localhost"
  redisPort := 6379
  redisDatabase := 0
  redisPassword := none

/-- The address of the Redis server. An empty password is none. -/
def redisUrl (settings : Settings) : Text :=
  let credentials := match settings.redisPassword with
    | some password => if password.isEmpty then [] else ":" ++ password ++ "@"
    | none => []
  "redis://" ++ credentials ++ settings.redisHost ++ ":" ++ Text.ofInt settings.redisPort ++ "/"
    ++ Text.ofInt settings.redisDatabase

/-- The backend that the settings ask for. -/
def backend (settings : Settings) : Backend := ⟨settings.storageBackend, settings.redisUrl, settings.keyStart⟩

end Settings

end PhaseScript
