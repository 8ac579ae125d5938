import PhaseScript.CommandLine
import PhaseScript.Settings.Reader
import PhaseScript.Text.Encoding
/-
The program: a command line, a message on the standard input and its envelope on the standard output. There is no
network here, so every request of a script fails to connect.
-/
set_option autoImplicit false

namespace PhaseScript.Program

/-- The variables that settings are read from. -/
def variableNames : List String := ["PROJECT_NAME", "ENVIRONMENT", "API_V1_STR", "LOG_LEVEL", "SENTRY_DSN",
  "BACKEND_CORS_ORIGINS", "HOST_HTTP_TIMEOUT", "SCRIPT_EXTRA_MODULES", "STORAGE_BACKEND", "STORAGE_KEY_PREFIX",
  "REDIS_HOST", "REDIS_PORT", "REDIS_DB", "REDIS_PASSWORD"]

/-- The message that octets spell, or the exception at the first that spell nothing. -/
def messageOf (octets : Bytes) : Except Raised Text :=
  (Utf8.decodeStrict octets).mapError fun fault => ⟨.unicodeDecodeError, [.text (Text.ofString fault.encoding),
    .bytes fault.octets, .int fault.start, .int fault.stop, .text (Text.ofString fault.reason)], []⟩

def usage : String := "usage: phasescript [-h] [--log-level LEVEL] PHASE"

/-- The usage and what the phases are. -/
def help : String := usage ++ "\n\nThe message is read from the standard input, the envelope goes to the standard "
  ++ "output.\nPhases: " ++ ", ".intercalate (Phase.all.map (·.name))

/-- What a command leaves to be written: to the output, to the log, and the status. -/
structure Report where
  output : String
  log : String
  status : UInt32

/-- The report of a failure. -/
def fail (failure : Failure) : Report := ⟨"", failure.kind.name ++ ": " ++ failure.message.toString ++ "\n", 1⟩

/-- The report of how a command ended. -/
def report : CommandEnd → Report
  | .refused .usage => ⟨"", usage ++ "\n", 2⟩
  | .refused .help => ⟨help ++ "\n", "", 0⟩
  | .failed failure => fail failure
  | .finished outputs => ⟨Text.toString outputs.flatten, "", 0⟩

/-- The report of settings that cannot be read. -/
def complain : Settings.Fault → Report
  | .broken failure => fail failure
  | .invalid complaints =>
    ⟨"", String.join (complaints.map fun c => c.setting.toString ++ ": " ++ c.words.toString ++ "\n"), 1⟩

/-- Runs a command with variables, arguments and the octets of the input. -/
def run (environment : List (Text × Text)) (arguments : List Text) (octets : Bytes) : Report :=
  match Settings.ofVariables environment with
  | .error fault => complain fault
  | .ok settings => report (settings.runCommand arguments (messageOf octets) ⟨.unconnected, []⟩).1

/-- The variables that have a value. -/
def readVariables : IO (List (Text × Text)) := do
  let found ← variableNames.mapM fun name => do
    return (← IO.getEnv name).map fun value => (Text.ofString name, Text.ofString value)
  return found.filterMap id

/-- All octets of a stream. -/
partial def readAll (stream : IO.FS.Stream) (before : ByteArray) : IO ByteArray := do
  let more ← stream.read 65536
  if more.isEmpty then return before else readAll stream (before ++ more)

end PhaseScript.Program

open PhaseScript in
/-- Runs the command of the program's arguments. -/
def main (arguments : List String) : IO UInt32 := do
  let environment ← Program.readVariables
  let octets ← Program.readAll (← IO.getStdin) .empty
  let report := Program.run environment (arguments.map Text.ofString) octets.toList
  (← IO.getStdout).putStr report.output
  (← IO.getStderr).putStr report.log
  return report.status
