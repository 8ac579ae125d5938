import PhaseScript.Host
import PhaseScript.Settings.Basic
/-
The command line: a phase and options around it. Options may be shortened as long as they stay distinct, and after
two dashes alone everything counts as it is written. The message comes from the input, the envelope goes to the
output.
-/
set_option autoImplicit false

namespace PhaseScript

inductive CommandOption where
  | help
  | logLevel
  deriving DecidableEq, Repr, Inhabited

namespace CommandOption

/-- Every spelling of an option. -/
def spellings : List (Text × CommandOption) := [("-h", .help), ("--help", .help), ("--log-level", .logLevel)]

def ofSpelling? (t : Text) : Option CommandOption :=
  (spellings.find? fun entry => entry.1 == t).map (·.2)

end CommandOption

/-- What stands with an option in one word, and whether an equals sign stands between them. -/
structure Attached where
  afterEquals : Bool
  text : Text
  deriving DecidableEq, Repr, Inhabited

/-- A word of the command line. -/
inductive CommandWord where
  | option (option : CommandOption) (isShort : Bool) (attached : Option Attached)
  | unknownOption
  | plain (t : Text)
  | divider
  deriving DecidableEq, Repr, Inhabited

/-- How the reading of a command line may end without a command. -/
inductive CommandRefusal where
  | usage
  | help
  deriving DecidableEq, Repr, Inhabited

namespace CommandWord

/-- Whether a text is a number below zero. -/
def isNegativeNumber (t : Text) : Bool :=
  match t with
  | dash :: rest =>
    let (whole, fraction) := (rest.takeWhile (·.isDecimal), rest.dropWhile (·.isDecimal))
    dash.is '-' && match fraction with
      | [] => !whole.isEmpty
      | point :: digits => point.is '.' && !digits.isEmpty && digits.all (·.isDecimal)
  | [] => false

/-- Splits a word at its first equals sign. -/
def splitAttached (t : Text) : Text × Option Attached :=
  match t.dropWhile fun p => !p.is '=' with
  | [] => (t, none)
  | _ :: value => (t.takeWhile fun p => !p.is '=', some ⟨true, value⟩)

/-- The option that a word with two dashes begins to spell; none is clear if there are several. -/
def shortened (t : Text) : Except CommandRefusal CommandWord :=
  let (start, attached) := splitAttached t
  match CommandOption.spellings.filter fun entry => Text.startsWith entry.1 start with
  | [] => .ok .unknownOption
  | [(_, meant)] => .ok (.option meant false attached)
  | _ => .error .usage

/-- A word that begins with a dash. -/
def ofDashed (t : Text) : Except CommandRefusal CommandWord :=
  let (spelling, attached) := splitAttached t
  match CommandOption.ofSpelling? t, CommandOption.ofSpelling? spelling with
  | some meant, _ => .ok (.option meant (t.length == 2) none)
  | none, some meant => .ok (.option meant (spelling.length == 2) attached)
  | none, none => do
    let word ← if Text.startsWith t "--" then shortened t
      else match CommandOption.ofSpelling? (t.take 2) with
        | some meant => .ok (.option meant true (some ⟨false, t.drop 2⟩))
        | none => .ok .unknownOption
    return if word == .unknownOption && (isNegativeNumber t || t.any (·.is ' ')) then .plain t else word

/-- The words of a command line. -/
def ofArguments : List Text → Except CommandRefusal (List CommandWord)
  | [] => .ok []
  | t :: rest =>
    if t.is "--" then .ok (.divider :: rest.map .plain)
    else do
      let word ← if Text.startsWith t "-" && 1 < t.length then ofDashed t else .ok (.plain t)
      return word :: (← ofArguments rest)

end CommandWord

/-- What has been read of a command line. -/
structure CommandLine where
  phase : Option Phase
  logLevel : Option Text
  /-- Whether there was a word too many. -/
  hasMore : Bool
  deriving DecidableEq, Repr, Inhabited

namespace CommandLine

/-- What asking for help with something attached comes to: more short options may be attached to a short one. -/
def askHelp (isShort : Bool) : Option Attached → CommandRefusal
  | none => .help
  | some ⟨afterEquals, t⟩ =>
    match t with
    | [] => .usage
    | first :: rest =>
      if !isShort || afterEquals || first.is '-' then .usage
      else if !first.is 'h' then .help
      else match rest with
        | [] => .help
        | next :: after =>
          if next.is '=' then .usage else askHelp isShort (some ⟨false, next :: after⟩)
termination_by attached => (attached.map fun a => a.text.length).getD 0

/-- The phase of a name. -/
def phaseOf (name : Text) : Except CommandRefusal Phase :=
  match Phase.ofName? name with
  | some phase => .ok phase
  | none => .error .usage

/-- Reads words one after the other. The phase is the first plain word; a divider right before or after it is
passed over. -/
def readWords : List CommandWord → CommandLine → Except CommandRefusal CommandLine
  | [], line => .ok line
  | .option .help isShort attached :: _, _ => .error (askHelp isShort attached)
  | .option .logLevel _ (some attached) :: rest, line => readWords rest { line with logLevel := some attached.text }
  | .option .logLevel _ none :: .plain t :: rest, line => readWords rest { line with logLevel := some t }
  | .option .logLevel _ none :: _, _ => .error .usage
  | .unknownOption :: rest, line => readWords rest { line with hasMore := true }
  | .divider :: .plain t :: rest, line =>
    if line.phase.isSome then readWords rest { line with hasMore := true }
    else do readWords rest { line with phase := some (← phaseOf t) }
  | .plain t :: .divider :: rest, line =>
    if line.phase.isSome then readWords rest { line with hasMore := true }
    else do readWords rest { line with phase := some (← phaseOf t) }
  | .divider :: rest, line => readWords rest { line with hasMore := true }
  | .plain t :: rest, line =>
    if line.phase.isSome then readWords rest { line with hasMore := true }
    else do readWords rest { line with phase := some (← phaseOf t) }

/-- Reads a command line. -/
def ofArguments (arguments : List Text) : Except CommandRefusal CommandLine := do
  readWords (← CommandWord.ofArguments arguments) ⟨none, none, false⟩

/-- The levels of the log. -/
def logLevels : List Text := ["CRITICAL", "FATAL", "ERROR", "WARN", "WARNING", "INFO", "DEBUG", "NOTSET"]

end CommandLine

/-- What a command comes to. -/
inductive CommandEnd where
  | refused (refusal : CommandRefusal)
  | failed (failure : Failure)
  /-- The texts that were written. -/
  | finished (outputs : List Text)
  deriving DecidableEq, Repr, Inhabited

/-- The status with which a command ends, if it does not fail. -/
def CommandEnd.exitStatus? : CommandEnd → Option Nat
  | .refused .usage => some 2
  | .refused .help | .finished _ => some 0
  | .failed _ => none

/-- The engine that settings ask for. -/
def Settings.engine (settings : Settings) : Engine :=
  ⟨Machine.moduleNames settings.extraModules, Machine.standardShelf⟩

/-- Runs a command: the message is the whole input. -/
def Settings.runCommand (settings : Settings) (arguments : List Text) (input : Except Raised Text)
    (exchange : Http.Exchange) : CommandEnd × Http.Exchange :=
  match CommandLine.ofArguments arguments with
  | .error refusal => (.refused refusal, exchange)
  | .ok line =>
    match line.phase, line.hasMore with
    | some phase, false =>
      let level := (line.logLevel.getD settings.logLevel).upper
      if CommandLine.logLevels.contains level then
        let host := settings.engine.execute (Text.ofString phase.name)
          { input := input.map .text, outputs := [], exchange }
        (match host.escaped with
          | some failure => .failed failure
          | none => .finished host.outputs, host.exchange)
      else (.failed ⟨.valueError, "Unknown level: " ++ Text.quoted level⟩, exchange)
    | _, _ => (.refused .usage, exchange)

end PhaseScript
