import PhaseScript.Machine.Intake
import PhaseScript.Machine.Arithmetic
/-
Days, times of day, moments and durations: how they are made, their parts and their methods.
-/
set_option autoImplicit false

namespace PhaseScript.Machine

namespace Run

/-- An integer small enough for a part of a date. -/
def smallInt (v : Value) : Run Int := do
  let n ← index v
  if n ≥ 2 ^ 63 || n < -(2 ^ 63) then raise .overflowError "Python int too large to convert to C long"
  if n > 2147483647 then raise .overflowError "signed integer is greater than maximum"
  if n < -2147483648 then raise .overflowError "signed integer is less than minimum"
  return n

def partOr (args : List (Option Value)) (place : Nat) (otherwise : Int) : Run Int :=
  match given? args place with
  | none => return otherwise
  | some v => smallInt v

/-- A day of the calendar. -/
def newDate (year month day : Int) : Run Date := do
  if year < 1 || year > 9999 then valueError ("year " ++ Text.ofInt year ++ " is out of range")
  if month < 1 || month > 12 then valueError "month must be in 1..12"
  if day < 1 || day > Int.ofNat (daysInMonth year.toNat month.toNat) then valueError "day is out of range for month"
  return ⟨year.toNat, month.toNat, day.toNat⟩

/-- A time of day. -/
def newClock (hour minute second micro : Int) (offset : Option Duration) : Run ClockTime := do
  if hour < 0 || hour > 23 then valueError "hour must be in 0..23"
  if minute < 0 || minute > 59 then valueError "minute must be in 0..59"
  if second < 0 || second > 59 then valueError "second must be in 0..59"
  if micro < 0 || micro > 999999 then valueError "microsecond must be in 0..999999"
  return ⟨hour.toNat, minute.toNat, second.toNat, micro.toNat, offset⟩

/-- The zone of a time. -/
def zoneOf (v : Option Value) (otherwise : Option Duration) : Run (Option Duration) :=
  match v with
  | none => return otherwise
  | some .none => return none
  | some (.zone offset) => return some offset
  | some v => typeErrorOf "tzinfo argument must be None or of a tzinfo subclass, not type '" v "'"


/-- A part of a duration: whole microseconds, and what is left of one. -/
def durationPart (name : String) (micros : Int) (v : Option Value) (found : Int × Float) : Run (Int × Float) := do
  match v with
  | none => return found
  | some v => match v.int?, v with
    | some n, _ => return (found.1 + n * micros, found.2)
    | none, .float x => do
      let whole ← integerPart x
      let rest := x.toFloat - (Binary64.ofInt whole).toFloat
      let scaled := Binary64.ofFloat ((Binary64.ofInt micros).toFloat * rest)
      let more := scaled.truncate
      return (found.1 + whole * micros + more, found.2 + (scaled.toFloat - (Binary64.ofInt more).toFloat))
    | none, _ =>
      typeErrorOf ("unsupported type for timedelta " ++ Text.ofString name ++ " component: ") v []

/-- A duration from its parts, the nearest one to their sum. -/
def newDuration (args : List (Option Value)) : Run Value := do
  let part := fun (name : String) (place : Nat) (micros : Int) found =>
    durationPart name micros (given? args place) found
  let found ← part "microseconds" 2 1 (0, 0.0)
  let found ← part "milliseconds" 3 1000 found
  let found ← part "seconds" 1 1000000 found
  let found ← part "minutes" 4 60000000 found
  let found ← part "hours" 5 3600000000 found
  let found ← part "days" 0 86400000000 found
  let found ← part "weeks" 6 604800000000 found
  let rest := Binary64.ofFloat found.2
  if rest.isZero then duration found.1
  else
    let (n, d) := rest.ratio
    let n : Int := if rest.isNegative then -Int.ofNat n else n
    duration (roundedQuotient (found.1 * d + n) d)

def dateParameters : NamedParameters := ⟨["year", "month", "day"], 3, 0, 3⟩

def clockNames : List Text := ["hour", "minute", "second", "microsecond", "tzinfo", "fold"]

/-- A day from arguments. -/
def makeDate (args : List (Option Value)) : Run Value := do
  return .date (← newDate (← partOr args 0 0) (← partOr args 1 0) (← partOr args 2 0))

/-- A time of day from arguments that begin at a place; what is not given is taken from another time. -/
def makeClock (args : List (Option Value)) (place : Nat) (base : ClockTime) : Run ClockTime := do
  let hour ← partOr args place base.hour
  let minute ← partOr args (place + 1) base.minute
  let second ← partOr args (place + 2) base.second
  let micro ← partOr args (place + 3) base.micro
  -- Which of the two moments of a repeated hour is meant; it is not kept.
  let fold ← partOr args (place + 5) 0
  let time ← newClock hour minute second micro none
  if fold != 0 && fold != 1 then valueError "fold must be either 0 or 1"
  return { time with offset := ← zoneOf (given? args (place + 4)) base.offset }

/-- A moment from arguments. -/
def makeMoment (args : List (Option Value)) : Run Value := do
  let year ← partOr args 0 0
  let month ← partOr args 1 0
  let day ← partOr args 2 0
  return .moment ⟨← newDate year month day, ← makeClock args 3 midnight⟩

/-- The time of day cut to the unit that an argument at a place names. -/
def clockText (t : ClockTime) (args : List (Option Value)) (place : Nat) : Run Text := do
  let two := Text.digits 2
  let zone : Text := match t.offset with
    | none => []
    | some offset => offsetText offset ":"
  let toSeconds : Text := two t.hour ++ ":" ++ two t.minute ++ ":" ++ two t.second
  match given? args place with
  | none => return t.isoText
  | some (.text u) =>
    match Text.toString u with
    | "auto" => return t.isoText
    | "hours" => return two t.hour ++ zone
    | "minutes" => return two t.hour ++ ":" ++ two t.minute ++ zone
    | "seconds" => return toSeconds ++ zone
    | "milliseconds" => return toSeconds ++ "." ++ Text.digits 3 (t.micro / 1000) ++ zone
    | "microseconds" => return toSeconds ++ "." ++ Text.digits 6 t.micro ++ zone
    | _ => valueError "Unknown timespec value"
  | some v => refuseArgument ("isoformat() argument " ++ Text.ofNat (place + 1) ++ " must be str") v

/-- Refuses to set a day or a time by a pattern, after a look at the pattern. -/
def patternText (args : List (Option Value)) : Run Value :=
  match argument args 0 with
  | .text _ => refuseImport
  | v => refuseArgument "strftime() argument 1 must be str" v

/-- The same moment by another distance from universal time, which a moment without a zone is taken to be in. -/
def movedToZone (m : Moment) (offset : Duration) : Run Value :=
  match Moment.ofMicros? (m.absoluteMicros + offset.micros) (some offset) with
  | some m => return .moment m
  | none => raise .overflowError "date value out of range"

/-- The whole and broken seconds since the beginning of 1970. -/
def timestamp (m : Moment) : Binary64 :=
  let epoch : Moment := ⟨⟨1970, 1, 1⟩, midnight⟩
  (Duration.mk (m.absoluteMicros - epoch.micros)).totalSeconds

end Run

open Run

/-- The methods that a day has. -/
def dateMethods : List (Method Date) := [
  ⟨"isoformat", .nothing false, fun _ d _ => return .text d.isoText⟩,
  ⟨"weekday", .nothing false, fun _ d _ => return .int (Int.ofNat d.weekday)⟩,
  ⟨"isoweekday", .nothing false, fun _ d _ => return .int (Int.ofNat (d.weekday + 1))⟩,
  ⟨"toordinal", .nothing false, fun _ d _ => return .int (Int.ofNat d.ordinal)⟩,
  ⟨"isocalendar", .nothing false, fun _ d _ => do
    let (year, week, day) := d.isoCalendar
    return .tuple [.int year, .int (Int.ofNat week), .int (Int.ofNat day)] (.week (← newMark))⟩,
  ⟨"ctime", .nothing false, fun _ d _ => return .text (Moment.mk d midnight).wordText⟩,
  ⟨"strftime", .named ⟨["format"], 1, 0, 1⟩, fun _ _ args => patternText args⟩,
  ⟨"timetuple", .nothing false, fun _ _ _ => refuseImport⟩,
  ⟨"replace", .named ⟨["year", "month", "day"], 0, 0, 3⟩, fun _ d args => do
    return .date (← newDate (← partOr args 0 d.year) (← partOr args 1 d.month) (← partOr args 2 d.day))⟩]

/-- The methods that a time of day has. -/
def clockMethods : List (Method ClockTime) := [
  ⟨"isoformat", .named ⟨["timespec"], 0, 0, 1⟩, fun _ t args => do return .text (← clockText t args 0)⟩,
  ⟨"strftime", .named ⟨["format"], 1, 0, 1⟩, fun _ _ args => patternText args⟩,
  ⟨"replace", .named ⟨clockNames, 0, 0, 5⟩, fun _ t args => do return .clock (← makeClock args 0 t)⟩,
  ⟨"utcoffset", .nothing false, fun _ t _ => return (t.offset.map .duration).getD .none⟩,
  ⟨"dst", .nothing false, fun _ _ _ => return .none⟩,
  ⟨"tzname", .nothing false, fun _ t _ => return (t.offset.map fun o => .text (zoneName o)).getD .none⟩]

/-- The methods that a moment has of its own; it has those of its day as well. -/
def momentMethods : List (Method Moment) := [
  ⟨"isoformat", .named ⟨["sep", "timespec"], 0, 0, 2⟩, fun _ m args => do
    let separator ← match given? args 0 with
      | none => pure (Text.ofString "T")
      | some (.text [p]) => pure [p]
      | some v => refuseArgument "isoformat() argument 1 must be a unicode character" v
    return .text (m.date.isoText ++ separator ++ (← clockText m.clock args 1))⟩,
  ⟨"date", .nothing false, fun _ m _ => return .date m.date⟩,
  ⟨"time", .nothing false, fun _ m _ => return .clock { m.clock with offset := none }⟩,
  ⟨"timetz", .nothing false, fun _ m _ => return .clock m.clock⟩,
  ⟨"timestamp", .nothing false, fun _ m _ => return .float (timestamp m)⟩,
  ⟨"ctime", .nothing false, fun _ m _ => return .text m.wordText⟩,
  ⟨"timetuple", .nothing false, fun _ _ _ => refuseImport⟩,
  ⟨"utctimetuple", .nothing false, fun _ _ _ => refuseImport⟩,
  ⟨"astimezone", .named ⟨["tz"], 0, 0, 1⟩, fun _ m args => do
    let offset ← zoneOf (given? args 0) none
    movedToZone m (offset.getD ⟨0⟩)⟩,
  ⟨"utcoffset", .nothing false, fun _ m _ => return (m.clock.offset.map .duration).getD .none⟩,
  ⟨"dst", .nothing false, fun _ _ _ => return .none⟩,
  ⟨"tzname", .nothing false, fun _ m _ => return (m.clock.offset.map fun o => .text (zoneName o)).getD .none⟩,
  ⟨"replace", .named ⟨dateParameters.names ++ clockNames, 0, 0, 8⟩, fun _ m args => do
    let year ← partOr args 0 m.date.year
    let month ← partOr args 1 m.date.month
    let day ← partOr args 2 m.date.day
    return .moment ⟨← newDate year month day, ← makeClock args 3 m.clock⟩⟩]

/-- The methods that a duration has. -/
def durationMethods : List (Method Duration) := [
  ⟨"total_seconds", .nothing false, fun _ d _ => return .float d.totalSeconds⟩]

/-- Refuses what a zone cannot be asked about. -/
def Run.checkMoment (name : String) (v : Value) : Run Unit :=
  match v with
  | .none | .moment _ => return ()
  | v => typeErrorOf (Text.ofString name ++ "(dt) argument must be a datetime instance or None, not ") v []

/-- The methods that a zone has. -/
def zoneMethods : List (Method Duration) := [
  ⟨"utcoffset", .single, fun _ offset args => do
    checkMoment "utcoffset" (argument args 0)
    return .duration offset⟩,
  ⟨"dst", .single, fun _ _ args => do
    checkMoment "dst" (argument args 0)
    return .none⟩,
  ⟨"tzname", .single, fun _ offset args => do
    checkMoment "tzname" (argument args 0)
    return .text (zoneName offset)⟩]

/-- The bounds of zones, and universal time. -/
def zoneBound? (name : Text) : Option Value :=
  let lastMinute : Int := Duration.microsPerDay - 60000000
  if name.is "utc" then some (.zone ⟨0⟩)
  else if name.is "min" then some (.zone ⟨-lastMinute⟩)
  else if name.is "max" then some (.zone ⟨lastMinute⟩)
  else none

def datePart? (d : Date) (name : Text) : Option Value :=
  if name.is "year" then some (.int d.year)
  else if name.is "month" then some (.int d.month)
  else if name.is "day" then some (.int d.day)
  else none

def clockPart? (t : ClockTime) (name : Text) : Option Value :=
  if name.is "hour" then some (.int t.hour)
  else if name.is "minute" then some (.int t.minute)
  else if name.is "second" then some (.int t.second)
  else if name.is "microsecond" then some (.int t.micro)
  else if name.is "tzinfo" then some ((t.offset.map .zone).getD .none)
  else if name.is "fold" then some (.int 0)
  else none

def durationPart? (d : Duration) (name : Text) : Option Value :=
  if name.is "days" then some (.int d.days)
  else if name.is "seconds" then some (.int d.seconds)
  else if name.is "microseconds" then some (.int d.microseconds)
  else none

/-- The bounds that the types of the calendar have as parts. -/
def calendarBound? (t : TypeName) (name : Text) : Option Value :=
  let lastClock : ClockTime := ⟨23, 59, 59, 999999, none⟩
  match t, Text.toString name with
  | .date, "min" => some (.date ⟨1, 1, 1⟩)
  | .date, "max" => some (.date ⟨9999, 12, 31⟩)
  | .date, "resolution" => some (.duration ⟨Duration.microsPerDay⟩)
  | .moment, "min" => some (.moment ⟨⟨1, 1, 1⟩, midnight⟩)
  | .moment, "max" => some (.moment ⟨⟨9999, 12, 31⟩, lastClock⟩)
  | .clock, "min" => some (.clock midnight)
  | .clock, "max" => some (.clock lastClock)
  | .moment, "resolution" | .clock, "resolution" | .duration, "resolution" => some (.duration ⟨1⟩)
  | .duration, "min" => some (.duration ⟨-999999999 * Duration.microsPerDay⟩)
  | .duration, "max" => some (.duration ⟨1000000000 * Duration.microsPerDay - 1⟩)
  | _, _ => none

namespace Run

/-- The day that the calendar has. -/
def existingDate (d : Date) : Run Date := newDate d.year d.month d.day

/-- Refuses a distance from universal time of a day or more. -/
def checkOffset (offset : Option Duration) : Run Unit := do
  match offset with
  | some d =>
    if d.micros.natAbs ≥ 86400000000 then
      valueError ("offset must be a timedelta strictly between -timedelta(hours=24) and timedelta(hours=24), not "
        ++ d.constructorText ++ ".")
  | none => pure ()

/-- The time that a day has. -/
def existingClock (t : ClockTime) : Run ClockTime := newClock t.hour t.minute t.second t.micro t.offset

/-- Reads a standard text. -/
def fromIso {α : Type} (read : Text → Option α) (make : α → Run Value) (v : Value) : Run Value :=
  match v with
  | .text t => match read t with
    | some a => make a
    | none => valueError ("Invalid isoformat string: " ++ Text.quoted t)
  | _ => typeError "fromisoformat: argument must be str"

/-- The number of years past 9999 or before 1 that a day lies in, counted from a day of the year 1. -/
def yearOfDay (day : Int) : Int :=
  -- Years are counted from March, so that a leap day ends one; four hundred years have a fixed number of days.
  let fromMarch := day + 305
  let era := fromMarch.fdiv 146097
  let inEra := fromMarch - era * 146097
  let year := (inEra - inEra / 1460 + inEra / 36524 - inEra / 146096) / 365
  let dayOfYear := inEra - (365 * year + year / 4 - year / 100)
  year + era * 400 + (if 306 ≤ dayOfYear then 1 else 0)

/-- The day with a number, the first of January of the year 1 having number one. -/
def dayWithNumber (n : Int) : Run Date :=
  if 1 ≤ n && n ≤ Int.ofNat Date.maxOrdinal then return Date.ofOrdinal n.toNat
  else valueError ("year " ++ Text.ofInt (yearOfDay (n - 1)) ++ " is out of range")

def fromOrdinal (make : Date → Value) (v : Value) : Run Value := do
  let n ← smallInt v
  if n < 1 then valueError "ordinal must be >= 1"
  return make (← dayWithNumber n)

/-- The day in a week of a year; the weekdays count from one. -/
def fromWeek (args : List (Option Value)) : Run Date := do
  let part (place : Nat) : Run Int := do
    let n ← index (argument args place)
    if n ≥ 2 ^ 31 || n < -(2 ^ 31) then valueError "ISO calendar component out of range"
    return n
  let year ← part 0
  let week ← part 1
  let weekday ← part 2
  if year < 1 || year > 9999 then valueError ("Year is out of range: " ++ Text.ofInt year)
  let start := Date.firstMonday year.toNat
  let isLast : Bool := week == 53 && start + 52 * 7 < Date.firstMonday (year.toNat + 1)
  if !(1 ≤ week && week ≤ 52 || isLast) then valueError ("Invalid week: " ++ Text.ofInt week)
  if weekday < 1 || weekday > 7 then valueError ("Invalid day: " ++ Text.ofInt weekday ++ " (range is [1, 7])")
  dayWithNumber (start + (week - 1) * 7 + weekday - 1)

/-- The microseconds of a number of seconds, a broken one taken to the nearest. -/
def secondsToMicros (v : Value) : Run Int := do
  let bounded (seconds micros : Int) : Run Int :=
    if seconds ≥ 2 ^ 63 || seconds < -(2 ^ 63) then raise .overflowError "timestamp out of range for platform time_t"
    else return seconds * 1000000 + micros
  match v with
  | .float x =>
    if x.isNaN then valueError "Invalid value NaN (not a number)"
    if x.isInfinite then raise .overflowError "timestamp out of range for platform time_t"
    let whole := x.truncate
    let rest := (x.sub (Binary64.ofInt whole)).mul (Binary64.ofInt 1000000)
    bounded whole rest.roundInt
  | _ => do bounded (← index v) 0

/-- The moment so many microseconds after the beginning of 1970, by universal time. -/
def fromEpoch (micros : Int) (offset : Option Duration) : Run Moment := do
  let total := micros + (offset.getD ⟨0⟩).micros
  let day ← dayWithNumber (total.fdiv Duration.microsPerDay + 719163)
  return ⟨day, ClockTime.ofMicros (total.fmod Duration.microsPerDay).toNat offset⟩

/-- Refuses to read a moment by a pattern, after a look at the arguments. -/
def readPattern (args : List (Option Value)) : Run Value := do
  for place in [0, 1] do
    match argument args place with
    | .text _ => pure ()
    | v => refuseArgument ("strptime() argument " ++ Text.ofNat (place + 1) ++ " must be str") v
  refuseImport

/-- A day and a time of day put together. -/
def combined (args : List (Option Value)) : Run Value := do
  let day ← match argument args 0 with
    | .date d => pure d
    | .moment m => pure m.date
    | v => refuseArgument "combine() argument 1 must be datetime.date" v
  match argument args 1 with
  | .clock t => return .moment ⟨day, { t with offset := ← zoneOf (given? args 2) t.offset }⟩
  | v => refuseArgument "combine() argument 2 must be datetime.time" v

end Run

/-- The other ways to make values of the calendar, by the type that has them. -/
def calendarMakers : List (TypeName × Method Unit) := [
  (.date, ⟨"fromisoformat", .single, fun _ _ args => fromIso Date.readIso?
    (fun d => return .date (← existingDate d)) (argument args 0)⟩),
  (.moment, ⟨"fromisoformat", .single, fun _ _ args => fromIso Moment.readIso?
    (fun m => do
      checkOffset m.clock.offset
      return .moment ⟨← existingDate m.date, ← existingClock m.clock⟩) (argument args 0)⟩),
  (.clock, ⟨"fromisoformat", .single, fun _ _ args => fromIso ClockTime.readIso?
    (fun t => do
      checkOffset t.offset
      return .clock (← existingClock t)) (argument args 0)⟩),
  (.date, ⟨"fromordinal", .exactly 1, fun _ _ args => fromOrdinal .date (argument args 0)⟩),
  (.moment, ⟨"fromordinal", .exactly 1, fun _ _ args =>
    fromOrdinal (fun d => .moment ⟨d, midnight⟩) (argument args 0)⟩),
  (.date, ⟨"fromisocalendar", .checked .wholeNumber ⟨["year", "week", "day"], 3, 0, 3⟩, fun _ _ args => do
    return .date (← fromWeek args)⟩),
  (.moment, ⟨"fromisocalendar", .checked .wholeNumber ⟨["year", "week", "day"], 3, 0, 3⟩, fun _ _ args => do
    return .moment ⟨← fromWeek args, midnight⟩⟩),
  (.date, ⟨"fromtimestamp", .single, fun _ _ args => do
    return .date (← fromEpoch (← secondsToMicros (argument args 0)) none).date⟩),
  (.moment, ⟨"fromtimestamp", .named ⟨["timestamp", "tz"], 1, 0, 2⟩, fun _ _ args => do
    let offset ← zoneOf (given? args 1) none
    return .moment (← fromEpoch (← secondsToMicros (argument args 0)) offset)⟩),
  (.moment, ⟨"utcfromtimestamp", .exactly 1, fun _ _ args => do
    return .moment (← fromEpoch (← secondsToMicros (argument args 0)) none)⟩),
  (.moment, ⟨"strptime", .exactly 2, fun _ _ args => readPattern args⟩),
  (.moment, ⟨"combine", .checked .day ⟨["date", "time", "tzinfo"], 2, 0, 3⟩, fun _ _ args => combined args⟩)]

end PhaseScript.Machine
