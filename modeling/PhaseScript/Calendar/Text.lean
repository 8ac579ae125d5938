import PhaseScript.Calendar.Basic
import PhaseScript.Text.Basic
import PhaseScript.Number.FloatText
/-
The texts of days, times, moments and durations, and reading the standard ones back.
-/
set_option autoImplicit false

namespace PhaseScript

namespace Date

/-- The standard text of a day. -/
def isoText (d : Date) : Text :=
  Text.digits 4 d.year ++ "-" ++ Text.digits 2 d.month ++ "-" ++ Text.digits 2 d.day

def weekdayNames : List String :=
  ["Monday", "Tuesday", "Wednesday", "Thursday", "Friday", "Saturday", "Sunday"]

def monthNames : List String :=
  ["January", "February", "March", "April", "May", "June", "July", "August", "September", "October",
    "November", "December"]

def weekdayName (d : Date) : Text := weekdayNames.getD d.weekday ""

def monthName (d : Date) : Text := monthNames.getD (d.month - 1) ""

end Date

namespace Duration

/-- The text of a duration: its days, if there are any, and the time after them. -/
def text (d : Duration) : Text :=
  let seconds := d.seconds.toNat
  let clock := Text.ofNat (seconds / 3600) ++ ":" ++ Text.digits 2 (seconds / 60 % 60) ++ ":"
    ++ Text.digits 2 (seconds % 60)
  let clock := if d.microseconds == 0 then clock else clock ++ "." ++ Text.digits 6 d.microseconds.toNat
  if d.days == 0 then clock
  else Text.ofInt d.days ++ (if d.days.natAbs == 1 then " day, " else " days, ") ++ clock

/-- The seconds of a duration as a number. -/
def totalSeconds (d : Duration) : Binary64 := Binary64.ofRatio (d.micros < 0) d.micros.natAbs 1000000

/-- The parts of a duration that are not zero, by name. -/
def constructorText (d : Duration) : Text :=
  let part := fun (name : String) (n : Int) =>
    if n == 0 then [] else [Text.ofString name ++ "=" ++ Text.ofInt n]
  let parts := part "days" d.days ++ part "seconds" d.seconds ++ part "microseconds" d.microseconds
  "datetime.timedelta(" ++ (if parts.isEmpty then ("0" : Text) else Text.join ", " parts) ++ ")"

end Duration

/-- A distance from universal time: sign, hours and minutes, and smaller parts where there are any. -/
def offsetText (offset : Duration) (separator : Text) : Text :=
  let micros := offset.micros.natAbs
  let seconds := micros / 1000000
  let text := (if offset.micros < 0 then ("-" : Text) else "+") ++ Text.digits 2 (seconds / 3600) ++ separator
    ++ Text.digits 2 (seconds / 60 % 60)
  let text := if seconds % 60 == 0 && micros % 1000000 == 0 then text
    else text ++ separator ++ Text.digits 2 (seconds % 60)
  if micros % 1000000 == 0 then text else text ++ "." ++ Text.digits 6 (micros % 1000000)

/-- The name of the zone at a distance from universal time. -/
def zoneName (offset : Duration) : Text :=
  if offset.micros == 0 then "UTC" else "UTC" ++ offsetText offset ":"

/-- The constructor text of the zone at a distance from universal time. -/
def zoneConstructor (offset : Duration) : Text :=
  if offset.micros == 0 then "datetime.timezone.utc"
  else "datetime.timezone(" ++ offset.constructorText ++ ")"

namespace ClockTime

/-- The standard text of a time of day. -/
def isoText (t : ClockTime) : Text :=
  Text.digits 2 t.hour ++ ":" ++ Text.digits 2 t.minute ++ ":" ++ Text.digits 2 t.second
    ++ (if t.micro == 0 then ([] : Text) else "." ++ Text.digits 6 t.micro)
    ++ (match t.offset with | none => [] | some offset => offsetText offset ":")

/-- The smaller parts that a constructor text needs. -/
def constructorTail (t : ClockTime) : List Text :=
  (if t.micro != 0 then [Text.ofNat t.second, Text.ofNat t.micro]
    else if t.second != 0 then [Text.ofNat t.second] else [])
    ++ (match t.offset with | none => [] | some offset => ["tzinfo=" ++ zoneConstructor offset])

def constructorText (t : ClockTime) : Text :=
  "datetime.time(" ++ Text.join ", " ([Text.ofNat t.hour, Text.ofNat t.minute] ++ t.constructorTail) ++ ")"

end ClockTime

namespace Date

def constructorText (d : Date) : Text :=
  "datetime.date(" ++ Text.join ", " [Text.ofNat d.year, Text.ofNat d.month, Text.ofNat d.day] ++ ")"

end Date

namespace Moment

/-- The standard text of a moment. -/
def isoText (m : Moment) (separator : Text) : Text := m.date.isoText ++ separator ++ m.clock.isoText

def constructorText (m : Moment) : Text :=
  "datetime.datetime(" ++ Text.join ", "
    ([Text.ofNat m.date.year, Text.ofNat m.date.month, Text.ofNat m.date.day, Text.ofNat m.clock.hour,
      Text.ofNat m.clock.minute] ++ m.clock.constructorTail) ++ ")"

/-- A moment in words: weekday, month, day, time of day and year. -/
def wordText (m : Moment) : Text :=
  m.date.weekdayName.take 3 ++ " " ++ m.date.monthName.take 3 ++ " " ++ Text.padLeft 2 ' ' (Text.ofNat m.date.day)
    ++ " " ++ Text.digits 2 m.clock.hour ++ ":" ++ Text.digits 2 m.clock.minute ++ ":" ++ Text.digits 2 m.clock.second
    ++ " " ++ Text.digits 4 m.date.year

end Moment

/-- A number of exactly so many ASCII digits at the front of a text. -/
def fixedDigits? (count : Nat) (t : Text) : Option (Nat × Text) :=
  let digits := t.take count
  if digits.length == count && digits.all Point.isAsciiDigit then
    some (digits.foldl (fun n p => n * 10 + (p.val - 48)) 0, t.drop count)
  else none

/-- The day of a text of ten points. -/
def Date.ofDashed? (t : Text) : Option (Date × Text) := do
  let (year, t) ← fixedDigits? 4 t
  let p :: t := t | none
  if !p.is '-' then none
  else
    let (month, t) ← fixedDigits? 2 t
    let p :: t := t | none
    if !p.is '-' then none
    else
      let (day, t) ← fixedDigits? 2 t
      some (⟨year, month, day⟩, t)

/-- The day that lies in a week of a year; weekdays count from one. -/
def Date.ofWeek? (year week weekday : Nat) : Option Date :=
  if year == 0 || week == 0 || week > 53 || weekday == 0 || weekday > 7 then none
  else
    let day := Date.firstMonday year + Int.ofNat ((week - 1) * 7 + weekday - 1)
    if week == 53 && day - Int.ofNat (weekday - 1) ≥ Date.firstMonday (year + 1) then none
    else if 1 ≤ day then some (Date.ofOrdinal day.toNat) else none

/-- Reads the standard texts of a day: with dashes, without, or by week. The calendar need not have the day. -/
def Date.readIso? (t : Text) : Option Date :=
  match t.length with
  | 10 => match Date.ofDashed? t with
    | some (d, []) => some d
    | _ => match fixedDigits? 4 t with
      | some (year, a :: b :: rest) =>
        if a.is '-' && b.is 'W' then
          match fixedDigits? 2 rest with
          | some (week, c :: rest) =>
            if c.is '-' then match fixedDigits? 1 rest with
              | some (weekday, []) => Date.ofWeek? year week weekday
              | _ => none
            else none
          | _ => none
        else none
      | _ => none
  | 8 => match fixedDigits? 4 t with
    | some (year, p :: rest) =>
      if p.is 'W' then
        match fixedDigits? 3 rest with
        | some (n, []) => Date.ofWeek? year (n / 10) (n % 10)
        | _ => none
      else if p.is '-' then
        match rest with
        | q :: rest =>
          if q.is 'W' then match fixedDigits? 2 rest with
            | some (week, []) => Date.ofWeek? year week 1
            | _ => none
          else none
        | [] => none
      else match fixedDigits? 4 (p :: rest) with
        | some (n, []) => some ⟨year, n / 100, n % 100⟩
        | _ => none
    | _ => none
  | 7 => match fixedDigits? 4 t with
    | some (year, p :: rest) =>
      if p.is 'W' then match fixedDigits? 2 rest with
        | some (week, []) => Date.ofWeek? year week 1
        | _ => none
      else none
    | _ => none
  | _ => none

/-- The day of a standard text, where the calendar has it. -/
def Date.parseIso? (t : Text) : Option Date := (Date.readIso? t).filter Date.isValid

/-- Hours, minutes, seconds and a fraction, the smaller ones left out at will, with colons or without. -/
def parseClock? (t : Text) : Option (Nat × Nat × Nat × Nat) := do
  let (hour, t) ← fixedDigits? 2 t
  match t with
  | [] => some (hour, 0, 0, 0)
  | p :: rest =>
    let colons := p.is ':'
    let (minute, t) ← fixedDigits? 2 (if colons then rest else t)
    match t with
    | [] => some (hour, minute, 0, 0)
    | p :: rest =>
      if colons && !p.is ':' then none
      else
        let (second, t) ← fixedDigits? 2 (if colons then rest else t)
        match t with
        | [] => some (hour, minute, second, 0)
        | p :: rest =>
          -- Without colons the digits of a fraction may follow at once.
          let rest := if p.is '.' || p.is ',' then rest else if colons then [] else t
          if rest.isEmpty || !rest.all Point.isAsciiDigit then none
          else
            let digits := rest.take 6
            let n := digits.foldl (fun n p => n * 10 + (p.val - 48)) 0
            some (hour, minute, second, n * 10 ^ (6 - digits.length))

/-- Reads the standard texts of a time of day. A day need not have the time, nor a zone the distance. -/
def ClockTime.readIso? (t : Text) : Option ClockTime := do
  let t := match t with
    | p :: rest => if p.is 'T' then rest else t
    | [] => t
  let clock := t.takeWhile fun p => !(p.is '+' || p.is '-' || p.is 'Z')
  let zone := t.drop clock.length
  let (hour, minute, second, micro) ← parseClock? clock
  let offset ← match zone with
    | [] => some none
    | p :: rest =>
      if p.is 'Z' then (if rest.isEmpty then some (some ⟨0⟩) else none)
      else do
        let (h, m, s, u) ← parseClock? rest
        let micros : Int := Int.ofNat (((h * 60 + m) * 60 + s) * 1000000 + u)
        some (some (Duration.mk (if p.is '-' then -micros else micros)))
  some ⟨hour, minute, second, micro, offset⟩

/-- The time of day of a standard text, where a day has it. -/
def ClockTime.parseIso? (t : Text) : Option ClockTime := (ClockTime.readIso? t).filter ClockTime.isValid

/-- Whether a text has this point at a place. -/
def hasPointAt (t : Text) (place : Nat) (c : Char) : Bool :=
  match t[place]? with
  | some p => p.is c
  | none => false

/-- How many points of the text of a moment its day takes: as many as its form has, with dashes, by week, or digits
alone. -/
def dayLength (t : Text) : Nat :=
  if hasPointAt t 4 '-' then (if hasPointAt t 5 'W' && !(hasPointAt t 8 '-' && t.length > 9) then 8 else 10)
  else if hasPointAt t 4 'W' && ((t.drop 7).takeWhile Point.isAsciiDigit).length % 2 == 0 then 7
  else 8

/-- Reads the standard texts of a moment: a day and, after any separator, a time of day, neither of which need exist. -/
def Moment.readIso? (t : Text) : Option Moment := do
  if t.length < 7 then none
  else
    let size := dayLength t
    let day ← Date.readIso? (t.take size)
    match t.drop size with
    | [] => some ⟨day, ⟨0, 0, 0, 0, none⟩⟩
    | _ :: rest =>
      let clock ← ClockTime.readIso? rest
      some ⟨day, clock⟩

/-- The moment of a standard text, where there is one. -/
def Moment.parseIso? (t : Text) : Option Moment :=
  (Moment.readIso? t).filter fun m => m.date.isValid && m.clock.isValid

end PhaseScript
