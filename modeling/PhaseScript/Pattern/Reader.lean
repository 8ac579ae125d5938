import PhaseScript.Pattern.Basic
import PhaseScript.Text.CharacterName
import PhaseScript.Text.Quoted
import PhaseScript.Number.Reading
/-
Reading patterns. A pattern is read character by character, a backslash together with what follows it; the first
fault ends the reading.
-/
set_option autoImplicit false

namespace PhaseScript.Pattern

/-- What has been read so far. -/
structure Reading where
  whole : Text
  /-- Whether the pattern is for texts; one for octets knows octets alone. -/
  isText : Bool
  /-- What is left, from the next character on. -/
  rest : Text
  /-- The flags that hold for the whole pattern. -/
  flags : Flags
  /-- The widths of the groups, the first group first; an open group has none yet. -/
  groups : Array (Option Width)
  names : List (Text × Nat)
  /-- How many groups there were before the look behind that is being read. -/
  behind : Option Nat
  /-- Groups that were asked for by number before they were known, and where. -/
  asked : List (Nat × Nat)
  deriving Inhabited

/-- The flags that parts are read under; for octets only the sorts of ASCII hold. -/
def Reading.heldFlags (r : Reading) : Flags := if r.isText then r.flags else .ascii :: r.flags

abbrev Reader := EStateM Fault Reading

namespace Reader

/-- The place of the next character. -/
def place : Reader Nat := do
  let r ← get
  return r.whole.length - r.rest.length

def failAt {α : Type} (words : Text) (place : Nat) : Reader α := do
  throw (.at words place (← get).whole)

/-- Fails so many characters before the next one. -/
def fail {α : Type} (words : Text) (back : Nat) : Reader α := do failAt words ((← place) - back)

/-- The next character, with a backslash what follows it. -/
def peek : Reader (Option Text) := do
  match (← get).rest with
  | [] => return none
  | [p] => return some [p]
  | p :: q :: _ => return some (if p.is '\\' then [p, q] else [p])

/-- Refuses a backslash at the very end. -/
def checkEnd : Reader Unit := do
  match (← get).rest with
  | [p] => if p.is '\\' then failAt "bad escape (end of pattern)" (← place)
  | _ => return ()

/-- Goes past the next character. -/
def skip : Reader Unit := do
  match ← peek with
  | none => return ()
  | some token =>
    modify fun r => { r with rest := r.rest.drop token.length }
    checkEnd

/-- Takes the next character. -/
def take : Reader (Option Text) := do
  let token ← peek
  skip
  return token

/-- Takes the next character if it is this one. -/
def accept (c : Char) : Reader Bool := do
  match ← peek with
  | some [p] =>
    if p.is c then
      skip
      return true
    else return false
  | _ => return false

/-- Takes characters of a sort, at most so many. -/
def takeWhile (fits : Point → Bool) : Nat → Reader Text
  | 0 => return []
  | n + 1 => do
    match ← peek with
    | some [p] =>
      if fits p then
        skip
        return p :: (← takeWhile fits n)
      else return []
    | _ => return []

/-- Takes everything up to a closing character, which must not come at once. The fuel is the length of what is left. -/
def takeUntil (closing : Char) (what : Text) : Nat → Text → Reader Text
  | 0, found => return found
  | fuel + 1, found => do
    match ← take with
    | none =>
      if found.isEmpty then fail ("missing " ++ what) 0
      else fail ("missing " ++ [Point.ofChar closing] ++ ", unterminated name") found.length
    | some token =>
      if token == [Point.ofChar closing] then
        if found.isEmpty then fail ("missing " ++ what) 1 else return found
      else takeUntil closing what fuel (found ++ token)

def untilClosing (closing : Char) (what : Text) : Reader Text := do
  takeUntil closing what ((← get).rest.length + 2) []

end Reader

open Reader (fail failAt peek skip take accept place)

def isOctal (p : Point) : Bool := 48 ≤ p.val && p.val ≤ 55

def isHex (p : Point) : Bool := (p.isAsciiDigit || (97 ≤ p.val && p.val ≤ 102) || (65 ≤ p.val && p.val ≤ 70))

def digitsValue (base : Nat) (t : Text) : Nat := t.foldl (fun n p => n * base + (p.asciiDigit?).getD 0) 0

/-- The characters that a letter after a backslash stands for. -/
def controlPoint? (c : Point) : Option Point :=
  let pairs : List (Char × Nat) := [('a', 7), ('b', 8), ('f', 12), ('n', 10), ('r', 13), ('t', 9), ('v', 11), ('\\', 92)]
  (pairs.find? fun entry => c.is entry.1).map fun entry => Point.ofNat entry.2

/-- The sort of characters that a letter after a backslash stands for. -/
def sortOf? (c : Point) : Option SetItem :=
  let sorts : List (Char × SetItem) := [('d', .sort .digit false), ('D', .sort .digit true), ('s', .sort .space false),
    ('S', .sort .space true), ('w', .sort .word false), ('W', .sort .word true)]
  (sorts.find? fun entry => c.is entry.1).map (·.2)

/-- Reads so many hexadecimal digits after a backslash and a letter. -/
def hexEscape (start : Nat) (token : Text) (count : Nat) : Reader Point := do
  let digits ← Reader.takeWhile isHex count
  let escape := token ++ digits
  if digits.length != count then failAt ("incomplete escape " ++ escape) start
  let n := digitsValue 16 digits
  if n > 0x10FFFF then failAt ("bad escape " ++ escape) start
  return Point.ofNat n

/-- Reads the name of a character. -/
def namedEscape (start : Nat) : Reader Point := do
  if !(← accept '\x7b') then fail "missing \x7b" 0
  let name ← Reader.untilClosing '\x7d' "character name"
  match CharacterName.pointOf? name with
  | some p => return p
  | none => failAt ("undefined character name " ++ Text.quoted name) start

/-- Escapes that stand for one character both inside and outside of sets. -/
def commonEscape? (start : Nat) (token : Text) (c : Point) : Reader (Option Point) := do
  if c.is 'x' then return some (← hexEscape start token 2)
  else if !(← get).isText then return none
  else if c.is 'u' then return some (← hexEscape start token 4)
  else if c.is 'U' then return some (← hexEscape start token 8)
  else if c.is 'N' then return some (← namedEscape start)
  else return none

/-- Refuses a number of octal digits that is no character of the first page. -/
def octalPoint (start : Nat) (escape : Text) : Reader Point := do
  let n := digitsValue 8 (escape.drop 1)
  if n > 0o377 then
    failAt ("octal escape value " ++ escape ++ " outside of range 0-0o377") start
  return Point.ofNat n

/-- Escapes of anything but letters and digits stand for the character itself. -/
def plainEscape (start : Nat) (token : Text) (c : Point) : Reader Point := do
  if c.isAsciiLetter || c.isAsciiDigit then failAt ("bad escape " ++ token) start
  return c

/-- A backslash inside a set. -/
def setEscape (token : Text) : Reader SetItem := do
  let start := (← place) - token.length
  let c := token.getD 1 default
  match controlPoint? c, sortOf? c with
  | some p, _ => return .point p
  | none, some item => return item
  | none, none =>
    match ← commonEscape? start token c with
    | some p => return .point p
    | none =>
      if isOctal c then
        let more ← Reader.takeWhile isOctal 2
        return .point (← octalPoint start (token ++ more))
      else return .point (← plainEscape start token c)

/-- How characters are compared under flags. -/
def comparing (flags : Flags) : Comparing :=
  ⟨flags.contains .ignoreCase, flags.contains .ascii || flags.contains .locale⟩

/-- Refuses a reference to a group that is open, or that a look behind has made itself. -/
def checkReference (group : Nat) (words : Text) (back : Nat) : Reader Unit := do
  let isClosed (r : Reading) : Bool := ((r.groups[group - 1]?).join).isSome
  if !isClosed (← get) then fail words back

def checkBehind (group : Nat) : Reader Unit := do
  let r ← get
  match r.behind with
  | none => return ()
  | some count =>
    if ((r.groups[group - 1]?).join).isNone then fail "cannot refer to an open group" 0
    if group > count then fail "cannot refer to group defined in the same lookbehind subpattern" 0

/-- A backslash and a digit other than zero: a character in octal digits, or a group. -/
def digitEscape (flags : Flags) (start : Nat) (token : Text) : Reader Node := do
  let second ← Reader.takeWhile Point.isAsciiDigit 1
  let escape := token ++ second
  let isOctalPair := escape.length == 3 && (escape.drop 1).all isOctal
  let third ← if isOctalPair then Reader.takeWhile isOctal 1 else pure []
  if !third.isEmpty then return .point (comparing flags) (← octalPoint start (escape ++ third))
  let group := digitsValue 10 (escape.drop 1)
  if group ≤ (← get).groups.size then
    checkReference group "cannot refer to an open group" escape.length
    checkBehind group
    return .reference (comparing flags) group
  else fail ("invalid group reference " ++ Text.ofNat group) (escape.length - 1)

/-- A backslash outside of sets. -/
def escapeNode (flags : Flags) (token : Text) : Reader Node := do
  let start := (← place) - token.length
  let c := token.getD 1 default
  let how := comparing flags
  if c.is 'A' then return .anchor .textStart
  else if c.is 'Z' then return .anchor .textEnd
  else if c.is 'b' then return .anchor (.boundary how.ascii false)
  else if c.is 'B' then return .anchor (.boundary how.ascii true)
  else match sortOf? c, controlPoint? c with
    | some item, _ => return .set how false [item]
    | none, some p => return .point how p
    | none, none =>
      match ← commonEscape? start token c with
      | some p => return .point how p
      | none =>
        if c.is '0' then
          let more ← Reader.takeWhile isOctal 2
          return .point how (Point.ofNat (digitsValue 8 (token.drop 1 ++ more)))
        else if c.isAsciiDigit then digitEscape flags start token
        else return .point how (← plainEscape start token c)

/-- One member of a set, a character or an escape. -/
def setMember (token : Text) : Reader SetItem :=
  match token with
  | [p] => return .point p
  | _ => setEscape token

/-- Reads the members of a set up to the bracket that closes it; one that comes at once is a member. The fuel is the
length of what is left. -/
def setItems (here : Nat) : Nat → List SetItem → Reader (List SetItem)
  | 0, found => return found.reverse
  | fuel + 1, found => do
    match ← take with
    | none => failAt "unterminated character set" here
    | some token =>
      if token.is "]" && !found.isEmpty then return found.reverse
      let first ← setMember token
      if !(← accept '-') then setItems here fuel (first :: found)
      else match ← take with
        | none => failAt "unterminated character set" here
        | some second =>
          if second.is "]" then return (.point (Point.ofChar '-') :: first :: found).reverse
          let last ← setMember second
          let refuse : Reader (List SetItem) :=
            fail ("bad character range " ++ token ++ "-" ++ second) (token.length + 1 + second.length)
          match first, last with
          | .point low, .point high =>
            if high.val < low.val then refuse else setItems here fuel (.range low high :: found)
          | _, _ => refuse

/-- A set, after its opening bracket. -/
def setNode (flags : Flags) : Reader Node := do
  let here := (← place) - 1
  let isNegated ← accept '^'
  let items ← setItems here ((← get).rest.length + 2) []
  return .ofSet (comparing flags) isNegated items

/-- How many repetitions a mark asks for, nothing if it is an ordinary brace. -/
def repetitions? (mark : Point) : Reader (Option (Nat × Option Nat)) := do
  if mark.is '?' then return some (0, some 1)
  if mark.is '*' then return some (0, none)
  if mark.is '+' then return some (1, none)
  let here ← place
  let before := (← get).rest
  match ← peek with
  | some [p] => if p.is '\x7d' then return none
  | _ => pure ()
  let count := before.length
  let low ← Reader.takeWhile Point.isAsciiDigit count
  let hasHigh ← accept ','
  let high ← if hasHigh then Reader.takeWhile Point.isAsciiDigit count else pure low
  if !(← accept '\x7d') then
    modify fun r => { r with rest := before }
    return none
  let bound (digits : Text) : Reader (Option Nat) := do
    if digits.isEmpty then return none
    if digits.length > 4300 then throw (.tooManyDigits digits.length)
    let n := digitsValue 10 digits
    if n ≥ 4294967295 then throw .tooManyRepetitions
    return some n
  let least := (← bound low).getD 0
  let most ← bound high
  match most with
  | some n => if n < least then failAt "min repeat greater than max repeat" here
  | none => pure ()
  return some (least, most)

/-- Repeats the last part read. The parts stand the latest first. -/
def repeatLast (mark : Nat) (least : Nat) (most : Option Nat) : List Node → Reader (List Node)
  | [] | .anchor _ :: _ => failAt "nothing to repeat" mark
  | .repeated _ _ _ _ :: _ => failAt "multiple repeat" mark
  | node :: before => do
    let body := withoutBrackets [node]
    if ← accept '?' then return .repeated .lazy least most body :: before
    else if ← accept '+' then return .repeated .possessive least most body :: before
    else return .repeated .greedy least most body :: before

/-- The flag that a letter stands for. -/
def flagOf? (token : Text) : Option Flag :=
  let letters : List (String × Flag) := [("i", .ignoreCase), ("L", .locale), ("m", .multiline), ("s", .dotAll),
    ("x", .verbose), ("a", .ascii), ("t", .template), ("u", .unicode)]
  (letters.find? fun entry => token.is entry.1).map (·.2)

def isTypeFlag (f : Flag) : Bool := f == .ascii || f == .locale || f == .unicode

/-- What is said of a token that stands where a flag is due. -/
def refuseFlag {α : Type} (token : Text) (otherwise : Text) : Reader α :=
  fail (if !token.isEmpty && token.all Point.isAlpha then "unknown flag" else otherwise) token.length

/-- Reads the flags to turn on, from a first one on; gives the token that ends them. -/
def flagsOn : Nat → Flag → Flags → Reader (Flags × Text)
  | 0, _, found => return (found, ")")
  | fuel + 1, flag, found => do
    let isText := (← get).isText
    if flag == .locale && isText then fail "bad inline flags: cannot use 'L' flag with a str pattern" 0
    if flag == .unicode && !isText then fail "bad inline flags: cannot use 'u' flag with a bytes pattern" 0
    let found := if found.contains flag then found else flag :: found
    if isTypeFlag flag && (found.filter isTypeFlag).length != 1 then
      fail "bad inline flags: flags 'a', 'u' and 'L' are incompatible" 0
    match ← take with
    | none => fail "missing -, : or )" 0
    | some token =>
      if token.is ")" || token.is "-" || token.is ":" then return (found, token)
      match flagOf? token with
      | some next => flagsOn fuel next found
      | none => refuseFlag token "missing -, : or )"

/-- Reads the flags to turn off, from a first one on, up to a colon. -/
def flagsOff : Nat → Flag → Flags → Reader Flags
  | 0, _, found => return found
  | fuel + 1, flag, found => do
    if isTypeFlag flag then fail "bad inline flags: cannot turn off flags 'a', 'u' and 'L'" 0
    let found := flag :: found
    match ← take with
    | none => fail "missing :" 0
    | some token =>
      if token.is ":" then return found
      match flagOf? token with
      | some next => flagsOff fuel next found
      | none => refuseFlag token "missing :"

/-- Reads flags after a first token: nothing if they are for the whole pattern, else those to turn on and off. -/
def readFlags (token : Text) : Reader (Option (Flags × Flags)) := do
  let fuel := (← get).rest.length + 2
  let (on, ending) ← match flagOf? token with
    | some flag => flagsOn fuel flag []
    | none => pure ([], token)
  if ending.is ")" then
    modify fun r => { r with flags := on ++ r.flags }
    return none
  if on.contains .template then fail "bad inline flags: cannot turn on global flag" 1
  let off ← if ending.is "-" then do
      match ← take with
      | none => fail "missing flag" 0
      | some token => match flagOf? token with
        | some flag => flagsOff fuel flag []
        | none => refuseFlag token "missing flag"
    else pure []
  if off.contains .template then fail "bad inline flags: cannot turn off global flag" 1
  if on.any off.contains then fail "bad inline flags: flag turned on and off" 1
  return some (on, off)

/-- Flags with others turned on and off. -/
def changedFlags (flags on off : Flags) : Flags :=
  let kept := if on.any isTypeFlag then flags.filter fun f => !isTypeFlag f else flags
  (on ++ kept).filter fun f => !off.contains f

/-- What surrounds the part that is being read. -/
structure Setting where
  flags : Flags
  isVerbose : Bool
  isTop : Bool
  /-- Whether this is the first alternative of the whole pattern. -/
  isFirst : Bool

/-- How the parts inside brackets are read. -/
structure Inner where
  alternatives : Setting → Reader (List (List Node))
  row : Setting → Reader (List Node)

def Setting.nested (s : Setting) : Setting := { s with isTop := false, isFirst := false }

/-- Demands the bracket that closes what was opened at a place. -/
def close (start : Nat) : Reader Unit := do
  if !(← accept ')') then failAt "missing ), unterminated subpattern" start

/-- Refuses what is no name for a group. -/
def checkName (name : Text) : Reader Unit := do
  if !Text.isName name then fail ("bad character in group name " ++ Text.quoted name) (name.length + 1)

/-- The number of a group that goes by a name. -/
def groupNamed (name : Text) : Reader Nat := do
  match ((← get).names.find? fun entry => entry.1 == name) with
  | some (_, group) => return group
  | none => fail ("unknown group name " ++ Text.quoted name) (name.length + 1)

/-- The widths of groups that are closed. -/
def groupWidths (r : Reading) (group : Nat) : Width := ((r.groups[group - 1]?).join).getD ⟨0, 0⟩

/-- Opens a group. -/
def openGroup (name : Option Text) : Reader Nat := do
  let r ← get
  let group := r.groups.size + 1
  match name with
  | none => set { r with groups := r.groups.push none }
  | some name =>
    match r.names.find? fun entry => entry.1 == name with
    | some (_, other) =>
      fail ("redefinition of group name " ++ Text.quoted name ++ " as group " ++ Text.ofNat group ++ "; was group "
        ++ Text.ofNat other) (name.length + 1)
    | none => set { r with groups := r.groups.push none, names := (name, group) :: r.names }
  return group

/-- A group that keeps what it matches. -/
def captured (inner : Inner) (s : Setting) (start : Nat) (name : Option Text) : Reader Node := do
  let group ← openGroup name
  let body := asRow (← inner.alternatives s.nested)
  close start
  modify fun r => { r with groups := r.groups.setIfInBounds (group - 1) (some (rowWidth (groupWidths r) body)) }
  return .group (some group) body

/-- A look ahead or behind. -/
def lookNode (inner : Inner) (s : Setting) (start : Nat) (isBehind isNegated : Bool) : Reader Node := do
  let before := (← get).behind
  if isBehind && before.isNone then modify fun r => { r with behind := some r.groups.size }
  let body := asRow (← inner.alternatives s.nested)
  if isBehind then modify fun r => { r with behind := before }
  close start
  let width := rowWidth (groupWidths (← get)) body
  -- A width that is not fixed is told apart by one that no text has.
  let back := if width.least == width.most then width.least else boundless + 1
  return .look (if isBehind then some back else none) isNegated body

/-- The group that a condition asks for. -/
def conditionGroup : Reader Nat := do
  let name ← Reader.untilClosing ')' "group name"
  if Text.isName name then groupNamed name
  else
    let refuse : Reader Nat := fail ("bad character in group name " ++ Text.quoted name) (name.length + 1)
    match Text.readInt 10 name with
    | .error _ => refuse
    | .ok n =>
      if n < 0 then refuse
      else if n == 0 then fail "bad group number" (name.length + 1)
      else if n ≥ 1073741823 then fail ("invalid group reference " ++ Text.ofInt n) (name.length + 1)
      else do
        let group := n.toNat
        let at_ := (← place) - name.length - 1
        modify fun r => if r.asked.any fun entry => entry.1 == group then r
          else { r with asked := r.asked ++ [(group, at_)] }
        return group

/-- A part that depends on whether a group has matched. -/
def conditional (inner : Inner) (s : Setting) (start : Nat) : Reader Node := do
  let group ← conditionGroup
  checkBehind group
  let yes ← inner.row s.nested
  let no ← if ← accept '|' then do
      let no ← inner.row s.nested
      match ← peek with
      | some [p] => if p.is '|' then fail "conditional backref with more than two branches" 0
      | _ => pure ()
      pure no
    else pure []
  close start
  return .ifGroup group yes no

/-- Passes over a remark in brackets. The fuel is the length of what is left. -/
def skipRemark (start : Nat) : Nat → Reader Unit
  | 0 => return ()
  | fuel + 1 => do
    match ← take with
    | none => failAt "missing ), unterminated comment" start
    | some token => if token.is ")" then return () else skipRemark start fuel

/-- Named groups and references to them. -/
def namedGroup (inner : Inner) (s : Setting) (start : Nat) : Reader Node := do
  if ← accept '<' then
    let name ← Reader.untilClosing '>' "group name"
    checkName name
    captured inner s start (some name)
  else if ← accept '=' then
    let name ← Reader.untilClosing ')' "group name"
    checkName name
    let group ← groupNamed name
    checkReference group "cannot refer to an open group" (name.length + 1)
    checkBehind group
    return .reference (comparing s.flags) group
  else match ← take with
    | none => fail "unexpected end of pattern" 0
    | some token => fail ("unknown extension ?P" ++ token) (token.length + 2)

/-- What stands between brackets: parts for the row, or new flags for the rest of it. -/
inductive Bracketed where
  | parts (nodes : List Node)
  | newFlags

/-- A group with changed flags. -/
def flagGroup (inner : Inner) (s : Setting) (start : Nat) (on off : Flags) : Reader Node := do
  let setting : Setting := ⟨changedFlags s.flags on off,
    (s.isVerbose || on.contains .verbose) && !off.contains .verbose, false, false⟩
  let body := asRow (← inner.alternatives setting)
  close start
  return if on.isEmpty && off.isEmpty then .plain body else .group none body

/-- What follows an opening bracket and a question mark. -/
def extension (inner : Inner) (s : Setting) (start : Nat) (isRowEmpty : Bool) : Reader Bracketed := do
  match ← take with
  | none => fail "unexpected end of pattern" 0
  | some token =>
    if token.is "P" then return .parts [← namedGroup inner s start]
    else if token.is ":" then return .parts [← flagGroup inner s start [] []]
    else if token.is "#" then
      skipRemark start ((← get).rest.length + 2)
      return .parts []
    else if token.is "=" then return .parts [← lookNode inner s start false false]
    else if token.is "!" then return .parts [← lookNode inner s start false true]
    else if token.is "<" then
      match ← take with
      | none => fail "unexpected end of pattern" 0
      | some second =>
        if second.is "=" then return .parts [← lookNode inner s start true false]
        else if second.is "!" then return .parts [← lookNode inner s start true true]
        else fail ("unknown extension ?<" ++ second) (second.length + 2)
    else if token.is "(" then return .parts [← conditional inner s start]
    else if token.is ">" then
      let body := asRow (← inner.alternatives s.nested)
      close start
      return .parts [.atomic body]
    else if (flagOf? token).isSome || token.is "-" then
      match ← readFlags token with
      | some (on, off) => return .parts [← flagGroup inner s start on off]
      | none =>
        if !s.isFirst || !isRowEmpty then failAt "global flags not at the start of the expression" start
        return .newFlags
    else fail ("unknown extension ?" ++ token) (token.length + 1)

/-- Passes over a remark to the end of the line. The fuel is the length of what is left. -/
def skipLine : Nat → Reader Unit
  | 0 => return ()
  | fuel + 1 => do
    match ← take with
    | none => return ()
    | some token => if token == [Point.ofNat 10] then return () else skipLine fuel

def isRepeatMark (p : Point) : Bool := p.is '*' || p.is '+' || p.is '?' || p.is '\x7b'

def isSkippedBlank (p : Point) : Bool := p.is ' ' || (9 ≤ p.val && p.val ≤ 13)

/-- The anchors that are written as one character, under flags. -/
def anchorOf (p : Point) (flags : Flags) : Anchor :=
  let lines := flags.contains .multiline
  if p.is '^' then (if lines then .lineStart else .textStart)
  else if lines then .lineEnd else .beforeLastLineEnd

mutual

/-- Reads alternatives. The fuel bounds the depth. -/
def alternatives : Nat → Setting → Reader (List (List Node))
  | 0, _ => return [[]]
  | fuel + 1, s => do
    let first ← row fuel s []
    if ← accept '|' then
      let flags := (← get).heldFlags
      let s := if s.isTop then ⟨flags, flags.contains .verbose, true, false⟩ else { s with isFirst := false }
      return first :: (← alternatives fuel s)
    else return [first]

/-- Reads a row of parts, those read so far given the latest first. -/
def row : Nat → Setting → List Node → Reader (List Node)
  | 0, _, found => return withoutBrackets found.reverse
  | fuel + 1, s, found => do
    match ← peek with
    | none => return withoutBrackets found.reverse
    | some token =>
      if token.is "|" || token.is ")" then return withoutBrackets found.reverse
      skip
      match token with
      | [p] =>
        if s.isVerbose && isSkippedBlank p then row fuel s found
        else if s.isVerbose && p.is '#' then
          skipLine ((← get).rest.length + 2)
          row fuel s found
        else if p.is '[' then row fuel s ((← setNode s.flags) :: found)
        else if isRepeatMark p then
          let mark := (← place) - 1
          match ← repetitions? p with
          | none => row fuel s (.point (comparing s.flags) p :: found)
          | some (least, most) => row fuel s (← repeatLast mark least most found)
        else if p.is '.' then row fuel s (.any (s.flags.contains .dotAll) :: found)
        else if p.is '(' then
          let start := (← place) - 1
          let inner : Inner := ⟨fun s => alternatives fuel s, fun s => row fuel s []⟩
          if ← accept '?' then
            match ← extension inner s start found.isEmpty with
            | .parts nodes => row fuel s (nodes ++ found)
            | .newFlags =>
              let flags := (← get).heldFlags
              row fuel { s with flags, isVerbose := flags.contains .verbose } found
          else row fuel s ((← captured inner s start none) :: found)
        else if p.is '^' || p.is '$' then row fuel s (.anchor (anchorOf p s.flags) :: found)
        else row fuel s (.point (comparing s.flags) p :: found)
      | _ => row fuel s ((← escapeNode s.flags token) :: found)

end

mutual

/-- Whether every look behind knows how far back to go. -/
def Node.isFixed : Node → Bool
  | .group _ body | .plain body | .repeated _ _ _ body | .atomic body => isFixedRow body
  | .look behind _ body => behind.all (· ≤ boundless) && isFixedRow body
  | .branch options => areFixed options
  | .ifGroup _ yes no => isFixedRow yes && isFixedRow no
  | _ => true

def isFixedRow : List Node → Bool
  | [] => true
  | node :: rest => node.isFixed && isFixedRow rest

def areFixed : List (List Node) → Bool
  | [] => true
  | option :: rest => isFixedRow option && areFixed rest

end

/-- Reads a whole pattern. -/
def readWhole : Reader (List Node × Width) := do
  let r ← get
  Reader.checkEnd
  let options ← alternatives (2 * r.whole.length + 4) ⟨r.heldFlags, false, true, true⟩
  let after ← get
  if after.flags.contains .ascii then
    if after.isText && after.flags.contains .unicode then throw (.flagClash "UNICODE")
    if !after.isText && after.flags.contains .locale then throw (.flagClash "LOCALE")
  if !after.rest.isEmpty then fail "unbalanced parenthesis" 0
  match after.asked.find? fun entry => after.groups.size < entry.1 with
  | some (group, at_) => failAt ("invalid group reference " ++ Text.ofNat group) at_
  | none => pure ()
  let nodes := asRow options
  if !isFixedRow nodes then throw .openWidth
  return (nodes, rowWidth (groupWidths after) nodes)

end Pattern

/-- A search pattern. -/
structure Pattern where
  nodes : List Pattern.Node
  width : Pattern.Width
  /-- Whether it is for texts, and not for octets. -/
  isText : Bool
  deriving Repr, Inhabited

/-- Reads a pattern for texts. -/
def Pattern.ofText (t : Text) : Except Pattern.Fault Pattern :=
  match Pattern.readWhole ⟨t, true, t, [], #[], [], none, []⟩ with
  | .ok (nodes, width) _ => .ok ⟨nodes, width, true⟩
  | .error fault _ => .error fault

/-- Reads a pattern for octets; each octet is a character, and only those of ASCII have a sort. -/
def Pattern.ofBytes (b : Bytes) : Except Pattern.Fault Pattern :=
  let t := b.map fun octet => Point.ofNat octet.toNat
  match Pattern.readWhole ⟨t, false, t, [], #[], [], none, []⟩ with
  | .ok (nodes, width) _ => .ok ⟨nodes, width, false⟩
  | .error (.at words place whole) _ => .error (.at (Text.escapeBeyondAscii words) place whole)
  | .error fault _ => .error fault

end PhaseScript
