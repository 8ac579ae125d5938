import PhaseScript.Script.Syntax
import PhaseScript.Script.Token
import PhaseScript.Number.Decimal
import PhaseScript.Text.CharacterName
/-
What the literals of a script stand for: numbers, quoted text and octets, and text with values set into it.
-/
set_option autoImplicit false

namespace PhaseScript.Script

namespace Literal

/-- Whether a literal in this base is written with digits from `digits` on. -/
def basedValue (base : Nat) (digits : Text) : Nat :=
  (digits.filterMap Point.asciiDigit?).foldl (fun n d => n * base + d) 0

/-- The most decimal digits that a whole number may be written with. -/
def digitLimit : Nat := 4300

/-- The value of a number literal, which the cutting has found well formed. -/
def number (t : Text) : Except Text Constant :=
  let t := t.filter fun p => !p.is '_'
  let mark := Text.asciiLower (t.take 2)
  if mark.is "0x" then .ok (.int (basedValue 16 (t.drop 2)))
  else if mark.is "0o" then .ok (.int (basedValue 8 (t.drop 2)))
  else if mark.is "0b" then .ok (.int (basedValue 2 (t.drop 2)))
  else if t.all Point.isAsciiDigit then
    if digitLimit < t.length then
      .error ("Exceeds the limit (4300 digits) for integer string conversion: value has " ++ Text.ofNat t.length
        ++ " digits; use sys.set_int_max_str_digits() to increase the limit - Consider hexadecimal for huge integer"
        ++ " literals to avoid decimal conversion limits.")
    else .ok (.int (basedValue 10 t))
  else
    let value (t : Text) : Binary64 := match Decimal.parse? t with
      | some d => d.toBinary64
      | none => Binary64.zero
    if t.any fun p => p.is 'j' || p.is 'J' then .ok (.imaginary (value t.dropLast)) else .ok (.float (value t))

/-- The point that a one-letter escape stands for. -/
def escapeOf? (p : Point) : Option Point :=
  let table := [('\\', 92), ('\'', 39), ('"', 34), ('a', 7), ('b', 8), ('f', 12), ('n', 10), ('r', 13), ('t', 9),
    ('v', 11)]
  (table.find? fun entry => p.is entry.1).map fun entry => Point.ofNat entry.2

def isOctal (p : Point) : Bool := 48 ≤ p.val && p.val < 56

def isHex (p : Point) : Bool := match p.asciiDigit? with
  | some d => d < 16
  | none => false

/-- The size of a point in the form in which faults count positions: past ASCII it is written as an escape. -/
def weight (p : Point) : Nat := if p.val < 128 then 1 else 10

def weightOf (t : Text) : Nat := t.foldl (fun n p => n + weight p) 0

def escapeFault (start size : Nat) (words : String) : Text :=
  "(unicode error) 'unicodeescape' codec can't decode " ++
    (if size ≤ 1 then "byte 0x5c in position " ++ Text.ofNat start
     else "bytes in position " ++ Text.ofNat start ++ "-" ++ Text.ofNat (start + size - 1))
    ++ ": " ++ Text.ofString words

/-- Reads the escapes of a text literal. A backslash before any other point stands for itself. -/
def unescapeText : Nat → Nat → Text → Except Text Text
  | 0, _, _ => .ok []
  | _ + 1, _, [] => .ok []
  | fuel + 1, place, p :: rest =>
    if !p.is '\\' then (unescapeText fuel (place + weight p) rest).map (p :: ·)
    else
      let numbered (letter : String) (digits : Nat) (after : Text) : Except Text Text :=
        let found := (after.take digits).takeWhile isHex
        if found.length < digits then
          .error (escapeFault place (2 + found.length) ("truncated \\" ++ letter ++ " escape"))
        else
          let n := basedValue 16 found
          if n ≥ 0x110000 then .error (escapeFault place (2 + digits) "illegal Unicode character")
          else (unescapeText fuel (place + 2 + digits) (after.drop digits)).map (Point.ofNat n :: ·)
      match rest with
      | [] => .error (escapeFault place 1 "\\ at end of string")
      | q :: after =>
        if q.is '\n' then unescapeText fuel (place + 2) after
        else match escapeOf? q with
          | some r => (unescapeText fuel (place + 2) after).map (r :: ·)
          | none =>
            if isOctal q then
              let digits := (rest.take 3).takeWhile isOctal
              (unescapeText fuel (place + 1 + digits.length) (rest.drop digits.length)).map
                (Point.ofNat (basedValue 8 digits) :: ·)
            else if q.is 'x' then numbered "xXX" 2 after
            else if q.is 'u' then numbered "uXXXX" 4 after
            else if q.is 'U' then numbered "UXXXXXXXX" 8 after
            else if q.is 'N' then
              match after with
              | r :: more =>
                let name := more.takeWhile fun p => !p.is '\x7d'
                if r.is '\x7b' && name.length < more.length && !name.isEmpty then
                  match CharacterName.pointOf? name with
                  | some named =>
                    (unescapeText fuel (place + 4 + weightOf name) (more.drop (name.length + 1))).map (named :: ·)
                  | none => .error (escapeFault place (4 + weightOf name) "unknown Unicode character name")
                else .error (escapeFault place (if r.is '\x7b' then 3 + weightOf name else 2)
                  "malformed \\N character escape")
              | [] => .error (escapeFault place 2 "malformed \\N character escape")
            else if q.val ≥ 128 then (unescapeText fuel (place + 6) rest).map (p :: ·)
            else (unescapeText fuel (place + 2) after).map (p :: q :: ·)

/-- Reads the escapes of a literal of octets. -/
def unescapeBytes : Nat → Nat → Text → Except Text Bytes
  | 0, _, _ => .ok []
  | _ + 1, _, [] => .ok []
  | fuel + 1, place, p :: rest =>
    let octet (n : Nat) := UInt8.ofNat n
    if !p.is '\\' then (unescapeBytes fuel (place + 1) rest).map (octet p.val :: ·)
    else match rest with
      | [] => .error "(value error) Trailing \\ in string"
      | q :: after =>
        if q.is '\n' then unescapeBytes fuel (place + 2) after
        else match escapeOf? q with
          | some r => (unescapeBytes fuel (place + 2) after).map (octet r.val :: ·)
          | none =>
            if isOctal q then
              let digits := (rest.take 3).takeWhile isOctal
              (unescapeBytes fuel (place + 1 + digits.length) (rest.drop digits.length)).map
                (octet (basedValue 8 digits) :: ·)
            else if q.is 'x' then
              let digits := after.take 2
              if digits.length == 2 && digits.all isHex then
                (unescapeBytes fuel (place + 4) (after.drop 2)).map (octet (basedValue 16 digits) :: ·)
              else .error ("(value error) invalid \\x escape at position " ++ Text.ofNat place)
            else (unescapeBytes fuel (place + 2) after).map (octet p.val :: octet q.val :: ·)

/-- A piece of a text literal with values: text, or the source of a value with what is written around it. -/
inductive Piece where
  | text (t : Text)
  /-- The source, how many lines of the literal stand before it, the conversion and the format. -/
  | value (source : Text) (lines : Nat) (conversion : Conversion) (spec : Option (List Piece))
  /-- What is wrong at this place. -/
  | fault (words : Text)
  deriving Inhabited

/-- The pieces of a literal so far, what is left of it, and whether a fault has ended it. -/
structure Scan where
  pieces : List Piece
  rest : Text
  lines : Nat
  broken : Bool

/-- The literal text up to a brace: its points as written, what is left, whether a doubled brace was closed, and
what is wrong. -/
def literalRun (raw nested : Bool) : Nat → Text → Text → Text × Text × Bool × Option Text
  | 0, done, rest => (done.reverse, rest, false, none)
  | _ + 1, done, [] => (done.reverse, [], false, none)
  | fuel + 1, done, p :: rest =>
    let brace (done : Text) (p : Point) (rest : Text) : Text × Text × Bool × Option Text :=
      match nested, rest with
      | false, q :: more =>
        if q == p then ((p :: done).reverse, more, true, none)
        else if p.is '\x7d' then (done.reverse, rest, false, some "f-string: single '\x7d' is not allowed")
        else (done.reverse, p :: rest, false, none)
      | false, [] =>
        if p.is '\x7d' then (done.reverse, rest, false, some "f-string: single '\x7d' is not allowed")
        else (done.reverse, [p], false, none)
      | true, _ => (done.reverse, p :: rest, false, none)
    if p.is '\\' && !raw then
      match rest with
      | [] => ((p :: done).reverse, [], false, none)
      | q :: more =>
        if q.is 'N' then
          match more with
          | r :: _ =>
            if r.is '\x7b' then
              let name := more.takeWhile fun p => !p.is '\x7d'
              let whole := more.take (name.length + 1)
              literalRun raw nested fuel (whole.reverse ++ q :: p :: done) (more.drop (name.length + 1))
            else literalRun raw nested fuel (q :: p :: done) more
          | [] => literalRun raw nested fuel (q :: p :: done) more
        else if q.is '\x7b' || q.is '\x7d' then brace (p :: done) q more
        else literalRun raw nested fuel (q :: p :: done) more
    else if p.is '\x7b' || p.is '\x7d' then brace done p rest
    else literalRun raw nested fuel (p :: done) rest

/-- Where the scan of a value's source stands: the quote it is inside, if any, and the open brackets. -/
structure ValueScan where
  quote : Option (Point × Bool)
  open_ : List Point

/-- The source of a value up to the sign that ends it, and what is left; or what is wrong. -/
def valueRun : Nat → ValueScan → Text → Text → Except Text (Text × Text)
  | 0, _, done, rest => .ok (done.reverse, rest)
  | fuel + 1, state, done, t =>
    match t with
    | [] =>
      if state.quote.isSome then .error "f-string: unterminated string"
      else match state.open_ with
        | q :: _ => .error ("f-string: unmatched '" ++ [q] ++ "'")
        | [] => .error "f-string: expecting '\x7d'"
    | p :: rest =>
      let tripled : Bool := match rest with
        | q :: r :: _ => q == p && r == p
        | _ => false
      if p.is '\\' then .error "f-string expression part cannot include a backslash"
      else match state.quote with
      | some (quote, triple) =>
        if p == quote && triple && tripled then
          valueRun fuel { state with quote := none } (p :: p :: p :: done) (rest.drop 2)
        else if p == quote && !triple then valueRun fuel { state with quote := none } (p :: done) rest
        else valueRun fuel state (p :: done) rest
      | none =>
        if p.is '\'' || p.is '"' then
          if tripled then valueRun fuel { state with quote := some (p, true) } (p :: p :: p :: done) (rest.drop 2)
          else valueRun fuel { state with quote := some (p, false) } (p :: done) rest
        else if p.is '[' || p.is '\x7b' || p.is '(' then
          if 200 ≤ state.open_.length then .error "f-string: too many nested parenthesis"
          else valueRun fuel { state with open_ := p :: state.open_ } (p :: done) rest
        else if p.is '#' then .error "f-string expression part cannot include '#'"
        else if state.open_.isEmpty
            && (p.is '!' || p.is ':' || p.is '\x7d' || p.is '=' || p.is '>' || p.is '<') then
          let doubled := (p.is '!' || p.is '=' || p.is '<' || p.is '>') && (match rest with
            | q :: _ => q.is '='
            | [] => false)
          if doubled then valueRun fuel state (rest.take 1 ++ p :: done) (rest.drop 1)
          else if p.is '>' || p.is '<' then valueRun fuel state (p :: done) rest
          else .ok (done.reverse, p :: rest)
        else if p.is ']' || p.is '\x7d' || p.is ')' then
          match state.open_ with
          | [] => .error ("f-string: unmatched '" ++ [p] ++ "'")
          | q :: outer =>
            if (q.is '(' && p.is ')') || (q.is '[' && p.is ']') || (q.is '\x7b' && p.is '\x7d') then
              valueRun fuel { state with open_ := outer } (p :: done) rest
            else .error ("f-string: closing parenthesis '" ++ [p] ++ "' does not match opening parenthesis '" ++ [q]
              ++ "'")
        else valueRun fuel state (p :: done) rest

def isPlainBlank (p : Point) : Bool := p.is ' ' || p.is '\t' || p.is '\n' || p.val == 12

def lineCount (t : Text) : Nat := (t.filter fun p => p.is '\n').length

/-- The conversion after its mark, and what is left. -/
def conversionOf (t : Text) : Except Text (Conversion × Text) :=
  let word : Text := t.takeWhile fun p => !(p.is '\x7d' || p.is ':')
  let rest := t.drop word.length
  if rest.isEmpty then .error "f-string: expecting '\x7d'"
  else if word.is "s" then .ok (.plain, rest)
  else if word.is "r" then .ok (.quoted, rest)
  else if word.is "a" then .ok (.ascii, rest)
  else .error ("f-string: invalid conversion character '" ++ word ++ "': expected 's', 'r', or 'a'")

/-- Cuts the body of a literal with values into pieces; `depth` counts the formats around. -/
def scanPieces (raw : Bool) : Nat → Nat → Nat → Text → Scan
  | 0, _, lines, rest => ⟨[], rest, lines, false⟩
  | fuel + 1, depth, lines, t =>
    let broken (pieces : List Piece) (words : Text) : Scan := ⟨pieces ++ [.fault words], [], lines, true⟩
    let (written, rest, doubled, wrong) := literalRun raw (depth != 0) (t.length + 1) [] t
    let lines := lines + lineCount written
    let front : List Piece :=
      if written.isEmpty then []
      else if raw then [.text written]
      else match unescapeText (written.length + 1) 0 written with
        | .ok text => [.text text]
        | .error words => [.fault words]
    match wrong with
    | some words => broken [] words
    | none =>
      if doubled then
        let more := scanPieces raw fuel depth lines rest
        { more with pieces := front ++ more.pieces }
      else match rest with
        | [] =>
          if depth == 0 then ⟨front, [], lines, false⟩ else broken front "f-string: expecting '\x7d'"
        | p :: inside =>
          if p.is '\x7d' then ⟨front, rest, lines, false⟩
          else if 2 ≤ depth then broken front "f-string: expressions nested too deeply"
          else match valueRun (inside.length + 1) ⟨none, []⟩ [] inside with
            | .error words => broken front words
            | .ok (source, after) =>
              if source.all isPlainBlank then
                match after with
                | q :: _ =>
                  if q.is '!' || q.is ':' || q.is '=' then
                    broken front ("f-string: expression required before '" ++ [q] ++ "'")
                  else broken front "f-string: empty expression not allowed"
                | [] => broken front "f-string: empty expression not allowed"
              else
                let (shown, after) : Option Text × Text := match after with
                  | q :: more =>
                    if q.is '=' then
                      let blanks := more.takeWhile Point.isBlank
                      (some (source ++ [q] ++ blanks), more.drop blanks.length)
                    else (none, after)
                  | [] => (none, after)
                let front := match shown with
                  | some words => front ++ [.text words]
                  | none => front
                let unfinished := front ++ [.value source lines .none none]
                let lines := lines + lineCount source
                let converted : Except Text (Conversion × Text) := match after with
                  | [] => .error "f-string: expecting '\x7d'"
                  | q :: more => if q.is '!' then conversionOf more else .ok (.none, after)
                match converted with
                | .error words => broken unfinished words
                | .ok (conversion, after) =>
                  let finish (spec : Option (List Piece)) (lines : Nat) (after : Text) : Scan :=
                    match after with
                    | q :: more =>
                      if q.is '\x7d' then
                        let conversion := if shown.isSome && spec.isNone && conversion == .none then .quoted
                          else conversion
                        let tail := scanPieces raw fuel depth lines more
                        { tail with pieces := front ++ .value source (lines - lineCount source) conversion spec
                            :: tail.pieces }
                      else broken unfinished "f-string: expecting '\x7d'"
                    | [] => broken unfinished "f-string: expecting '\x7d'"
                  match after with
                  | q :: more =>
                    if q.is ':' then
                      if more.isEmpty then broken unfinished "f-string: expecting '\x7d'"
                      else
                        let spec := scanPieces raw fuel (depth + 1) lines more
                        if spec.broken then ⟨unfinished ++ spec.pieces, [], lines, true⟩
                        else finish (some spec.pieces) spec.lines spec.rest
                    else finish none lines after
                  | [] => finish none lines after

/-- What a string token holds. -/
inductive Quoted where
  | text (t : Text)
  | bytes (b : Bytes)
  | pieces (pieces : List Piece)

/-- Reads a string token: its marks, its quotes and its body. -/
def quoted (t : Text) : Except Text Quoted :=
  let marks := Text.asciiLower (t.takeWhile fun p => !(p.is '"' || p.is '\''))
  let t := t.drop marks.length
  let triple := match t with
    | p :: q :: r :: _ => 6 ≤ t.length && p == q && q == r
    | _ => false
  let size := if triple then 3 else 1
  let body := (t.drop size).take (t.length - 2 * size)
  let has (c : Char) := marks.any fun p => p.is c
  if has 'b' then
    if body.any fun p => p.val ≥ 128 then .error "bytes can only contain ASCII literal characters"
    else if has 'r' then .ok (.bytes (body.map fun p => UInt8.ofNat p.val))
    else (unescapeBytes (body.length + 1) 0 body).map .bytes
  else if has 'f' then
    let scan := scanPieces (has 'r') (body.length + 1) 0 0 body
    .ok (.pieces (if scan.broken || scan.rest.isEmpty then scan.pieces
      else scan.pieces ++ [.fault "f-string: unexpected end of string"]))
  else if has 'r' then .ok (.text body)
  else (unescapeText (body.length + 1) 0 body).map .text

end Literal

end PhaseScript.Script
