import PhaseScript.Text.Quoted
/-
The words of a script: its lines cut into tokens, with the indentation of the lines turned into tokens of its
own. The cutting stops at the first place that is no token; what is wrong there is kept as the end of the list,
since it counts only if the reader of the tokens gets that far.
-/
set_option autoImplicit false

namespace PhaseScript.Script

/-- The sort of a syntax fault. -/
inductive FaultSort where
  | syntaxFault
  | indentationFault
  | tabFault
  deriving DecidableEq, Repr, Inhabited

/-- A fault in the syntax of a script: where it is, and what is wrong. -/
structure SyntaxFault where
  sort : FaultSort
  line : Nat
  words : Text
  /-- The text the line belongs to, if it is not the script itself. -/
  within : Option Text
  deriving DecidableEq, Repr, Inhabited

inductive TokenKind where
  | name
  | number
  | string
  | operator
  | newline
  | indent
  | dedent
  | endMarker
  deriving DecidableEq, Repr, Inhabited

/-- A token: its points, where it starts, the line it ends in and how many brackets are open after it. -/
structure Token where
  kind : TokenKind
  points : Text
  line : Nat
  column : Nat
  endLine : Nat
  level : Nat
  deriving Repr, Inhabited

/-- How a list of tokens ends. -/
inductive Ending where
  | complete
  /-- At a place that is no token. A firm fault counts even if the tokens before it are in the wrong order. The bracket
  that is open there comes with its line. -/
  | broken (fault : SyntaxFault) (firm : Bool) (inside : Option (Point × Nat))
  /-- With this bracket open, which stands in this line; the text ends in the last one. -/
  | unclosed (bracket : Point) (line last : Nat)
  deriving Repr, Inhabited

/-- The tokens of a text, and how they end. -/
structure TokenList where
  tokens : Array Token
  ending : Ending
  /-- The lines that begin inside a token or after a backslash. -/
  joined : List Nat
  deriving Inhabited

namespace Token

/-- Where the cutting stands. -/
structure Cursor where
  rest : Text
  line : Nat
  column : Nat
  atLineStart : Bool
  /-- The open brackets, innermost first, each with its line. -/
  brackets : List (Point × Nat)
  /-- The indentation of the open blocks, innermost first: with tabs to the next eighth column, and to the next. -/
  indents : List (Nat × Nat)
  tokens : Array Token
  /-- The lines that begin inside a token or after a backslash. -/
  joined : List Nat

/-- Lines with one line feed at the end of each, whatever the text ends them with. -/
def normalizeFrom (afterReturn : Bool) : Text → Text
  | [] => []
  | p :: rest =>
    if p.is '\r' then Point.ofChar '\n' :: normalizeFrom true rest
    else if p.is '\n' && afterReturn then normalizeFrom false rest
    else p :: normalizeFrom false rest

def normalizeLines (t : Text) : Text := normalizeFrom false t

/-- The lines of a text, each with its end; after a carriage return and a line feed at the very end one more. -/
def wholeLines (t : Text) : Text :=
  let lines := normalizeLines t
  let newline : Text := "\n"
  match t.reverse with
  | [] => lines
  | p :: rest =>
    let isPair : Bool := p.is '\n' && match rest with
      | q :: _ => q.is '\r'
      | [] => false
    if isPair || !(p.is '\n' || p.is '\r') then lines ++ newline else lines

def fault (line : Nat) (words : Text) : SyntaxFault := ⟨.syntaxFault, line, words, none⟩

def isNamePoint (p : Point) : Bool := p.isAsciiLetter || p.isAsciiDigit || p.is '_' || 128 ≤ p.val

def isNameStart (p : Point) : Bool := p.isAsciiLetter || p.is '_' || 128 ≤ p.val

/-- The measure of an indentation: its points, and its width by either rule for tabs. -/
def indentation : Text → Nat → Nat → Nat → Nat × Nat × Nat
  | [], size, width, narrow => (size, width, narrow)
  | p :: rest, size, width, narrow =>
    if p.is ' ' then indentation rest (size + 1) (width + 1) (narrow + 1)
    else if p.is '\t' then indentation rest (size + 1) ((width / 8 + 1) * 8) (narrow + 1)
    else if p.val == 12 then indentation rest (size + 1) 0 0
    else (size, width, narrow)

/-- What number cutting gives: the size of the token, or the words of a fault. -/
abbrev Cut := Except Text Nat

/-- Digits of a class with single underscores between them: their size, and whether an underscore is left over. -/
def digitRun (isDigit : Point → Bool) : Text → Nat → Bool → Nat × Bool
  | [], size, open_ => (size, open_)
  | p :: rest, size, open_ =>
    if isDigit p then digitRun isDigit rest (size + 1) false
    else if p.is '_' && !open_ && size != 0 then digitRun isDigit rest (size + 1) true
    else (size, open_)

def startsWithWord (t : Text) (words : List String) : Bool :=
  words.any fun w => (Text.ofString w).isPrefixOf t

/-- A number must not run into a name, the words that may follow a number excepted. -/
def checkEnd (kind : String) (size : Nat) (after : Text) : Cut :=
  match after with
  | [] => .ok size
  | p :: _ =>
    let isWhole (word : String) : Bool := startsWithWord after [word] && match after.drop word.length with
      | q :: _ => !isNamePoint q
      | [] => true
    if startsWithWord after ["if", "in", "is"] || ["and", "else", "for", "or", "not"].any isWhole then .ok size
    else if isNamePoint p || p.val ≥ 128 then .error ("invalid " ++ Text.ofString kind ++ " literal")
    else .ok size

/-- The decimal digits at the front of a text; none left open. -/
def decimalTail (t : Text) : Cut :=
  let (size, open_) := digitRun Point.isAsciiDigit t 0 false
  if open_ then .error "invalid decimal literal" else .ok size

/-- The end of a number after its digits: an imaginary mark or nothing. -/
def finishNumber (size : Nat) (after : Text) : Cut :=
  match after with
  | p :: rest =>
    if p.is 'j' || p.is 'J' then checkEnd "imaginary" (size + 1) rest else checkEnd "decimal" size after
  | [] => .ok size

/-- The exponent of a number, if there is one, and its end. -/
def exponentPart (size : Nat) (after : Text) : Cut :=
  match after with
  | p :: rest =>
    if p.is 'e' || p.is 'E' then
      match rest with
      | q :: more =>
        if q.is '+' || q.is '-' then
          match more with
          | d :: _ =>
            if d.isAsciiDigit then do
              let n ← decimalTail more
              finishNumber (size + 2 + n) (more.drop n)
            else .error "invalid decimal literal"
          | [] => .error "invalid decimal literal"
        else if q.isAsciiDigit then do
          let n ← decimalTail rest
          finishNumber (size + 1 + n) (rest.drop n)
        else checkEnd "decimal" size after
      | [] => checkEnd "decimal" size after
    else finishNumber size after
  | [] => .ok size

/-- A fraction after the point, an exponent and the end of a number. -/
def fractionPart (size : Nat) (after : Text) : Cut :=
  match after with
  | p :: _ =>
    if p.isAsciiDigit then do
      let n ← decimalTail after
      exponentPart (size + n) (after.drop n)
    else exponentPart size after
  | [] => .ok size

/-- A number in a base that is marked by a letter. -/
def basedNumber (kind : String) (isDigit : Point → Bool) (after : Text) : Cut :=
  -- One underscore may stand between the letter and the digits.
  let (skipped, digits) := match after with
    | p :: rest => if p.is '_' then (1, rest) else (0, after)
    | [] => (0, after)
  let (size, open_) := digitRun isDigit digits 0 false
  let next := digits.drop size
  let wrongDigit : Option Point := match next with
    | p :: _ => if p.isAsciiDigit && kind != "hexadecimal" then some p else none
    | [] => none
  match wrongDigit with
  | some p => .error ("invalid digit '" ++ [p] ++ "' in " ++ Text.ofString kind ++ " literal")
  | none =>
    if size == 0 || open_ then .error ("invalid " ++ Text.ofString kind ++ " literal")
    else checkEnd kind (2 + skipped + size) next

/-- The size of the number at the front of a text, whose first point is a digit or a point before one. -/
def cutNumber (t : Text) : Cut :=
  match t with
  | [] => .ok 0
  | p :: rest =>
    if p.is '.' then fractionPart 1 rest
    else if p.is '0' then
      match rest with
      | q :: after =>
        if q.is 'x' || q.is 'X' then
          basedNumber "hexadecimal" (fun p => match p.asciiDigit? with | some d => d < 16 | none => false) after
        else if q.is 'o' || q.is 'O' then basedNumber "octal" (fun p => 48 ≤ p.val && p.val < 56) after
        else if q.is 'b' || q.is 'B' then basedNumber "binary" (fun p => p.is '0' || p.is '1') after
        else do
          let n ← decimalTail t
          let after := t.drop n
          let nonZero := (t.take n).any fun p => !(p.is '0' || p.is '_')
          match after with
          | r :: more =>
            if r.is '.' then fractionPart (n + 1) more
            else if r.is 'e' || r.is 'E' then exponentPart n after
            else if r.is 'j' || r.is 'J' then checkEnd "imaginary" (n + 1) more
            else if nonZero then
              .error "leading zeros in decimal integer literals are not permitted; use an 0o prefix for octal integers"
            else checkEnd "decimal" n after
          | [] => .ok n
      | [] => .ok 1
    else do
      let n ← decimalTail t
      match t.drop n with
      | r :: more => if r.is '.' then fractionPart (n + 1) more else exponentPart n (r :: more)
      | [] => .ok n

/-- The size of the string literal body after its opening quotes, closing quotes included, and the lines in it. -/
def cutString (quote : Point) (triple : Bool) : Nat → Text → Nat → Nat → Option (Nat × Nat) × Nat
  | 0, _, _, lines => (none, lines)
  | _ + 1, [], _, lines => (none, lines)
  | fuel + 1, p :: rest, size, lines =>
    if p.is '\\' then
      match rest with
      | [] => (none, lines)
      | q :: more => cutString quote triple fuel more (size + 2) (if q.is '\n' then lines + 1 else lines)
    else if p == quote then
      if !triple then (some (size + 1, lines), lines)
      else match rest with
        | q :: r :: _ =>
          if q == quote && r == quote then (some (size + 3, lines), lines)
          else cutString quote triple fuel rest (size + 1) lines
        | _ => cutString quote triple fuel rest (size + 1) lines
    else if p.is '\n' then
      if triple then cutString quote triple fuel rest (size + 1) (lines + 1) else (none, lines)
    else cutString quote triple fuel rest (size + 1) lines

/-- Whether a name is a string prefix. -/
def isStringPrefix (t : Text) : Bool :=
  let lower := Text.asciiLower t
  ["", "b", "u", "r", "f", "br", "rb", "fr", "rf"].any fun s => lower.is s

/-- The size of the operator at the front of a text. -/
def operatorSize (t : Text) : Nat :=
  if startsWithWord t ["...", "**=", "//=", ">>=", "<<="] then 3
  else if startsWithWord t ["!=", "->", ":=", "==", "<=", ">=", "<<", ">>", "**", "//", "+=", "-=", "*=", "/=",
    "%=", "&=", "|=", "^=", "@=", "<>"] then 2
  else 1

namespace Cursor

/-- Takes points of the current line as a token. -/
def take (c : Cursor) (kind : TokenKind) (size : Nat) : Cursor :=
  { c with
    rest := c.rest.drop size
    column := c.column + size
    tokens := c.tokens.push ⟨kind, c.rest.take size, c.line, c.column, c.line, c.brackets.length⟩ }

/-- Adds a token without points. -/
def mark (c : Cursor) (kind : TokenKind) : Cursor :=
  { c with tokens := c.tokens.push ⟨kind, [], c.line, c.column, c.line, c.brackets.length⟩ }

/-- Goes to the next line. -/
def nextLine (c : Cursor) (size : Nat) (atLineStart : Bool) : Cursor :=
  { c with rest := c.rest.drop size, line := c.line + 1, column := 0, atLineStart }

end Cursor

/-- One step: a cursor further on, or the end. -/
inductive Progress where
  | go (c : Cursor)
  | stop (c : Cursor) (ending : Ending)

/-- The end at a fault that counts in any case. -/
def Progress.firm (c : Cursor) (words : Text) : Progress := .stop c (.broken (fault c.line words) true c.brackets.head?)

/-- The end at a fault that counts only if the tokens before it are in order. -/
def Progress.loose (c : Cursor) (sort : FaultSort) (words : Text) : Progress :=
  .stop c (.broken ⟨sort, c.line, words, none⟩ false c.brackets.head?)

def endWords : Text := "unexpected EOF while parsing"

def continuationWords : Text := "unexpected character after line continuation character"

def tabWords : Text := "inconsistent use of tabs and spaces in indentation"

/-- Closes the blocks that are indented deeper than a line. -/
def closeBlocks (c : Cursor) (width narrow : Nat) : List (Nat × Nat) → Cursor → Progress
  | [], d => .go { d with indents := [] }
  | (w, n) :: outer, d =>
    if width < w then closeBlocks c width narrow outer (d.mark .dedent)
    else if width != w then
      .loose c .indentationFault "unindent does not match any outer indentation level"
    else if narrow != n then
      .loose c .tabFault tabWords
    else .go { d with indents := (w, n) :: outer }

/-- Compares the indentation of a line with the open blocks. -/
def indentLine (c : Cursor) (width narrow : Nat) : Progress :=
  match c.indents with
  | (w, n) :: _ =>
    if width == w then
      if narrow == n then .go c
      else .loose c .tabFault tabWords
    else if w < width then
      if narrow ≤ n then
        .loose c .tabFault tabWords
      else if 100 ≤ c.indents.length then
        .loose c .indentationFault "too many levels of indentation"
      else .go { (c.mark .indent) with indents := (width, narrow) :: c.indents }
    else closeBlocks c width narrow c.indents c
  | [] => .go c

/-- Goes past the indentation of a line, of which so much has been passed. A backslash goes on with the next line; the
indentation before the first one that is indented counts. The fuel is the length of what is left. -/
def passIndentation (width narrow kept : Nat) : Nat → Cursor → Progress
  | 0, c => .go c
  | fuel + 1, c =>
    let (size, width, narrow) := indentation c.rest 0 width narrow
    let here := { c with rest := c.rest.drop size, column := size, atLineStart := false }
    match here.rest with
    | [] => .go here
    | p :: _ =>
      if p.is '#' then .go { here with
          rest := here.rest.dropWhile fun p => !p.is '\n', atLineStart := true }
      else if p.is '\n' then .go (here.nextLine 1 true)
      else if p.is '\\' then
        if !(match here.rest with | _ :: q :: _ => q.is '\n' | _ => true) then
          .loose c .syntaxFault continuationWords
        else if here.rest.length ≤ 2 then .loose c .syntaxFault endWords
        else
          passIndentation width narrow (if kept == 0 then width else kept) fuel
            { here with rest := here.rest.drop 2, line := here.line + 1, column := 0 }
      else if kept == 0 then indentLine here width narrow
      else indentLine here kept kept

/-- Goes past the indentation of a line and compares it with the open blocks. -/
def startLine (c : Cursor) : Progress := passIndentation 0 0 0 (c.rest.length + 1) c

def describePoint (p : Point) : Text :=
  if p.isPrintable then "invalid character '" ++ [p] ++ "' (U+" ++ Text.asciiUpper (Text.hex 4 p.val) ++ ")"
  else "invalid non-printable character U+" ++ Text.asciiUpper (Text.hex 4 p.val)

/-- The first point that cannot stand where it does in a name. -/
def wrongNamePoint? : Text → Option Point
  | [] => none
  | p :: rest => if !p.mayStartName then some p else rest.find? fun q => !q.mayContinueName

/-- A bracket that closes. -/
def closeBracket (c : Cursor) (p : Point) : Progress :=
  match c.brackets with
  | [] => .firm c ("unmatched '" ++ [p] ++ "'")
  | (q, line) :: outer =>
    if (q.is '(' && p.is ')') || (q.is '[' && p.is ']') || (q.is '\x7b' && p.is '\x7d') then
      .go (({ c with brackets := outer }).take .operator 1)
    else
      .firm c ("closing parenthesis '" ++ [p] ++ "' does not match opening parenthesis '" ++ [q] ++ "'"
        ++ (if line == c.line then ([] : Text) else " on line " ++ Text.ofNat line))

/-- A string literal whose prefix has `skip` points. -/
def takeString (c : Cursor) (skip : Nat) : Progress :=
  match c.rest.drop skip with
  | [] => .go c
  | quote :: after =>
    let triple := match after with
      | q :: r :: _ => q == quote && r == quote
      | _ => false
    let opening := if triple then 3 else 1
    match cutString quote triple (after.length + 1) (c.rest.drop (skip + opening)) 0 0 with
    | (some (size, lines), _) =>
      let whole := c.rest.take (skip + opening + size)
      let lastLine := whole.reverse.takeWhile fun p => !p.is '\n'
      .go { c with
        rest := c.rest.drop whole.length
        line := c.line + lines
        joined := ((List.range lines).map fun k => c.line + k + 1) ++ c.joined
        column := if lines == 0 then c.column + whole.length else lastLine.length
        tokens := c.tokens.push ⟨.string, whole, c.line, c.column, c.line + lines, c.brackets.length⟩ }
    | (none, lines) =>
      .firm c ((if triple then ("unterminated triple-quoted string literal" : Text)
        else "unterminated string literal") ++ " (detected at line " ++ Text.ofNat (c.line + lines - (if triple then 1 else 0)) ++ ")")

/-- Goes past the blanks at the beginning of a line inside brackets. Backslashes there join no lines. The fuel is the
length of what is left. -/
def passBlanks : Nat → Cursor → Cursor
  | 0, c => c
  | fuel + 1, c =>
    match c.rest with
    | p :: after =>
      if p.is ' ' || p.is '\t' || p.val == 12 then passBlanks fuel { c with rest := after, column := c.column + 1 }
      else if p.is '\\' then
        match after with
        | q :: _ :: _ => if q.is '\n' then passBlanks fuel (c.nextLine 2 false) else c
        | _ => c
      else c
    | [] => c

/-- The next token inside a line. -/
def nextInLine (c : Cursor) : Progress :=
  match c.rest with
  | [] => .go c
  | p :: after =>
    if p.is ' ' || p.is '\t' || p.val == 12 then .go { c with rest := after, column := c.column + 1 }
    else if p.is '#' then .go { c with rest := c.rest.dropWhile fun p => !p.is '\n' }
    else if p.is '\n' then
      if c.brackets.isEmpty then .go ((c.mark .newline).nextLine 1 true) else .go (passBlanks c.rest.length (c.nextLine 1 false))
    else if isNameStart p then
      let name := c.rest.takeWhile isNamePoint
      let next := c.rest.drop name.length
      let quoted := match next with
        | q :: _ => (q.is '"' || q.is '\'') && isStringPrefix name
        | [] => false
      if quoted then takeString c name.length
      else match wrongNamePoint? name with
        | some q => .firm c (describePoint q)
        | none => .go (c.take .name name.length)
    else if p.isAsciiDigit || (p.is '.' && (match after with | q :: _ => q.isAsciiDigit | [] => false)) then
      match cutNumber c.rest with
      | .ok size => .go (c.take .number size)
      | .error words => .firm c words
    else if p.is '"' || p.is '\'' then takeString c 0
    else if p.is '\\' then
      match after with
      | q :: more =>
        if q.is '\n' then
          if more.isEmpty then match c.brackets with
            | (bracket, line) :: _ => .stop c (.unclosed bracket line c.line)
            | [] => .loose c .syntaxFault endWords
          else .go ({ c with joined := (c.line + 1) :: c.joined }.nextLine 2 false)
        else .loose c .syntaxFault continuationWords
      | [] => .loose c .syntaxFault endWords
    else if p.is '(' || p.is '[' || p.is '\x7b' then
      if 200 ≤ c.brackets.length then .firm c "too many nested parentheses"
      else .go (({ c with brackets := (p, c.line) :: c.brackets }).take .operator 1)
    else if p.is ')' || p.is ']' || p.is '\x7d' then closeBracket c p
    else if !p.isPrintable then .firm c (describePoint p)
    else .go (c.take .operator (operatorSize c.rest))

/-- The end of the text: open brackets are a fault, open blocks are closed. -/
def finish (c : Cursor) : TokenList :=
  match c.brackets with
  | (p, line) :: _ => ⟨c.tokens, .unclosed p line (c.line - 1), c.joined⟩
  | [] =>
    -- The end belongs to the last line.
    let c := { c with line := c.line - 1, column := 0 }
    let c := (c.indents.filter fun i => i.1 != 0).foldl (fun c _ => c.mark .dedent) c
    ⟨(c.mark .endMarker).tokens, .complete, c.joined⟩

/-- Cuts on until the text or the fuel ends; every step but those at a line's start consumes a point. -/
def cutAll : Nat → Cursor → TokenList
  | 0, c => finish c
  | fuel + 1, c =>
    if c.rest.isEmpty then finish c
    else match (if c.atLineStart then startLine c else nextInLine c) with
      | .go c => cutAll fuel c
      | .stop c ending => ⟨c.tokens, ending, c.joined⟩

end Token

/-- The tokens of a text whose first line has this number. -/
def TokenList.ofTextAt (line : Nat) (t : Text) : TokenList :=
  let t := Token.wholeLines t
  Token.cutAll (2 * t.length + 2) ⟨t, line, 0, true, [], [(0, 0)], #[], []⟩

/-- The tokens of a text. -/
def TokenList.ofText (t : Text) : TokenList := ofTextAt 1 t

/-- The first of the lines that are joined to a line; at the most so many before it. -/
def TokenList.firstJoined (tokens : TokenList) : Nat → Nat → Nat
  | 0, line => line
  | fuel + 1, line => if tokens.joined.contains line then tokens.firstJoined fuel (line - 1) else line

/-- The lines of a text from one to another, counted from one. -/
def linesOfText (t : Text) (first last : Nat) : Text :=
  Text.join "\n" (((Text.splitAtPoint '\n' (Token.normalizeLines t)).take last).drop (first - 1))

end PhaseScript.Script
