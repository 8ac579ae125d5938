import PhaseScript.Script.Token
import PhaseScript.Script.Syntax
/-
Reading tokens. A reader goes forward through the tokens and remembers the furthest token it has looked at, since
that is where a script is wrong when nothing more can be said. A refusal is either that, or words for a fault that
was recognised, or the fault at which the tokens end.
-/
set_option autoImplicit false

namespace PhaseScript.Script

/-- Why a reader stops. -/
inductive Refusal where
  /-- No rule fits; the furthest token is to blame. -/
  | noRule
  | fault (fault : SyntaxFault)
  /-- A fault that stays one whatever else is tried. -/
  | certain (fault : SyntaxFault)
  /-- The tokens end here. -/
  | lexical (fault : SyntaxFault)
  deriving Inhabited

/-- Where a reader stands. -/
structure Reading where
  tokens : Array Token
  ending : Ending
  next : Nat
  furthest : Nat
  /-- The last token that was looked at for any reason. -/
  fetched : Nat
  /-- The text around, if these are the tokens of a value inside a text literal. -/
  within : Option Text
  /-- Whether something is only tried, so that nothing is said about what stands beside it. -/
  quiet : Bool
  deriving Inhabited

/-- The line of the last token looked at. -/
def Reading.fetchedLine (r : Reading) : Nat := ((r.tokens[r.fetched]?).map (·.line)).getD 0

/-- A reader of tokens. What it has read stands in its state also when it refuses. -/
abbrev Reader (α : Type) := EStateM Refusal Reading α

namespace Reader

variable {α β : Type}

/-- No rule fits here. -/
def refuse : Reader α := throw .noRule

/-- A fault in a line, as the text around it tells of it. -/
def faultIn (line : Nat) (words : Text) : Reader SyntaxFault := do
  let r ← get
  let words := if r.within.isSome then "f-string: " ++ words else words
  return ⟨.syntaxFault, line, words, r.within⟩

/-- A fault in a line; where something is only tried it does not fit. -/
def fail (line : Nat) (words : Text) : Reader α := do
  if (← get).quiet then refuse else throw (.fault (← faultIn line words))

/-- A fault in a line that stays one whatever else is tried. -/
def failCertainly (line : Nat) (words : Text) : Reader α := do throw (.certain (← faultIn line words))

/-- A fault of indentation in a line. -/
def failIndent (line : Nat) (words : Text) : Reader α := throw (.fault ⟨.indentationFault, line, words, none⟩)

def unclosedFault (bracket : Point) (line : Nat) (r : Reading) : SyntaxFault :=
  ⟨.syntaxFault, line, "'" ++ [bracket] ++ "' was never closed", r.within⟩

/-- The fault at which the tokens end. -/
def endFault (r : Reading) : SyntaxFault :=
  match r.ending with
  | .broken fault _ _ => { fault with within := r.within }
  | .unclosed bracket line _ => unclosedFault bracket line r
  | .complete => ⟨.syntaxFault, (r.tokens.back?.map (·.line)).getD 0, "unexpected EOF while parsing", r.within⟩

/-- The token `ahead` of the next one. -/
def peekAt (ahead : Nat) : Reader Token := do
  let r ← get
  match r.tokens[r.next + ahead]? with
  | some token =>
    if r.fetched < r.next + ahead || r.furthest < r.next + ahead then
      set { r with furthest := max r.furthest (r.next + ahead), fetched := max r.fetched (r.next + ahead) }
    return token
  | none => throw (.lexical (endFault r))

def peek : Reader Token := peekAt 0

/-- Goes past a token. -/
def skip : Reader Unit := modify fun r => { r with next := r.next + 1 }

/-- The next token, and goes past it. -/
def take : Reader Token := do
  let token ← peek
  skip
  return token

/-- The line of the last token looked at. -/
def fetchedLine : Reader Nat := return (← get).fetchedLine

/-- Goes back to where a reader stood. -/
def goBack (before : Reading) : Reader Unit := modify fun r => { before with fetched := r.fetched }

/-- Goes back to where a reader stood, and remembers how far it came. -/
def goBackFrom (before : Reading) : Reader Unit :=
  modify fun r => { before with furthest := r.furthest, fetched := r.fetched }

/-- The token before the next one. -/
def previous : Reader Token := do
  let r ← get
  return (r.tokens[r.next - 1]?).getD default

/-- Where the next token starts. -/
def here : Reader Place := do
  let token ← peek
  return ⟨token.line, token.column⟩

def isOperator (token : Token) (s : String) : Bool := token.kind == .operator && token.points.is s

/-- The words that cannot be names. -/
def keywords : List String := ["False", "None", "True", "and", "as", "assert", "async", "await", "break", "class",
  "continue", "def", "del", "elif", "else", "except", "finally", "for", "from", "global", "if", "import", "in", "is",
  "lambda", "nonlocal", "not", "or", "pass", "raise", "return", "try", "while", "with", "yield"]

def isKeyword (t : Text) : Bool := keywords.any fun w => t.is w

/-- Whether a token is a name and no keyword. -/
def isName (token : Token) : Bool := token.kind == .name && !isKeyword token.points

def isWord (token : Token) (s : String) : Bool := token.kind == .name && token.points.is s

/-- Whether a token is this operator or this keyword. -/
def isSign (token : Token) (s : String) : Bool :=
  (token.kind == .operator || token.kind == .name) && token.points.is s

/-- Whether the next token is this operator or keyword. -/
def at? (s : String) : Reader Bool := return isSign (← peek) s

/-- Whether the next token is one of these. -/
def atAny? (signs : List String) : Reader Bool := do
  let token ← peek
  return signs.any fun s => isSign token s

/-- Goes past this operator or keyword if it comes next. -/
def accept (s : String) : Reader Bool := do
  if ← at? s then
    skip
    return true
  else return false

/-- This operator or keyword must come next. -/
def expect (s : String) : Reader Unit := do
  if !(← accept s) then refuse

def expectKind (kind : TokenKind) : Reader Unit := do
  let token ← peek
  if token.kind == kind then skip else refuse

/-- This operator must come next, and it is said so if it does not. -/
def demand (s : String) : Reader Unit := do
  let token ← peek
  if isSign token s then skip else fail token.line ("expected '" ++ Text.ofString s ++ "'")

def takeName : Reader Text := do
  let token ← peek
  if isName token then
    skip
    return token.points
  else refuse

/-- Reads as if nothing had been read, if no rule fits; with `keep` the furthest token is remembered even so. -/
def attempt (keep : Bool) (p : Reader α) : Reader (Option α) := fun before =>
  match p before with
  | .ok a after => .ok (some a) after
  | .error .noRule after =>
    let furthest := if keep then max before.furthest after.furthest else before.furthest
    .ok none { before with furthest, fetched := after.fetched }
  | .error refusal after => .error refusal after

/-- Tries to read: as if nothing had been read, if this does not fit. -/
def attemptQuietly (p : Reader α) : Reader (Option α) := fun before =>
  match p { before with quiet := true } with
  | .ok a after => .ok (some a) { after with quiet := before.quiet }
  | .error .noRule after => .ok none { before with fetched := after.fetched }
  | .error refusal after => .error refusal after

/-- Looks ahead without reading. -/
def lookahead (p : Reader α) : Reader (Option α) := do
  let before ← get
  let found ← attempt false p
  goBack before
  return found

/-- How many times a repetition can go round, at the most. -/
def bound : Reader Nat := return (← get).tokens.size + 2

/-- Repeats while the step gives something. -/
def repeatUpTo (step : Reader (Option α)) : Nat → Reader (List α)
  | 0 => return []
  | n + 1 => do
    match ← step with
    | none => return []
    | some a => return a :: (← repeatUpTo step n)

def many (step : Reader (Option α)) : Reader (List α) := do repeatUpTo step (← bound)

/-- Items with a separator between each two, which may also stand after the last one if `trailing` holds; the second
result tells whether one does. -/
def separated (separator : String) (item : Reader (Option α)) : Reader (List α × Bool) := do
  match ← item with
  | none => return ([], false)
  | some first =>
    let more ← many do
      if ← at? separator then
        let before ← get
        skip
        match ← item with
        | some a => return some a
        | none =>
          goBackFrom before
          return none
      else return none
    let trailing ← accept separator
    return (first :: more, trailing)

/-- The fault of a script at which a reader refused. What is wrong with the tokens further on goes before it. -/
def faultOf (refusal : Refusal) (r : Reading) : SyntaxFault :=
  let token := (r.tokens[r.furthest]?).getD default
  let unlessBroken (fault : SyntaxFault) : SyntaxFault :=
    match r.ending with
    | .broken _ true _ => endFault r
    | .broken _ false (some (bracket, line)) => if line < r.fetchedLine then unclosedFault bracket line r else fault
    | .unclosed _ line _ => if line < r.fetchedLine then endFault r else fault
    | _ => fault
  match refusal with
  | .lexical fault => fault
  | .fault fault | .certain fault => unlessBroken fault
  | .noRule =>
    let words : Text := if r.within.isSome then "f-string: invalid syntax" else "invalid syntax"
    if token.kind == .indent then ⟨.indentationFault, token.line, "unexpected indent", none⟩
    else if token.kind == .dedent then ⟨.indentationFault, token.line, "unexpected unindent", none⟩
    else unlessBroken ⟨.syntaxFault, token.line, words, r.within⟩

/-- The last line that was cut into tokens when a fault was found; none if the fault is one of the cutting. -/
def lastLine? (fault : SyntaxFault) (r : Reading) : Option Nat :=
  let fetched := ((r.tokens[r.fetched]?).map (·.endLine)).getD 0
  match r.ending with
  | .broken ending isFirm _ => if fault == ending then (if isFirm then none else some fault.line) else some fetched
  | .unclosed _ _ last => some (if fault == endFault r then last else fetched)
  | .complete => some fetched

end Reader

end PhaseScript.Script
