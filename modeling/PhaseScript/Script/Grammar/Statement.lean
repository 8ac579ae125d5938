import PhaseScript.Script.Grammar.Pattern
/-
The rules for statements and blocks.
-/
set_option autoImplicit false

namespace PhaseScript.Script.Grammar

open Reader

/-- The operators that change what they assign to. -/
def augmentations : List (String × BinaryOperator) := [("+=", .add), ("-=", .subtract), ("*=", .multiply),
  ("@=", .matrixMultiply), ("/=", .divide), ("%=", .modulo), ("&=", .bitAnd), ("|=", .bitOr), ("^=", .bitXor),
  ("<<=", .leftShift), (">>=", .rightShift), ("**=", .power), ("//=", .floorDivide)]

/-- What may stand at the right of an equals sign. -/
def rightSide (self : Rules) : Reader Expr := do
  if ← at? "yield" then yieldRule self else self .stars

/-- Refuses a target, after looking for an equals sign that was meant as a comparison. -/
def failAssignment {α : Type} (self : Rules) (before : Reading) (wrong : Expr) : Reader α := do
  let after ← get
  goBackFrom before
  let _ ← attempt true (separated "," (attempt true (starNamed self)))
  goBack after
  match wrong with
  | .yield p _ | .yieldFrom p _ => fail p.line "assignment to yield expression not possible"
  | _ => failTarget .assigned wrong

/-- The rest of a chain of assignments, with the targets so far and the expression that an equals sign follows. -/
def assignmentChain (self : Rules) (before : Reading) (start : Place) : Nat → List Expr → Expr → Reader Stmt
  | 0, _, _ => refuse
  | fuel + 1, targets, e => do
    if !e.isTarget then failAssignment self before e
    expect "="
    let value ← rightSide self
    if ← at? "=" then assignmentChain self before start fuel (targets ++ [e]) value
    else return .assign start (targets ++ [e]) value

/-- A statement that begins with an expression. -/
def expressionStatement (self : Rules) : Reader Stmt := do
  let start ← here
  let before ← get
  let token ← peek
  let e ← rightSide self
  if ← at? "=" then assignmentChain self before start (← bound) [] e
  else if ← at? ":=" then
    -- Only an expression that could not be bound anywhere is told what is wrong with it.
    let reached ← get
    goBackFrom before
    let _ ← attempt false (starNamed self)
    goBack reached
    refuse
  else if (← at? ":") && !(isWord token "yield") then
    let line := e.place.line
    let colon ← get
    skip
    let annotation ← attempt true (self .expression)
    match annotation with
    | none => refuse
    | some _ =>
      match e with
      | .list _ _ => fail line "only single target (not list) can be annotated"
      | .tuple _ _ => fail line "only single target (not tuple) can be annotated"
      | e =>
        if e.isSingleTarget then
          if ← accept "=" then
            let _ ← rightSide self
          return .forbidden start .annotatedAssignment
        else
          goBack colon
          fail line "illegal target for annotation"
  else
    let sign ← peek
    match augmentations.find? fun entry => isOperator sign entry.1 with
    | some (_, operator) =>
      skip
      let value ← rightSide self
      if e.isSingleTarget then return .augment start e operator value
      else if isWord token "yield" then refuse
      else
        fail e.place.line ("'" ++ Text.ofString e.sort ++ "' is an illegal expression for augmented assignment")
    | none => return .expr start e

/-- A module's name with dots. -/
def dottedName : Reader Text := do
  let first ← takeName
  let rest ← many do
    if ← accept "." then return some (← takeName) else return none
  return Text.join "." (first :: rest)

def givenName : Reader (Option Text) := do
  if ← accept "as" then return some (← takeName) else return none

def importStatement : Reader Stmt := do
  let start ← here
  expect "import"
  let (names, trailing) ← separated "," do
    let place ← here
    let name ← dottedName
    return some (⟨place, name, ← givenName⟩ : Alias)
  if trailing then refuse
  return .import_ start names

/-- The dots before a module's name. -/
def importLevel : Reader Nat := do
  let dots ← many do
    if ← accept "." then return some 1
    else if ← accept "..." then return some 3
    else return none
  return dots.foldl (· + ·) 0

def importFromStatement : Reader Stmt := do
  let start ← here
  expect "from"
  let level ← importLevel
  let module ← if level != 0 && (← at? "import") then pure none else pure (some (← dottedName))
  expect "import"
  let place ← here
  if ← accept "*" then return .importFrom start module [⟨place, "*", none⟩] level
  let item : Reader (Option Alias) := attempt true do
    let place ← here
    let name ← takeName
    return ⟨place, name, ← givenName⟩
  if ← accept "(" then
    let (names, _) ← separated "," item
    expect ")"
    if names.isEmpty then refuse
    return .importFrom start module names level
  else
    let (names, trailing) ← separated "," item
    if names.isEmpty then refuse
    if trailing then
      if (← peek).kind == .newline then
        fail (← peek).line "trailing comma not allowed without surrounding parentheses"
      refuse
    return .importFrom start module names level

def names : Reader (List Text) := do
  let (names, trailing) ← separated "," do return some (← takeName)
  if trailing then refuse
  return names

def deleteStatement (self : Rules) : Reader Stmt := do
  let start ← here
  expect "del"
  let before ← get
  let (targets, _) ← separated "," (attempt true (self .primary))
  let next ← peek
  if !targets.isEmpty && (next.kind == .newline || isOperator next ";")
      && targets.all fun e => (e.wrongTarget? .deleted).isNone then
    return .delete start targets
  else
    goBackFrom before
    match ← attempt true (self .stars) with
    | some e => failTarget .deleted e
    | none => refuse

/-- A statement of one line. -/
def simpleStatement (self : Rules) : Reader Stmt := do
  let token ← peek
  let start ← here
  let is (s : String) := isWord token s
  let endsHere : Reader Bool := do
    let next ← peek
    return next.kind == .newline || isOperator next ";"
  if is "pass" then
    skip
    return .pass start
  else if is "break" then
    skip
    return .break_ start
  else if is "continue" then
    skip
    return .continue_ start
  else if is "return" then
    skip
    if ← endsHere then return .return_ start none else return .return_ start (some (← self .stars))
  else if is "raise" then
    skip
    if ← endsHere then return .raise start none none
    else
      let error ← self .expression
      let cause ← if ← accept "from" then pure (some (← self .expression)) else pure none
      return .raise start (some error) cause
  else if is "import" then importStatement
  else if is "from" then importFromStatement
  else if is "del" then deleteStatement self
  else if is "assert" then
    skip
    let test ← self .expression
    let message ← if ← accept "," then pure (some (← self .expression)) else pure none
    return .assert start test message
  else if is "global" then
    skip
    return .global start (← names)
  else if is "nonlocal" then
    skip
    let _ ← names
    return .forbidden start .nonlocal
  else expressionStatement self

def wholeLine (self : Rules) : Reader (List Stmt) := do
  let first ← simpleStatement self
  let rest ← many do
    if ← at? ";" then
      skip
      if (← peek).kind == .newline then return none else return some (← simpleStatement self)
    else return none
  expectKind .newline
  return first :: rest

/-- The statements of one line. Expressions with commas between them may be told what is wrong even if no comma
separates the next. -/
def statementLine (self : Rules) : Reader (List Stmt) := do
  match ← attempt true (wholeLine self) with
  | some statements => return statements
  | none =>
    let tried ← lookahead (attemptQuietly do
      match ← lookahead (expressionStatement self) with
      | some (.expr _ _) =>
        let _ ← starNamed self
        expect ","
      | _ => refuse)
    match tried with
    | some (some ()) =>
      let _ ← attempt false do
        let _ ← many do
          let (items, _) ← separated "," (attempt true (starNamed self))
          return if items.isEmpty then none else some ()
      refuse
    | _ => refuse

/-- What the rules for compound statements build on: expressions, and the statements of a deeper block. -/
structure BlockRules where
  expressions : Rules
  statements : Reader (List Stmt)

/-- The block after a colon. `owner` says in a fault what it belongs to. -/
def block (self : BlockRules) (owner : Text) (line : Nat) : Reader (List Stmt) := do
  if (← peek).kind == .newline then
    skip
    let token ← peek
    if token.kind != .indent then
      failIndent token.line ("expected an indented block after " ++ owner ++ " on line " ++ Text.ofNat line)
    skip
    let body ← self.statements
    expectKind .dedent
    return body
  else statementLine self.expressions

/-- The colon before a block. A line that ends without it is told so. -/
def colon : Reader Unit := do
  let token ← peek
  if token.kind == .newline then fail token.line "expected ':'" else expect ":"

def statementWords (word : String) : Text := "'" ++ Text.ofString word ++ "' statement"

/-- The block of an `else`, if there is one. -/
def elseBlock (self : BlockRules) : Reader (List Stmt) := do
  let start ← here
  if ← accept "else" then
    demand ":"
    block self (statementWords "else") start.line
  else return []

/-- An `if` or `elif` with all that follows it. -/
def ifFrom (self : BlockRules) : Nat → String → Reader Stmt
  | 0, _ => refuse
  | fuel + 1, word => do
    let start ← here
    expect word
    let test ← self.expressions .named
    colon
    let body ← block self (statementWords word) start.line
    if ← at? "elif" then return .if_ start test body [← ifFrom self fuel "elif"]
    else return .if_ start test body (← elseBlock self)

def whileStatement (self : BlockRules) : Reader Stmt := do
  let start ← here
  expect "while"
  let test ← self.expressions .named
  colon
  let body ← block self (statementWords "while") start.line
  return .while start test body (← elseBlock self)

def forStatement (self : BlockRules) : Reader Stmt := do
  let start ← here
  expect "for"
  let target ← loopTargets self.expressions
  expect "in"
  let source ← self.expressions .stars
  colon
  let body ← block self (statementWords "for") start.line
  return .for_ start target source body (← elseBlock self)

/-- One item of a `with` statement. -/
def withItem (self : BlockRules) : Reader (Expr × Option Expr) := do
  let value ← self.expressions .expression
  if ← accept "as" then
    let before ← get
    let target ← attempt true do
      let start ← here
      let target ← if ← accept "*" then pure (Expr.starred start (← self.expressions .primary))
        else self.expressions .primary
      let endsHere := (← atAny? [",", ")", ":"]) || (← peek).kind == .newline
      if target.isTarget && endsHere then return target else refuse
    match target with
    | some target => return (value, some target)
    | none =>
      goBackFrom before
      let wrong ← self.expressions .expression
      if ← atAny? [",", ")", ":"] then failTarget .assigned wrong else refuse
  else return (value, none)

def withStatement (self : BlockRules) : Reader Stmt := do
  let start ← here
  expect "with"
  let bracketed ← attempt true do
    expect "("
    let (items, _) ← separated "," (attempt true (withItem self))
    expect ")"
    expect ":"
    if items.isEmpty then refuse
    return items
  match bracketed with
  | some items => return .with_ start items (← block self (statementWords "with") start.line)
  | none =>
    let (items, trailing) ← separated "," do return some (← withItem self)
    if trailing then refuse
    colon
    return .with_ start items (← block self (statementWords "with") start.line)

/-- One handler of a `try` statement, and whether it has a star. -/
def handler (self : BlockRules) : Reader (Option (Handler Stmt × Bool)) := do
  let start ← here
  if !(← accept "except") then return none
  let star ← accept "*"
  if star && ((← at? ":") || (← peek).kind == .newline) then
    fail (← fetchedLine) "expected one or more exception types"
  let owner := statementWords (if star then "except*" else "except")
  if (← at? ":") || (← peek).kind == .newline then
    colon
    return some (⟨start, none, none, ← block self owner start.line⟩, star)
  else
    let kind ← self.expressions .expression
    if ← at? "," then
      let before ← get
      let several ← attempt true do
        let _ ← many do
          if ← accept "," then return some (← self.expressions .expression) else return none
        if ← accept "as" then
          let _ ← takeName
        expect ":"
      goBackFrom before
      if several.isSome then fail kind.place.line "multiple exception types must be parenthesized" else refuse
    let name ← if ← accept "as" then pure (some (← takeName)) else pure none
    colon
    return some (⟨start, some kind, name, ← block self owner start.line⟩, star)

def tryStatement (self : BlockRules) : Reader Stmt := do
  let start ← here
  expect "try"
  demand ":"
  let body ← block self (statementWords "try") start.line
  let handlers ← many (handler self)
  let orelse ← if handlers.isEmpty then pure [] else elseBlock self
  let finallyPlace ← here
  let finally_ ← if ← accept "finally" then do
      demand ":"
      let body ← block self (statementWords "finally") finallyPlace.line
      pure (some body)
    else pure none
  if handlers.isEmpty && finally_.isNone then
    fail (← fetchedLine) "expected 'except' or 'finally' block"
  let stars := handlers.map (·.2)
  if stars.any id then
    if stars.all id then return .forbidden start .starHandlers
    else fail (← fetchedLine) "cannot have both 'except' and 'except*' on the same 'try'"
  return .try_ start body (handlers.map (·.1)) orelse (finally_.getD [])

def functionStatement (self : BlockRules) (decorators : List Expr) : Reader Stmt := do
  let start ← here
  expect "def"
  let name ← takeName
  demand "("
  let parameters ← parametersRule self.expressions definitionWords
  expect ")"
  let returns ← if ← at? "->" then
      attempt true do
        skip
        self.expressions .expression
    else pure none
  demand ":"
  let body ← block self "function definition" start.line
  return .function start name parameters body decorators returns

def classStatement (self : BlockRules) (decorators : List Expr) : Reader Stmt := do
  let start ← here
  expect "class"
  let name ← takeName
  let arguments ← if ← accept "(" then argumentsRule self.expressions none else pure ⟨[], []⟩
  colon
  let body ← block self "class definition" start.line
  return .class_ start name arguments.positional arguments.named body decorators

def decorated (self : BlockRules) : Reader Stmt := do
  let decorators ← many do
    if ← accept "@" then
      let e ← self.expressions .named
      expectKind .newline
      return some e
    else return none
  let start ← here
  if ← at? "def" then functionStatement self decorators
  else if ← at? "class" then classStatement self decorators
  else if ← accept "async" then
    let _ ← functionStatement self decorators
    return .forbidden start .asyncFunction
  else refuse

/-- What a `match` statement looks at: one expression, or several with at least one comma. -/
def matchSubject (self : BlockRules) : Reader Unit := do
  let (items, trailing) ← separated "," (attempt true (starNamed self.expressions))
  match items, trailing with
  | [], _ | [.starred _ _], false => refuse
  | _, _ => return ()

/-- A `match` statement; the word is a name anywhere else. -/
def matchStatement (self : BlockRules) : Reader Stmt := do
  let start ← here
  expect "match"
  matchSubject self
  expect ":"
  expectKind .newline
  let token ← peek
  if token.kind != .indent then
    failIndent token.line ("expected an indented block after 'match' statement on line " ++ Text.ofNat start.line)
  skip
  let cases ← many do
    let place ← here
    if !(← accept "case") then return none
    casePattern self.expressions
    if ← accept "if" then
      let _ ← self.expressions .named
    colon
    let _ ← block self (statementWords "case") place.line
    return some ()
  if cases.isEmpty then refuse
  expectKind .dedent
  return .forbidden start .match_

/-- Says so if a line is the beginning of a `match` statement without its colon. -/
def matchWithoutColon (self : BlockRules) : Reader Unit := do
  let found ← lookahead do
    skip
    matchSubject self
    let token ← peek
    if token.kind != .newline then refuse
    return token.line
  found.forM fun line => fail line "expected ':'"

def asyncStatement (self : BlockRules) : Reader Stmt := do
  let start ← here
  expect "async"
  if ← at? "def" then
    let _ ← functionStatement self []
    return .forbidden start .asyncFunction
  else if ← at? "for" then
    let _ ← forStatement self
    return .forbidden start .asyncFor
  else if ← at? "with" then
    let _ ← withStatement self
    return .forbidden start .asyncWith
  else refuse

/-- The statements of one line, or one compound statement. -/
def statement (self : BlockRules) : Reader (List Stmt) := do
  let token ← peek
  let is (s : String) := isWord token s
  if is "if" then return [← ifFrom self (← bound) "if"]
  else if is "while" then return [← whileStatement self]
  else if is "for" then return [← forStatement self]
  else if is "try" then return [← tryStatement self]
  else if is "with" then return [← withStatement self]
  else if is "def" then return [← functionStatement self []]
  else if is "class" then return [← classStatement self []]
  else if is "async" then return [← asyncStatement self]
  else if isOperator token "@" then return [← decorated self]
  else if is "match" then
    match ← attempt true (matchStatement self) with
    | some s => return [s]
    | none =>
      let before ← get
      match ← attempt true (statementLine self.expressions) with
      | some line =>
        -- An indented line after it shows that the line was meant to have a block.
        if (← peek).kind == .indent then
          let after ← get
          goBackFrom before
          let isHead ← attempt true do
            skip
            matchSubject self
            expectKind .newline
          if isHead.isSome then fail (← fetchedLine) "expected ':'"
          goBackFrom after
        return line
      | none =>
        matchWithoutColon self
        refuse
  else statementLine self.expressions

/-- Statements up to the end of their block. -/
def statementsWith (self : BlockRules) : Reader (List Stmt) := do
  let groups ← many do
    let token ← peek
    if token.kind == .dedent || token.kind == .endMarker then return none else return some (← statement self)
  return groups.flatten

/-- The statements of a block, as deep as the fuel allows. -/
def statements (expressions : Rules) : Nat → Reader (List Stmt)
  | 0 => refuse
  | depth + 1 => fun r => statementsWith ⟨expressions, statements expressions depth⟩ r

/-- A whole script. -/
def script (expressions : Rules) (depth : Nat) : Reader (List Stmt) := do
  let body ← statements expressions depth
  expectKind .endMarker
  return body

end PhaseScript.Script.Grammar
