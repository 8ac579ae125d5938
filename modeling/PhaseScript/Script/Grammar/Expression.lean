import PhaseScript.Script.Grammar.Target
import PhaseScript.Script.Literal
/-
The rules for expressions. Each rule is given the rules below it as one function from goals to readers, so that the
knot is tied in one place, where the depth of an expression is bounded by the length of its text.
-/
set_option autoImplicit false

namespace PhaseScript.Script

/-- The rules that call each other in a circle. -/
inductive Goal where
  /-- Expressions with commas between them, starred ones among them. -/
  | stars
  /-- An expression that may bind a name. -/
  | named
  | expression
  | disjunction
  | inversion
  | bitOr
  | factor
  | primary
  deriving DecidableEq

namespace Grammar

open Reader

/-- The rules for goals. -/
abbrev Rules := Goal → Reader Expr

/-- Whether an expression can begin with a token. -/
def startsExpression (token : Token) : Bool :=
  match token.kind with
  | .name => !isKeyword token.points
      || ["None", "True", "False", "lambda", "not", "await"].any fun w => token.points.is w
  | .number | .string => true
  | .operator => ["(", "[", "\x7b", "-", "+", "~", "..."].any fun w => token.points.is w
  | _ => false

/-- Operators of one strength, read from left to right. -/
def leftToRight (operators : List (String × BinaryOperator)) (operand : Reader Expr) : Reader Expr := do
  let start ← here
  let first ← operand
  let rest ← many do
    let token ← peek
    match operators.find? fun entry => isOperator token entry.1 with
    | some (_, operator) => attempt true do
      skip
      return (operator, ← operand)
    | none => return none
  return rest.foldl (fun left (operator, right) => .binary start operator left right) first

/-- The operators between values, weakest first. -/
def strengths : List (List (String × BinaryOperator)) := [
  [("|", .bitOr)], [("^", .bitXor)], [("&", .bitAnd)], [("<<", .leftShift), (">>", .rightShift)],
  [("+", .add), ("-", .subtract)],
  [("*", .multiply), ("//", .floorDivide), ("/", .divide), ("%", .modulo), ("@", .matrixMultiply)]]

/-- The comparison that comes next, if one does. -/
def comparison? : Reader (Option Comparison) := do
  let token ← peek
  let table : List (String × Comparison) := [("==", .equal), ("!=", .notEqual), ("<=", .lessEqual), ("<", .less),
    (">=", .greaterEqual), (">", .greater)]
  match table.find? fun entry => isOperator token entry.1 with
  | some (_, c) =>
    skip
    return some c
  | none =>
    if isWord token "in" then
      skip
      return some .isIn
    else if isWord token "is" then
      skip
      if ← accept "not" then return some .isNot else return some .is
    else if isWord token "not" then
      if isWord (← peekAt 1) "in" then
        skip
        skip
        return some .notIn
      else return none
    else return none

def comparisonRule (self : Rules) : Reader Expr := do
  let start ← here
  let left ← self .bitOr
  let rest ← many (attempt true do
    match ← comparison? with
    | some c => return (c, ← self .bitOr)
    | none => refuse)
  return if rest.isEmpty then left else .compare start left rest

def inversionRule (self : Rules) : Reader Expr := do
  let start ← here
  if ← accept "not" then return .unary start .not (← self .inversion) else comparisonRule self

/-- Parts joined by a word. -/
def joinedBy (word : String) (build : Place → List Expr → Expr) (part : Reader Expr) : Reader Expr := do
  let start ← here
  let first ← part
  let rest ← many do
    if ← at? word then
      attempt true do
        skip
        part
    else return none
  return if rest.isEmpty then first else build start (first :: rest)

def disjunctionRule (self : Rules) : Reader Expr :=
  joinedBy "or" .either (joinedBy "and" .both (self .inversion))

def bitOrRule (self : Rules) : Reader Expr := strengths.foldr leftToRight (self .factor)

def factorRule (self : Rules) : Reader Expr := do
  let start ← here
  let signs : List (String × UnaryOperator) := [("+", .positive), ("-", .negative), ("~", .invert)]
  let token ← peek
  match signs.find? fun entry => isOperator token entry.1 with
  | some (_, operator) =>
    skip
    return .unary start operator (← self .factor)
  | none =>
    let base ← if ← accept "await" then return .await start (← self .primary) else self .primary
    if ← at? "**" then
      let raised ← attempt true do
        skip
        self .factor
      return (raised.map (Expr.binary start .power base)).getD base
    else return base

/-- An expression with a star, or one that may bind a name. -/
def starNamed (self : Rules) : Reader Expr := do
  let start ← here
  if ← accept "*" then return .starred start (← self .bitOr) else self .named

/-- An expression with a star. -/
def starredRule (self : Rules) : Reader Expr := do
  let start ← here
  expect "*"
  return .starred start (← self .expression)

/-- The targets of a loop or a comprehension, up to the word `in`. -/
def loopTargets (self : Rules) : Reader Expr := do
  let before ← get
  let start ← here
  let item : Reader (Option Expr) := attempt true do
    let start ← here
    if ← accept "*" then return .starred start (← self .primary) else self .primary
  let (items, trailing) ← separated "," item
  let target ← match items, trailing with
    | [], _ => pure none
    | [e], false => pure (some e)
    | items, _ => pure (some (.tuple start items))
  match target with
  | some e => if (← at? "in") && e.isTarget then return e
  | none => pure ()
  goBackFrom before
  match ← attempt false (self .stars) with
  | some wrong => failTarget .loop wrong
  | none => refuse

/-- Whether the clauses of a comprehension come next. -/
def atClause? : Reader Bool := do
  if ← at? "for" then return true
  else if ← at? "async" then return isWord (← peekAt 1) "for"
  else return false

/-- The first item in brackets. -/
def firstItem (self : Rules) : Reader Expr := do
  if (← at? "*") && !(← get).quiet then
    let found ← attempt true do
      let e ← starNamed self
      if (← atAny? [",", ")", "]", "\x7d"]) || (← atClause?) then return e else refuse
    match found with
    | some e => return e
    | none =>
      let _ ← starredRule self
      refuse
  else starNamed self

/-- The clauses of a comprehension. -/
def clauses (self : Rules) : Reader (List (Clause Expr)) :=
  many do
    if ← atClause? then
      let isAsync ← accept "async"
      skip
      let target ← loopTargets self
      expect "in"
      let source ← self .disjunction
      let conditions ← many do
        if ← accept "if" then return some (← self .disjunction) else return none
      return some ⟨target, source, conditions, isAsync⟩
    else return none

def yieldRule (self : Rules) : Reader Expr := do
  let start ← here
  expect "yield"
  if ← accept "from" then return .yieldFrom start (← self .expression)
  else if startsExpression (← peek) || (← at? "*") then return .yield start (some (← self .stars))
  else return .yield start none

/-- What stands in round brackets: nothing, one expression, several, or a generator. -/
def roundRule (self : Rules) : Reader Expr := do
  let start ← here
  expect "("
  if ← accept ")" then return .tuple start []
  if ← at? "yield" then
    let e ← yieldRule self
    expect ")"
    return e
  if ← at? "**" then
    let line := (← peek).line
    skip
    let _ ← self .expression
    expect ")"
    fail line "cannot use double starred expression here"
  let first ← firstItem self
  let isStarred := match first with
    | .starred _ _ => true
    | _ => false
  if ← atClause? then
    if isStarred then
      let _ ← clauses self
      fail first.place.line "iterable unpacking cannot be used in comprehension"
    let clauses ← clauses self
    expect ")"
    return .comprehension start .generator first none clauses
  if ← accept "," then
    let (rest, _) ← separated "," (attempt true (starNamed self))
    expect ")"
    return .tuple start (first :: rest)
  if isStarred then
    if ← at? ")" then fail first.place.line "cannot use starred expression here" else refuse
  expect ")"
  return first

/-- The fault of a comprehension over several expressions without brackets around them. -/
def missingBrackets {α : Type} (line : Nat) : Reader α :=
  fail line "did you forget parentheses around the comprehension target?"

/-- What stands in square brackets. -/
def squareRule (self : Rules) : Reader Expr := do
  let start ← here
  expect "["
  if ← accept "]" then return .list start []
  let first ← firstItem self
  if ← atClause? then
    let found ← clauses self
    match first with
    | .starred p _ => fail p.line "iterable unpacking cannot be used in comprehension"
    | _ => pure ()
    expect "]"
    return .comprehension start .list first none found
  if ← accept "," then
    let (rest, _) ← separated "," (attempt true (starNamed self))
    if ← atClause? then
      let _ ← clauses self
      missingBrackets first.place.line
    expect "]"
    return .list start (first :: rest)
  expect "]"
  return .list start [first]

/-- The value after a key and a colon. -/
def entryValue (self : Rules) (key : Expr) : Reader Expr := do
  let token ← peek
  if isOperator token "*" then
    skip
    let _ ← self .bitOr
    failCertainly token.line "cannot use a starred expression in a dictionary value"
  else if isOperator token "\x7d" || isOperator token "," then
    failCertainly key.place.line "expression expected after dictionary key and ':'"
  else self .expression

/-- An entry of a dict behind the first. -/
def entry (self : Rules) : Reader (Option (Option Expr × Expr)) := do
  if ← at? "\x7d" then return none
  else if ← accept "**" then return some (none, ← self .bitOr)
  else
    let key ← match ← attemptQuietly (self .expression) with
      | some key => pure key
      | none => self .expression
    if ← accept ":" then return some (some key, ← entryValue self key)
    else failCertainly key.place.line "':' expected after dictionary key"

/-- What stands in curly brackets: a dict or a set. -/
def curlyRule (self : Rules) : Reader Expr := do
  let start ← here
  expect "\x7b"
  if ← accept "\x7d" then return .dict start []
  let rest (first : Option Expr × Expr) : Reader Expr := do
    let more ← if ← accept "," then pure (← separated "," (entry self)).1 else pure []
    expect "\x7d"
    return .dict start (first :: more)
  if ← at? "**" then
    let line := (← peek).line
    skip
    let source ← self .bitOr
    if ← atClause? then
      let _ ← clauses self
      expect "\x7d"
      fail line "dict unpacking cannot be used in dict comprehension"
    rest (none, source)
  else
    let first ← firstItem self
    if ← at? ":" then
      skip
      let value ← entryValue self first
      if ← atClause? then
        let found ← clauses self
        expect "\x7d"
        return .comprehension start .dict first (some value) found
      rest (some first, value)
    else if ← atClause? then
      let found ← clauses self
      match first with
      | .starred p _ => fail p.line "iterable unpacking cannot be used in comprehension"
      | _ => pure ()
      expect "\x7d"
      return .comprehension start .set first none found
    else
      let more ← if ← accept "," then pure (← separated "," (attempt true (starNamed self))).1 else pure []
      if ← atClause? then
        let _ ← clauses self
        missingBrackets first.place.line
      expect "\x7d"
      return .set start (first :: more)

/-- Reads the source of a value inside a text literal. -/
def innerExpr (self : Rules) (line : Nat) (source : Text) : Reader Expr := fun before =>
  let within : Text := "(" ++ source ++ ")"
  let tokens := TokenList.ofTextAt line within
  match self .stars ⟨tokens.tokens, tokens.ending, 0, 0, 0, some within, false⟩ with
  | .ok e _ => .ok e before
  | .error refusal after =>
    let fault := faultOf refusal after
    -- Of a value that spans lines only the line of the fault is shown.
    let shown := fault.within.map fun t => if t == within then linesOfText t (fault.line - line + 1) (fault.line - line + 1) else t
    .error (.certain { fault with within := shown }) before

/-- Joins texts that stand side by side. -/
def mergeTexts (place : Place) : List Expr → List Expr
  | [] => []
  | .constant p (.text a) :: rest =>
    match mergeTexts place rest with
    | .constant _ (.text b) :: more => .constant p (.text (a ++ b)) :: more
    | more => if a.isEmpty then more else .constant p (.text a) :: more
  | e :: rest => e :: mergeTexts place rest

mutual

/-- The expressions of the pieces of a text literal. -/
def pieceExprs (self : Rules) (place : Place) : List Literal.Piece → Reader (List Expr)
  | [] => return []
  | piece :: rest => do
    let e ← pieceExpr self place piece
    return e :: (← pieceExprs self place rest)

def pieceExpr (self : Rules) (place : Place) : Literal.Piece → Reader Expr
  | .text t => return .constant place (.text t)
  | .fault words => do
    let line ← fetchedLine
    let r ← get
    throw (.certain ⟨.syntaxFault, line, words, r.within⟩)
  | .value source lines conversion spec => do
    let value ← innerExpr self (place.line + lines) source
    match spec with
    | none => return .formatted place value conversion none
    | some pieces =>
      let spec ← pieceExprs self place pieces
      return .formatted place value conversion (some (.joined place (mergeTexts place spec)))

end

/-- Text literals side by side: one text, octets, or text with values. -/
def stringsRule (self : Rules) : Reader Expr := do
  let start ← here
  let tokens ← many do
    let token ← peek
    if token.kind == .string then
      skip
      return some token
    else return none
  let mut octets : Bytes := []
  let mut pieces : List Expr := []
  let mut sort : Option Bool := none
  let mut hasValues := false
  for token in tokens do
    let place : Place := ⟨token.line, token.column⟩
    match Literal.quoted token.points with
    | .error words =>
      let line ← if Text.startsWith words "bytes can only" then pure token.line else fetchedLine
      failCertainly line words
    | .ok quoted =>
      let isBytes := match quoted with
        | .bytes _ => true
        | _ => false
      if sort == some !isBytes then
        failCertainly (← fetchedLine) "cannot mix bytes and nonbytes literals"
      sort := some isBytes
      match quoted with
      | .bytes b => octets := octets ++ b
      | .text t => pieces := pieces ++ [.constant place (.text t)]
      | .pieces inner =>
        hasValues := true
        pieces := pieces ++ (← pieceExprs self place inner)
  if sort == some true then return .constant start (.bytes octets)
  else if hasValues then return .joined start (mergeTexts start pieces)
  else match mergeTexts start pieces with
    | [.constant _ c] => return .constant start c
    | _ => return .constant start (.text [])

def atomRule (self : Rules) : Reader Expr := do
  let token ← peek
  let start ← here
  match token.kind with
  | .name =>
    if isName token then
      skip
      return .name start token.points
    else if token.points.is "None" then
      skip
      return .constant start .none
    else if token.points.is "True" then
      skip
      return .constant start (.bool true)
    else if token.points.is "False" then
      skip
      return .constant start (.bool false)
    else refuse
  | .string => stringsRule self
  | .number =>
    skip
    match Literal.number token.points with
    | .ok c => return .constant start c
    | .error words => failCertainly token.line words
  | .operator =>
    if token.points.is "(" then roundRule self
    else if token.points.is "[" then squareRule self
    else if token.points.is "\x7b" then curlyRule self
    else if token.points.is "..." then
      skip
      return .constant start .ellipsis
    else refuse
  | _ => refuse

/-- One item of a subscript. -/
def sliceRule (self : Rules) : Reader Expr := do
  let start ← here
  if ← at? "*" then return ← starredRule self
  let part (ends : List String) : Reader (Option Expr) := do
    if ← atAny? ends then return none else return some (← self .expression)
  let lower ← if ← at? ":" then pure none else pure (some (← self .named))
  if ← accept ":" then
    let upper ← part [":", ",", "]"]
    let step ← if ← accept ":" then part [",", "]"] else pure none
    return .slice start lower upper step
  else match lower with
    | some e => return e
    | none => refuse

def subscriptRule (self : Rules) : Reader Expr := do
  let start ← here
  let (items, trailing) ← separated "," do
    if ← at? "]" then return none else return some (← sliceRule self)
  expect "]"
  match items, trailing with
  | [], _ => refuse
  | [.starred p e], _ => return .tuple start [.starred p e]
  | [e], false => return e
  | items, _ => return .tuple start items

/-- The arguments of a call so far. -/
structure Arguments where
  positional : List Expr
  named : List (Option Text × Expr)
  deriving Inhabited

def Arguments.unpacksDict (a : Arguments) : Bool := a.named.any fun entry => entry.1.isNone

def Arguments.isEmpty (a : Arguments) : Bool := a.positional.isEmpty && a.named.isEmpty

/-- One argument, added to those before it; `strict` says what is wrong with a named one. -/
def argument (self : Rules) (strict : Bool) (a : Arguments) : Reader Arguments := do
  let token ← peek
  if isOperator token "*" then
    if a.unpacksDict then refuse
    return { a with positional := a.positional ++ [← starredRule self] }
  if isOperator token "**" then
    skip
    return { a with named := a.named ++ [(none, ← self .expression)] }
  let isLiteral := ["True", "False", "None"].any fun w => isWord token w
  let following ← if isName token || isLiteral then peekAt 1 else pure default
  if isName token && isOperator following "=" then
    skip
    skip
    let e ← self .expression
    if strict && (← atClause?) then
      let _ ← clauses self
      fail token.line "invalid syntax. Maybe you meant '==' or ':=' instead of '='?"
    return { a with named := a.named ++ [(some token.points, e)] }
  if strict && isLiteral && isOperator following "=" then fail token.line ("cannot assign to " ++ token.points)
  let binds := isName token && isOperator following ":=" && a.named.isEmpty
  let e ← if binds then self .named else self .expression
  if ← at? ":=" then refuse
  if ← at? "=" then
    if strict && !binds then fail token.line "expression cannot contain assignment, perhaps you meant \"==\"?"
    refuse
  if !a.named.isEmpty then refuse
  return { a with positional := a.positional ++ [e] }

/-- Arguments with commas between them, up to the first that does not fit. -/
def argumentsFrom (self : Rules) (strict : Bool) : Nat → Arguments → Reader Arguments
  | 0, a => return a
  | fuel + 1, a => do
    let before ← get
    if !a.isEmpty then
      if !(← accept ",") then return a
    match ← attempt true (argument self strict a) with
    | some a => argumentsFrom self strict fuel a
    | none =>
      goBackFrom before
      return a

/-- One or more arguments. -/
def someArguments (self : Rules) (strict : Bool) : Reader Arguments := do
  let a ← argumentsFrom self strict (← bound) ⟨[], []⟩
  if a.isEmpty then refuse else return a

/-- The clauses of a comprehension, at least one. -/
def someClauses (self : Rules) : Reader (List (Clause Expr)) := do
  if ← atClause? then clauses self else refuse

/-- Says what is wrong with arguments as a whole. -/
def checkArguments (self : Rules) (isCall : Bool) : Reader Unit := do
  let before ← get
  let start ← here
  if isCall then
    let unpacks ← attempt true do
      let _ ← starredRule self
      let _ ← someClauses self
    if unpacks.isSome then fail start.line "iterable unpacking cannot be used in comprehension"
  let star ← attempt true do
    let _ ← someArguments self true
    expect ","
    expect "*"
  if star.isSome then fail start.line "iterable argument unpacking follows keyword argument unpacking"
  let bracketsWords : Text := "Generator expression must be parenthesized"
  let generator ← attempt true do
    let _ ← self .expression
    let _ ← someClauses self
    expect ","
    if (← attempt true (someArguments self true)).isNone then
      let _ ← attempt true do
        let _ ← self .expression
        someClauses self
  if generator.isSome then fail start.line bracketsWords
  let behind ← attempt true do
    let a ← someArguments self true
    let _ ← someClauses self
    match a.positional with
    | _ :: _ :: _ => return (a.positional.getLast?.map fun e => e.place.line).getD 0
    | _ => refuse
  if let some line := behind then fail line bracketsWords
  let later ← attempt true do
    let _ ← someArguments self true
    expect ","
    let line := (← peek).line
    let _ ← self .expression
    let _ ← someClauses self
    return line
  if let some line := later then fail line bracketsWords
  let order ← attempt true do
    let a ← someArguments self true
    expect ","
    let _ ← someArguments self true
    return a.unpacksDict
  if let some unpacks := order then
    fail (← fetchedLine) (if unpacks then "positional argument follows keyword argument unpacking"
      else "positional argument follows keyword argument")
  goBackFrom before

/-- The arguments in the brackets of a call, of which the first is at the given place, or of a class; a lone generator
needs no brackets of its own in a call. -/
def argumentsRule (self : Rules) (call : Option Place) : Reader Arguments := do
  let before ← get
  let a ← argumentsFrom self false (← bound) ⟨[], []⟩
  let bare ← match call, a with
    | some _, ⟨[.starred _ _], []⟩ => pure none
    | some start, ⟨[item], []⟩ => if ← atClause? then pure (some (start, item)) else pure none
    | _, _ => pure none
  match bare with
  | some (start, item) =>
    let found ← clauses self
    if ← accept ")" then return ⟨[.comprehension start .generator item none found], []⟩
  | none =>
    if !a.isEmpty then
      let _ ← accept ","
    if ← accept ")" then return a
  if (← get).quiet then refuse
  goBackFrom before
  checkArguments self call.isSome
  refuse

/-- A curly bracket where none fits: says so if the first things in it are wrong. -/
def checkCurly (self : Rules) : Reader Unit := do
  let before ← get
  if !before.quiet && (← at? "\x7b") then
    let _ ← attempt false do
      skip
      let first ← firstItem self
      expect ","
      let _ ← separated "," (attempt true (starNamed self))
      if ← atClause? then
        let _ ← clauses self
        missingBrackets first.place.line
    goBack before

/-- What follows an atom: attributes, calls and subscripts. -/
def trailersFrom (self : Rules) (start : Place) : Nat → Expr → Reader Expr
  | 0, e => return e
  | fuel + 1, e => do
    if ← at? "." then
      let found ← attempt true do
        skip
        takeName
      match found with
      | some name => trailersFrom self start fuel (.attribute start e name)
      | none => return e
    else if ← at? "(" then
      let open_ ← here
      let found ← attempt true do
        skip
        argumentsRule self (some open_)
      match found with
      | some a => trailersFrom self start fuel (.call start e a.positional a.named)
      | none => return e
    else if ← at? "[" then
      let found ← attempt true do
        skip
        subscriptRule self
      match found with
      | some index => trailersFrom self start fuel (.subscript start e index)
      | none => return e
    else
      checkCurly self
      return e

def primaryRule (self : Rules) : Reader Expr := do
  let start ← here
  let e ← atomRule self
  trailersFrom self start (← bound) e

/-- The words for parameters of the two sorts of function. -/
structure ParameterWords where
  annotated : Bool
  closing : String
  inBrackets : Text

def definitionWords : ParameterWords := ⟨true, ")", "Function parameters cannot be parenthesized"⟩

def lambdaWords : ParameterWords := ⟨false, ":", "Lambda expression parameters cannot be parenthesized"⟩

/-- A parameter's name and what it is annotated with. -/
def parameterHead (self : Rules) (words : ParameterWords) : Reader (Parameter Expr) := do
  let line := (← peek).line
  let name ← takeName
  let annotation ← if words.annotated then
      if ← accept ":" then pure (some (← self .expression)) else pure none
    else pure none
  return ⟨name, annotation, none, line⟩

/-- What stands after a parameter: a comma, or what closes the parameters. -/
def parameterEnd (words : ParameterWords) : Reader Unit := do
  if !(← accept ",") && !(← at? words.closing) then refuse

/-- The default of a parameter, which comes next. -/
def defaultRule (self : Rules) : Reader Expr := do
  let token ← peek
  expect "="
  match ← attempt true (self .expression) with
  | some e => return e
  | none => if ← atAny? [")", ","] then fail token.line "expected default value expression" else refuse

/-- A parameter without a default, or with a star before it. -/
def plainParameter (self : Rules) (words : ParameterWords) : Reader (Parameter Expr) := do
  let p ← parameterHead self words
  parameterEnd words
  return p

def defaultParameter (self : Rules) (words : ParameterWords) : Reader (Parameter Expr) := do
  let p ← parameterHead self words
  let value ← defaultRule self
  parameterEnd words
  return { p with default := some value }

def anyParameter (self : Rules) (words : ParameterWords) : Reader (Parameter Expr) := do
  let p ← parameterHead self words
  let value ← if ← at? "=" then pure (some (← defaultRule self)) else pure none
  parameterEnd words
  return { p with default := value }

def manyOf {α : Type} (p : Reader α) : Reader (List α) := many (attempt true p)

/-- One or more. -/
def someOf {α : Type} (p : Reader α) : Reader (List α) := do
  let found ← manyOf p
  if found.isEmpty then refuse else return found

/-- Parameters up to a slash, some of them with defaults if `defaults` holds. -/
def slashed (self : Rules) (words : ParameterWords) (defaults : Bool) : Reader (List (Parameter Expr)) := do
  let plain ← manyOf (plainParameter self words)
  let others ← if defaults then someOf (defaultParameter self words) else pure []
  if plain.isEmpty && others.isEmpty then refuse
  expect "/"
  parameterEnd words
  return plain ++ others

/-- The parameter that takes all named arguments that are left; `strict` says what is wrong with it. -/
def keywordsRule (self : Rules) (words : ParameterWords) (strict : Bool) : Reader (Parameter Expr) := do
  if strict then
    let before ← get
    let wrong ← attempt true do
      expect "**"
      let _ ← parameterHead self words
      let token ← peek
      if ← accept "=" then return (token.line, "var-keyword argument cannot have default value")
      expect ","
      let next ← peek
      if ["*", "**", "/"].any fun s => isOperator next s then
        return (next.line, "arguments cannot follow var-keyword argument")
      let _ ← parameterHead self words
      return (next.line, "arguments cannot follow var-keyword argument")
    match wrong with
    | some (line, message) => fail line (Text.ofString message)
    | none => goBackFrom before
  expect "**"
  plainParameter self words

/-- Says what is wrong with the parameters from a star on. -/
def checkStar (self : Rules) (words : ParameterWords) : Reader Unit := do
  let before ← get
  let line := (← peek).line
  let bare ← attempt true do
    expect "*"
    if !(← at? words.closing) then
      expect ","
      if !(← atAny? [words.closing, "**"]) then refuse
  if bare.isSome then fail line "named arguments must follow bare *"
  let withDefault ← attempt true do
    expect "*"
    let _ ← parameterHead self words
    let token ← peek
    expect "="
    return token.line
  if let some line := withDefault then fail line "var-positional argument cannot have default value"
  let another ← attempt true do
    expect "*"
    if !(← accept ",") then
      let _ ← plainParameter self words
    let _ ← manyOf (anyParameter self words)
    let token ← peek
    expect "*"
    if !(← accept ",") then
      let _ ← plainParameter self words
    return token.line
  if let some line := another then fail line "* argument may appear only once"
  goBackFrom before

/-- The parameters from a star on. -/
def starRule (self : Rules) (words : ParameterWords) (strict : Bool) (p : Parameters Expr) :
    Reader (Parameters Expr) := do
  if ← at? "**" then return { p with keywords := some (← keywordsRule self words strict) }
  if strict then checkStar self words
  expect "*"
  let ending (p : Parameters Expr) : Reader (Parameters Expr) := do
    if ← at? "**" then
      match ← attempt true (keywordsRule self words strict) with
      | some keywords => return { p with keywords := some keywords }
      | none => return p
    else return p
  if ← accept "," then
    let named ← someOf (anyParameter self words)
    ending { p with keywordOnly := named }
  else
    let starredAnnotation : Reader (Parameter Expr) := do
      let line := (← peek).line
      let name ← takeName
      expect ":"
      let start ← here
      expect "*"
      let e ← self .bitOr
      parameterEnd words
      return ⟨name, some (.starred start e), none, line⟩
    let variadic ← match ← attempt true (plainParameter self words) with
      | some variadic => pure variadic
      | none => if words.annotated then starredAnnotation else refuse
    let named ← manyOf (anyParameter self words)
    ending { p with variadic := some variadic, keywordOnly := named }

/-- Parameters as they have to be; `strict` says what is wrong with those from a star on. -/
def wellFormedParameters (self : Rules) (words : ParameterWords) (strict : Bool) : Reader (Parameters Expr) := do
  let plain := plainParameter self words
  let withDefault := defaultParameter self words
  let (positionalOnly, positional) ← match ← attempt true (slashed self words false) with
    | some before => pure (before, (← manyOf plain) ++ (← manyOf withDefault))
    | none => match ← attempt true (slashed self words true) with
      | some before => pure (before, ← manyOf withDefault)
      | none => pure ([], (← manyOf plain) ++ (← manyOf withDefault))
  let p : Parameters Expr := ⟨positionalOnly, positional, none, [], none⟩
  if ← atAny? ["*", "**"] then
    match ← attempt true (starRule self words strict p) with
    | some p => return p
    | none => return p
  else return p

/-- Says what is wrong with parameters as a whole. -/
def checkParameters (self : Rules) (words : ParameterWords) : Reader Unit := do
  let before ← get
  let plain := plainParameter self words
  let any := anyParameter self words
  let late ← attempt true do
    let _ ← manyOf plain
    if (← attempt true (slashed self words true)).isNone then
      let _ ← someOf (defaultParameter self words)
    let token ← peek
    let _ ← plain
    return token.line
  if let some line := late then fail line "non-default argument follows default argument"
  let inBrackets ← attempt true do
    let _ ← manyOf plain
    let token ← peek
    expect "("
    if words.annotated then
      let _ ← someOf plain
      let _ ← accept ","
    else
      let (names, _) ← separated "," (attempt true takeName)
      if names.isEmpty then refuse
    expect ")"
    return token.line
  if let some line := inBrackets then fail line words.inBrackets
  let token ← peek
  if isOperator token "/" then
    if isOperator (← peekAt 1) "," then fail token.line "at least one argument must precede /"
  let eitherSlashed : Reader Unit := do
    if (← attempt true (slashed self words false)).isNone then
      let _ ← slashed self words true
  let again ← attempt true do
    eitherSlashed
    let _ ← manyOf any
    let token ← peek
    expect "/"
    return token.line
  if let some line := again then fail line "/ may appear only once"
  let behind ← attempt true do
    let _ ← attempt true eitherSlashed
    let _ ← manyOf any
    expect "*"
    if !(← accept ",") then
      let _ ← plain
    let _ ← manyOf any
    let token ← peek
    expect "/"
    return token.line
  if let some line := behind then fail line "/ must be ahead of *"
  let joined ← attempt true do
    let _ ← someOf any
    expect "/"
    let token ← peek
    expect "*"
    return token.line
  if let some line := joined then fail line "expected comma between / and *"
  goBackFrom before

/-- The parameters of a function, up to the sign that closes them. -/
def parametersRule (self : Rules) (words : ParameterWords) : Reader (Parameters Expr) := do
  let before ← get
  let p ← wellFormedParameters self words false
  if ← at? words.closing then return p
  goBackFrom before
  checkParameters self words
  wellFormedParameters self words true

def lambdaRule (self : Rules) : Reader Expr := do
  let start ← here
  expect "lambda"
  let parameters ← parametersRule self lambdaWords
  expect ":"
  return .lambda start parameters (← self .expression)

/-- The functions that were once statements. -/
def isOldStatement (token : Token) : Bool := isWord token "print" || isWord token "exec"

/-- Whether a name begins a word that is a keyword in some places. -/
def isSoftWord (token : Token) : Bool :=
  isName token && ["_", "case", "match"].any fun w => Text.startsWith (Text.ofString w) token.points

/-- A condition after an expression: says so if the other value is missing. -/
def checkConditional (self : Rules) : Reader Unit := do
  let before ← get
  let line := (← previous).line
  if ← accept "if" then
    if (← attemptQuietly (self .disjunction)).isSome then
      if !(← atAny? ["else", ":"]) then fail line "expected 'else' after 'if' expression"
  goBack before

/-- An expression stands where none fits: says so if a comma or a pair of brackets is missing before it. `before` is
where the expression before it began. -/
def checkNeighbour (self : Rules) : Nat → Reading → Reader Unit
  | 0, _ => return ()
  | fuel + 1, before => do
    if startsExpression (← peek) then
      let after ← get
      let first := (before.tokens[before.next]?).getD default
      let second := (before.tokens[before.next + 1]?).getD default
      let old := isOldStatement first
      let isBlocked := isSoftWord first || (isName first && second.kind == .string)
      if !isBlocked then
        let found ← attemptQuietly (self .expression)
        if found.isSome && !(old && after.next == before.next + 1) && (← previous).level != 0 then
          fail first.line "invalid syntax. Perhaps you forgot a comma?"
        goBack after
      -- A name before the rest of a line was a statement once; the rest may have faults of its own.
      if isName first && !isOperator second "(" then
        goBackFrom { before with next := before.next + 1 }
        let rest ← get
        let found ← if isBlocked then do pure (← attempt true (self .stars)).isSome
          else if ← at? "lambda" then do pure (← attemptQuietly (self .expression)).isSome
          else do
            let found ← attemptQuietly (self .disjunction)
            if found.isSome then
              checkConditional self
              checkNeighbour self fuel rest
              if ← accept "," then
                let _ ← attempt true (self .stars)
            pure found.isSome
        if found && old then
          fail first.line ("Missing parentheses in call to '" ++ first.points ++ "'. Did you mean " ++ first.points
            ++ "(...)?")
      goBack after

def expressionRule (self : Rules) : Reader Expr := do
  if ← at? "lambda" then lambdaRule self
  else
    let start ← here
    let before ← get
    let e ← self .disjunction
    if ← at? "if" then
      let reached ← get
      let test ← attempt true do
        skip
        self .disjunction
      match test with
      | some test =>
        if ← at? "else" then
          let otherwise ← attempt true do
            skip
            self .expression
          match otherwise with
          | some otherwise => return .conditional start test e otherwise
          | none => goBackFrom reached
        else if !before.quiet && !(← at? ":") then fail start.line "expected 'else' after 'if' expression"
        else goBackFrom reached
      | none => pure ()
    else if !before.quiet then checkNeighbour self (← bound) before
    return e

/-- Says what is wrong with an equals sign after an expression that ought to be a condition or an item. -/
def checkEquals (self : Rules) (before : Reading) (start : Place) : Reader Unit := do
  if !before.quiet && (← at? "=") then
    let after ← get
    let first := (before.tokens[before.next]?).getD default
    let second := (before.tokens[before.next + 1]?).getD default
    let rightSide : Reader Unit := do
      expect "="
      let _ ← self .bitOr
      if ← atAny? ["=", ":="] then refuse
    if isName first && isOperator second "=" then
      goBackFrom { before with next := before.next + 1 }
      if (← attempt false rightSide).isSome then
        fail start.line "invalid syntax. Maybe you meant '==' or ':=' instead of '='?"
    goBackFrom before
    let excluded := match ← attempt false (atomRule self) with
      | some (.list _ _) | some (.tuple _ _) | some (.comprehension _ .generator _ _ _)
      | some (.constant _ (.bool _)) | some (.constant _ .none) => true
      | _ => false
    if !excluded then
      goBackFrom before
      let found ← attempt false do
        let left ← self .bitOr
        rightSide
        return left
      match found with
      | some left =>
        fail start.line ("cannot assign to " ++ Text.ofString left.sort
          ++ " here. Maybe you meant '==' instead of '='?")
      | none => pure ()
    goBack after

def namedRule (self : Rules) : Reader Expr := do
  let start ← here
  let before ← get
  let token ← peek
  if isName token then
    if isOperator (← peekAt 1) ":=" then
      skip
      skip
      return .bind start (.name start token.points) (← self .expression)
  let e ← self .expression
  if ← at? ":=" then
    if before.quiet then refuse
    skip
    let _ ← self .expression
    fail start.line ("cannot use assignment expressions with " ++ Text.ofString e.sort)
  checkEquals self before start
  return e

def starsRule (self : Rules) : Reader Expr := do
  let start ← here
  let item : Reader Expr := do
    let start ← here
    if ← accept "*" then return .starred start (← self .bitOr) else self .expression
  let first ← item
  if ← accept "," then
    let (rest, _) ← separated "," do
      if startsExpression (← peek) || (← at? "*") then attempt true item else return none
    return .tuple start (first :: rest)
  else return first

/-- One layer of the rules over the layers below. -/
def rule (self : Rules) : Rules
  | .stars => starsRule self
  | .named => namedRule self
  | .expression => expressionRule self
  | .disjunction => disjunctionRule self
  | .inversion => inversionRule self
  | .bitOr => bitOrRule self
  | .factor => factorRule self
  | .primary => primaryRule self

/-- The rules, as deep as the fuel allows. -/
def rules : Nat → Goal → Reader Expr
  | 0, _ => refuse
  | depth + 1, goal => rule (rules depth) goal

end Grammar

end PhaseScript.Script
