import PhaseScript.Script.Grammar.Expression
/-
The rules for the patterns of a `match` statement. No script may hold one, so that a pattern is only checked for its
form and leaves nothing behind.
-/
set_option autoImplicit false

namespace PhaseScript.Script.Grammar

open Reader

/-- Takes a number, which has to be imaginary or must not be. -/
def numberPart (isImaginary : Bool) : Reader Unit := do
  let token ← peek
  expectKind .number
  let endsImaginary := token.points.getLast?.any fun p => p.is 'j' || p.is 'J'
  if endsImaginary != isImaginary then
    let sort : Text := if isImaginary then "imaginary" else "real"
    failCertainly token.line (sort ++ " number required in complex literal")

/-- A number with a sign and, after it, an imaginary part. -/
def numberPattern : Reader Unit := do
  let before ← get
  let _ ← accept "-"
  expectKind .number
  if ← atAny? ["+", "-"] then
    goBackFrom before
    let _ ← accept "-"
    numberPart false
    skip
    numberPart true

/-- A name that is bound, and nothing that a name may be the beginning of. -/
def captureName : Reader Unit := do
  let name ← takeName
  if name.is "_" || (← atAny? [".", "(", "="]) then refuse

/-- A name with at least one dot. -/
def dottedPattern : Reader Unit := do
  let _ ← takeName
  expect "."
  let _ ← takeName
  let _ ← many do
    if ← at? "." then
      attempt true do
        skip
        takeName
    else return none

/-- An item of a sequence: with a star it takes what is left. -/
def sequenceItem (self : Reader Unit) : Reader Unit := do
  if ← accept "*" then
    if isWord (← peek) "_" then skip else captureName
  else self

/-- Items with commas between them, at least one comma. -/
def openSequence (self : Reader Unit) : Reader Unit := do
  sequenceItem self
  expect ","
  let _ ← separated "," (attempt true (sequenceItem self))

/-- What stands in round brackets: one pattern or a sequence. -/
def roundPattern (self : Reader Unit) : Reader Unit := do
  skip
  let one ← attempt true do
    self
    expect ")"
  if one.isNone then
    if !(← at? ")") then openSequence self
    expect ")"

/-- A literal, which may be a key. -/
def literalPattern (expressions : Rules) : Reader Unit := do
  let token ← peek
  match token.kind with
  | .number => numberPattern
  | .string =>
    let _ ← stringsRule expressions
  | _ =>
    if isOperator token "-" then numberPattern
    else if ["None", "True", "False"].any fun w => isWord token w then skip
    else refuse

/-- The pattern for what is left of a mapping. -/
def restPattern : Reader Unit := do
  expect "**"
  captureName
  let _ ← accept ","

def mappingPattern (expressions : Rules) (self : Reader Unit) : Reader Unit := do
  skip
  let entry : Reader (Option Unit) := attempt true do
    if isName (← peek) then dottedPattern else literalPattern expressions
    expect ":"
    self
  let (items, trailing) ← separated "," entry
  if (items.isEmpty || trailing) && (← at? "**") then restPattern
  expect "\x7d"

/-- The arguments of a class pattern: named ones come after the others. -/
def classArguments (self : Reader Unit) : Reader Unit := do
  skip
  let atNamed : Reader Bool := do
    if isName (← peek) then return isOperator (← peekAt 1) "=" else return false
  let positional : Reader (Option Unit) := do
    if ← atNamed then return none else attempt true self
  let named : Reader (Option Unit) := do
    if ← atNamed then
      attempt true do
        skip
        skip
        self
    else return none
  let (first, trailing) ← separated "," positional
  if first.isEmpty || trailing then
    let (second, trailing) ← separated "," named
    if trailing then
      let line := (← peek).line
      if (← attempt false self).isSome && !second.isEmpty then
        fail line "positional patterns follow keyword patterns"
  expect ")"

/-- A pattern that begins with a name: it is bound, looked up, or the class of what it matches. -/
def namePattern (self : Reader Unit) : Reader Unit := do
  if isWord (← peek) "_" then skip
  else
    let captured ← attempt true captureName
    if captured.isNone then
      let dotted ← attempt true dottedPattern
      if dotted.isNone then
        let _ ← takeName
      if ← at? "(" then classArguments self
      else if dotted.isNone || (← at? "=") then refuse

/-- A pattern that is closed in itself; `self` reads a whole pattern. -/
def closedPattern (expressions : Rules) (self : Reader Unit) : Reader Unit := do
  let token ← peek
  if isName token then namePattern self
  else if isOperator token "(" then roundPattern self
  else if isOperator token "[" then
    skip
    let _ ← separated "," (attempt true (sequenceItem self))
    expect "]"
  else if isOperator token "\x7b" then mappingPattern expressions self
  else literalPattern expressions

/-- A pattern with its alternatives and its name. -/
def pattern (expressions : Rules) : Nat → Reader Unit
  | 0 => refuse
  | fuel + 1 => do
    closedPattern expressions (pattern expressions fuel)
    let _ ← many do
      if ← at? "|" then
        attempt true do
          skip
          closedPattern expressions (pattern expressions fuel)
      else return none
    let before ← get
    if ← accept "as" then
      let token ← peek
      if isWord token "_" then fail token.line "cannot use '_' as a target"
      if !isName token then
        if (← attempt true (expressions .expression)).isSome then fail token.line "invalid pattern target"
      if (← attempt true captureName).isNone then goBackFrom before

/-- The pattern of a case: one or several with commas between them. -/
def casePattern (expressions : Rules) : Reader Unit := do
  let fuel ← bound
  let several ← attempt true (openSequence (pattern expressions fuel))
  if several.isNone then pattern expressions fuel

end PhaseScript.Script.Grammar
