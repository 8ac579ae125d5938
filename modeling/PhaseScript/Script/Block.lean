import PhaseScript.Script.Syntax
/-
The names of the blocks of a script. A walk in the order of the text notes what is done to each name in each block and
ends at the first thing that no block allows: a name declared global too late, a parameter that comes twice, a name that
a comprehension binds in two ways, a `yield` inside a comprehension.
-/
set_option autoImplicit false

namespace PhaseScript.Script

/-- A fault found when the whole tree is known: where, and what. -/
structure CodeFault where
  line : Nat
  words : Text
  deriving DecidableEq, Repr, Inhabited

def CodeFault.message (fault : CodeFault) : Text :=
  fault.words ++ " (<plugin>, line " ++ Text.ofNat fault.line ++ ")"

namespace Block

/-- What is done to a name in a block. -/
inductive Deed where
  | parameter
  | bound
  | used
  | imported
  /-- Declared to be kept in the block around all. -/
  | global
  /-- Kept in a function around. -/
  | outer
  /-- Bound by a clause of a comprehension. -/
  | iterated
  deriving DecidableEq, Repr, Inhabited

inductive Kind where
  | script
  | function
  | class_
  | comprehension (kind : ComprehensionKind)
  deriving DecidableEq, Repr, Inhabited

end Block

/-- A block while it is walked through. -/
structure Block where
  kind : Block.Kind
  deeds : List (Text × Block.Deed)
  /-- Whether the source of a comprehension is walked through. -/
  inSource : Bool
  /-- Whether a target of a comprehension is walked through. -/
  inTarget : Bool
  deriving Inhabited

namespace Block

def has (b : Block) (name : Text) (deed : Deed) : Bool := b.deeds.contains (name, deed)

/-- A walk through blocks, the innermost first. -/
abbrev Walk := StateT (List Block) (Except CodeFault)

def failAt {α : Type} (line : Nat) (words : Text) : Walk α := throw ⟨line, words⟩

def inner : Walk Block := return (← get).headD default

def changeInner (f : Block → Block) : Walk Unit := modify fun blocks =>
  match blocks with
  | b :: rest => f b :: rest
  | [] => []

def inQuotes (name : Text) : Text := "'" ++ name ++ "'"

/-- Notes a deed in the innermost block. -/
def note (line : Nat) (name : Text) (deed : Deed) : Walk Unit := do
  let b ← inner
  if deed == .parameter && b.has name .parameter then
    failAt line ("duplicate argument " ++ inQuotes name ++ " in function definition")
  let isKeptElsewhere := b.has name .global || b.has name .outer || deed == .global || deed == .outer
  if b.inTarget && isKeptElsewhere then
    failAt line ("comprehension inner loop cannot rebind assignment expression target " ++ inQuotes name)
  let noted := (name, deed) :: b.deeds
  changeInner fun b => { b with deeds := if b.inTarget then (name, .iterated) :: noted else noted }

/-- Walks through something inside a block of its own. -/
def inside (kind : Kind) (walk : Walk Unit) : Walk Unit := do
  let b ← inner
  modify fun blocks => ⟨kind, [], b.inSource, false⟩ :: blocks
  walk
  modify List.tail

/-- Declares a name global. -/
def declare (line : Nat) (name : Text) : Walk Unit := do
  let b ← inner
  let refuse (words : String) : Walk Unit := failAt line ("name " ++ inQuotes name ++ " " ++ Text.ofString words)
  if b.has name .parameter then refuse "is parameter and global"
  else if b.has name .used then refuse "is used prior to global declaration"
  else if b.has name .bound then refuse "is assigned to before global declaration"
  note line name .global

/-- Notes a deed in the block that stands so far out. -/
def noteAround (depth : Nat) (name : Text) (deed : Deed) : Walk Unit := modify fun blocks =>
  blocks.modify depth fun b => { b with deeds := (name, deed) :: b.deeds }

/-- A name that is bound inside a comprehension belongs to the nearest block that is none. -/
def bindAround (line : Nat) (name : Text) : Nat → List Block → Walk Unit
  | _, [] => return ()
  | depth, b :: rest => do
    match b.kind with
    | .comprehension _ =>
      if b.has name .iterated then
        failAt line ("assignment expression cannot rebind comprehension iteration variable " ++ inQuotes name)
      bindAround line name (depth + 1) rest
    | .function =>
      note line name (if b.has name .global then .global else .outer)
      noteAround depth name .bound
    | .script =>
      note line name .global
      noteAround depth name .global
    | .class_ => failAt line "assignment expression within a comprehension cannot be used in a class body"

def comprehensionName : ComprehensionKind → String
  | .list => "list comprehension"
  | .set => "set comprehension"
  | .dict => "dict comprehension"
  | .generator => "generator expression"

/-- A `yield` must not stand inside a comprehension. -/
def checkYield (line : Nat) : Walk Unit := do
  match (← inner).kind with
  | .comprehension kind => failAt line ("'yield' inside " ++ Text.ofString (comprehensionName kind))
  | _ => return ()

/-- Walks through the source of a comprehension, where no name may be bound, not even in a block inside. -/
def asSource (walk : Walk Unit) : Walk Unit := do
  let before := (← inner).inSource
  changeInner fun b => { b with inSource := true }
  walk
  changeInner fun b => { b with inSource := before }

def asTarget (walk : Walk Unit) : Walk Unit := do
  changeInner fun b => { b with inTarget := true }
  walk
  changeInner fun b => { b with inTarget := false }

/-- The parameters of a function, noted in its block. -/
def noteParameters (p : Parameters Expr) : Walk Unit :=
  (p.positionalOnly ++ p.positional ++ p.keywordOnly ++ p.variadic.toList ++ p.keywords.toList).forM fun q =>
    note q.line q.name .parameter

mutual

/-- Walks through an expression; `isBound` tells whether it is a target. -/
def walkExpr (isBound : Bool) : Expr → Walk Unit
  | .constant _ _ => return ()
  | .name place name => note place.line name (if isBound then .bound else .used)
  | .attribute _ object _ => walkExpr false object
  | .subscript _ object index => do
    walkExpr false object
    walkExpr false index
  | .slice _ lower upper step => do
    walkOption lower
    walkOption upper
    walkOption step
  | .call _ function arguments named => do
    walkExpr false function
    walkExprs false arguments
    walkNamed named
  | .unary _ _ operand => walkExpr false operand
  | .binary _ _ left right => do
    walkExpr false left
    walkExpr false right
  | .both _ parts => walkExprs false parts
  | .either _ parts => walkExprs false parts
  | .compare _ left rest => do
    walkExpr false left
    walkRest rest
  | .conditional _ test whenTrue whenFalse => do
    walkExpr false test
    walkExpr false whenTrue
    walkExpr false whenFalse
  | .lambda _ parameters body => do
    walkDefaults parameters
    inside .function do
      noteParameters parameters
      walkExpr false body
  | .list _ items => walkExprs isBound items
  | .tuple _ items => walkExprs isBound items
  | .set _ items => walkExprs false items
  | .dict _ entries => do
    walkKeys entries
    walkValues entries
  | .comprehension _ kind item value clauses => do
    walkFirstSource clauses
    inside (.comprehension kind) do
      walkClauses true clauses
      walkOption value
      walkExpr false item
  | .bind place target value => do
    let b ← inner
    if b.inSource then
      failAt place.line "assignment expression cannot be used in a comprehension iterable expression"
    match b.kind, target with
    | .comprehension _, .name _ name => bindAround place.line name 0 (← get)
    | _, _ => pure ()
    walkExpr false value
    walkExpr true target
  | .starred _ value => walkExpr isBound value
  | .await _ value => walkExpr false value
  | .yield place value => do
    walkOption value
    checkYield place.line
  | .yieldFrom place source => do
    walkExpr false source
    checkYield place.line
  | .joined _ pieces => walkExprs false pieces
  | .formatted _ value _ spec => do
    walkExpr false value
    walkOption spec

def walkOption : Option Expr → Walk Unit
  | none => return ()
  | some e => walkExpr false e

def walkExprs (isBound : Bool) : List Expr → Walk Unit
  | [] => return ()
  | e :: rest => do
    walkExpr isBound e
    walkExprs isBound rest

def walkNamed : List (Option Text × Expr) → Walk Unit
  | [] => return ()
  | (_, e) :: rest => do
    walkExpr false e
    walkNamed rest

def walkRest : List (Comparison × Expr) → Walk Unit
  | [] => return ()
  | (_, e) :: rest => do
    walkExpr false e
    walkRest rest

def walkKeys : List (Option Expr × Expr) → Walk Unit
  | [] => return ()
  | (key, _) :: rest => do
    walkOption key
    walkKeys rest

def walkValues : List (Option Expr × Expr) → Walk Unit
  | [] => return ()
  | (_, value) :: rest => do
    walkExpr false value
    walkValues rest

/-- The source of the first clause belongs to the block around the comprehension. -/
def walkFirstSource : List (Clause Expr) → Walk Unit
  | [] => return ()
  | ⟨_, source, _, _⟩ :: _ => asSource (walkExpr false source)

def walkClauses (isFirst : Bool) : List (Clause Expr) → Walk Unit
  | [] => return ()
  | ⟨target, source, conditions, _⟩ :: rest => do
    asTarget (walkExpr true target)
    if !isFirst then asSource (walkExpr false source)
    walkExprs false conditions
    walkClauses false rest

def walkDefaults : Parameters Expr → Walk Unit
  | ⟨positionalOnly, positional, _, keywordOnly, _⟩ => do
    walkDefaultList positionalOnly
    walkDefaultList positional
    walkDefaultList keywordOnly

def walkDefaultList : List (Parameter Expr) → Walk Unit
  | [] => return ()
  | ⟨_, _, value, _⟩ :: rest => do
    walkOption value
    walkDefaultList rest

def walkAnnotations : Parameters Expr → Walk Unit
  | ⟨positionalOnly, positional, variadic, keywordOnly, keywords⟩ => do
    walkAnnotationList positionalOnly
    walkAnnotationList positional
    walkAnnotation variadic
    walkAnnotation keywords
    walkAnnotationList keywordOnly

def walkAnnotationList : List (Parameter Expr) → Walk Unit
  | [] => return ()
  | ⟨_, annotation, _, _⟩ :: rest => do
    walkOption annotation
    walkAnnotationList rest

def walkAnnotation : Option (Parameter Expr) → Walk Unit
  | none => return ()
  | some ⟨_, annotation, _, _⟩ => walkOption annotation

end

mutual

/-- Walks through a statement. -/
def walkStmt : Stmt → Walk Unit
  | .expr _ value => walkExpr false value
  | .assign _ targets value => do
    walkExprs true targets
    walkExpr false value
  | .augment _ target _ value => do
    walkExpr true target
    walkExpr false target
    walkExpr false value
  | .return_ _ value => walkOption value
  | .raise _ error cause => do
    walkOption error
    walkOption cause
  | .assert _ test message => do
    walkExpr false test
    walkOption message
  | .delete _ targets => walkExprs true targets
  | .pass _ | .break_ _ | .continue_ _ | .forbidden _ _ => return ()
  | .import_ place names => names.forM fun entry =>
    note place.line (entry.given.getD (entry.name.takeWhile fun p => !p.is '.')) .imported
  | .importFrom place _ names _ => names.forM fun entry =>
    note place.line (entry.given.getD entry.name) .imported
  | .global place names => names.forM (declare place.line)
  | .if_ _ test body orelse => do
    walkExpr false test
    walkStmts body
    walkStmts orelse
  | .while _ test body orelse => do
    walkExpr false test
    walkStmts body
    walkStmts orelse
  | .for_ _ target source body orelse => do
    walkExpr true target
    walkExpr false source
    walkStmts body
    walkStmts orelse
  | .try_ _ body handlers orelse finally_ => do
    walkStmts body
    walkStmts orelse
    walkHandlers handlers
    walkStmts finally_
  | .with_ _ items body => do
    walkItems items
    walkStmts body
  | .function place name parameters body decorators returns => do
    note place.line name .bound
    walkDefaults parameters
    walkAnnotations parameters
    walkOption returns
    walkExprs false decorators
    inside .function do
      noteParameters parameters
      walkStmts body
  | .class_ place name bases named body decorators => do
    note place.line name .bound
    walkExprs false bases
    walkNamed named
    walkExprs false decorators
    inside .class_ (walkStmts body)

def walkStmts : List Stmt → Walk Unit
  | [] => return ()
  | s :: rest => do
    walkStmt s
    walkStmts rest

def walkHandlers : List (Handler Stmt) → Walk Unit
  | [] => return ()
  | ⟨place, kind, name, body⟩ :: rest => do
    walkOption kind
    name.forM fun name => note place.line name .bound
    walkStmts body
    walkHandlers rest

def walkItems : List (Expr × Option Expr) → Walk Unit
  | [] => return ()
  | (value, target) :: rest => do
    walkExpr false value
    walkTarget target
    walkItems rest

def walkTarget : Option Expr → Walk Unit
  | none => return ()
  | some e => walkExpr true e

end

end Block

/-- Checks the names of a whole script. -/
def checkBlocks (body : List Stmt) : Except CodeFault Unit :=
  (Block.walkStmts body).run' [⟨.script, [], false, false⟩]

end PhaseScript.Script
