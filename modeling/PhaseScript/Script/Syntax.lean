import PhaseScript.Number.Binary64
import PhaseScript.Text.Basic
/-
The syntax tree of a script. Expressions and statements keep the place of their first token, which errors name.
-/
set_option autoImplicit false

namespace PhaseScript.Script

/-- A place in a script: the line, counted from one, and the column, counted from zero. -/
structure Place where
  line : Nat
  column : Nat
  deriving DecidableEq, Repr, Inhabited

inductive Constant where
  | none
  | bool (b : Bool)
  | ellipsis
  | int (n : Int)
  | float (x : Binary64)
  | imaginary (x : Binary64)
  | text (t : Text)
  | bytes (b : Bytes)
  deriving Repr, Inhabited

inductive UnaryOperator where
  | invert
  | not
  | positive
  | negative
  deriving DecidableEq, Repr, Inhabited

inductive BinaryOperator where
  | add
  | subtract
  | multiply
  | matrixMultiply
  | divide
  | modulo
  | power
  | leftShift
  | rightShift
  | bitOr
  | bitXor
  | bitAnd
  | floorDivide
  deriving DecidableEq, Repr, Inhabited

/-- How an operator is written. -/
def BinaryOperator.symbol : BinaryOperator → String
  | .add => "+"
  | .subtract => "-"
  | .multiply => "*"
  | .matrixMultiply => "@"
  | .divide => "/"
  | .modulo => "%"
  | .power => "**"
  | .leftShift => "<<"
  | .rightShift => ">>"
  | .bitOr => "|"
  | .bitXor => "^"
  | .bitAnd => "&"
  | .floorDivide => "//"

inductive Comparison where
  | equal
  | notEqual
  | less
  | lessEqual
  | greater
  | greaterEqual
  | is
  | isNot
  | isIn
  | notIn
  deriving DecidableEq, Repr, Inhabited

/-- How a comparison is written. -/
def Comparison.symbol : Comparison → String
  | .equal => "=="
  | .notEqual => "!="
  | .less => "<"
  | .lessEqual => "<="
  | .greater => ">"
  | .greaterEqual => ">="
  | .is => "is"
  | .isNot => "is not"
  | .isIn => "in"
  | .notIn => "not in"

/-- What a comprehension makes. -/
inductive ComprehensionKind where
  | list
  | set
  | dict
  | generator
  deriving DecidableEq, Repr, Inhabited

/-- How a value in a text literal is turned into text before it is formatted. -/
inductive Conversion where
  | none
  | plain
  | quoted
  | ascii
  deriving DecidableEq, Repr, Inhabited

/-- A parameter: its name, what it is annotated with, its default and the line where it stands. -/
structure Parameter (α : Type) where
  name : Text
  annotation : Option α
  default : Option α
  line : Nat
  deriving Repr

/-- The parameters of a function by the way they take arguments. -/
structure Parameters (α : Type) where
  positionalOnly : List (Parameter α)
  positional : List (Parameter α)
  variadic : Option (Parameter α)
  keywordOnly : List (Parameter α)
  keywords : Option (Parameter α)
  deriving Repr

/-- The clause of a comprehension: what each item is bound to, where the items come from and which are kept. -/
structure Clause (α : Type) where
  target : α
  source : α
  conditions : List α
  isAsync : Bool
  deriving Repr

inductive Expr where
  | constant (place : Place) (value : Constant)
  | name (place : Place) (name : Text)
  | attribute (place : Place) (object : Expr) (name : Text)
  | subscript (place : Place) (object index : Expr)
  | slice (place : Place) (lower upper step : Option Expr)
  /-- A named argument without a name unpacks a dict. -/
  | call (place : Place) (function : Expr) (arguments : List Expr) (named : List (Option Text × Expr))
  | unary (place : Place) (operator : UnaryOperator) (operand : Expr)
  | binary (place : Place) (operator : BinaryOperator) (left right : Expr)
  | both (place : Place) (parts : List Expr)
  | either (place : Place) (parts : List Expr)
  | compare (place : Place) (left : Expr) (rest : List (Comparison × Expr))
  | conditional (place : Place) (test whenTrue whenFalse : Expr)
  | lambda (place : Place) (parameters : Parameters Expr) (body : Expr)
  | list (place : Place) (items : List Expr)
  | tuple (place : Place) (items : List Expr)
  | set (place : Place) (items : List Expr)
  /-- An entry without a key unpacks a dict. -/
  | dict (place : Place) (entries : List (Option Expr × Expr))
  /-- The value is there for a dict only. -/
  | comprehension (place : Place) (kind : ComprehensionKind) (item : Expr) (value : Option Expr)
      (clauses : List (Clause Expr))
  | bind (place : Place) (target : Expr) (value : Expr)
  | starred (place : Place) (value : Expr)
  | await (place : Place) (value : Expr)
  | yield (place : Place) (value : Option Expr)
  | yieldFrom (place : Place) (source : Expr)
  | joined (place : Place) (pieces : List Expr)
  | formatted (place : Place) (value : Expr) (conversion : Conversion) (spec : Option Expr)
  deriving Repr

instance : Inhabited Expr := ⟨.constant default .none⟩

/-- Where an expression starts. -/
def Expr.place : Expr → Place
  | .constant p _ | .name p _ | .attribute p _ _ | .subscript p _ _ | .slice p _ _ _ | .call p _ _ _ | .unary p _ _
  | .binary p _ _ _ | .both p _ | .either p _ | .compare p _ _ | .conditional p _ _ _ | .lambda p _ _ | .list p _
  | .tuple p _ | .set p _ | .dict p _ | .comprehension p _ _ _ _ | .bind p _ _ | .starred p _ | .await p _
  | .yield p _ | .yieldFrom p _ | .joined p _ | .formatted p _ _ _ => p

/-- An imported module or name, and the name it is given. -/
structure Alias where
  place : Place
  name : Text
  given : Option Text
  deriving Repr, Inhabited

/-- A handler of a `try` statement; one without a kind takes every exception. -/
structure Handler (σ : Type) where
  place : Place
  kind : Option Expr
  name : Option Text
  body : List σ
  deriving Repr

/-- A statement that a script must not hold, known by its kind alone. -/
inductive Forbidden where
  | annotatedAssignment
  | nonlocal
  | match_
  | starHandlers
  | asyncFunction
  | asyncFor
  | asyncWith
  deriving DecidableEq, Repr, Inhabited

def Forbidden.name : Forbidden → String
  | .annotatedAssignment => "AnnAssign"
  | .nonlocal => "Nonlocal"
  | .match_ => "Match"
  | .starHandlers => "TryStar"
  | .asyncFunction => "AsyncFunctionDef"
  | .asyncFor => "AsyncFor"
  | .asyncWith => "AsyncWith"

inductive Stmt where
  | expr (place : Place) (value : Expr)
  | assign (place : Place) (targets : List Expr) (value : Expr)
  | augment (place : Place) (target : Expr) (operator : BinaryOperator) (value : Expr)
  | return_ (place : Place) (value : Option Expr)
  | raise (place : Place) (error cause : Option Expr)
  | assert (place : Place) (test : Expr) (message : Option Expr)
  | delete (place : Place) (targets : List Expr)
  | pass (place : Place)
  | break_ (place : Place)
  | continue_ (place : Place)
  | import_ (place : Place) (names : List Alias)
  | importFrom (place : Place) (module : Option Text) (names : List Alias) (level : Nat)
  | global (place : Place) (names : List Text)
  | if_ (place : Place) (test : Expr) (body orelse : List Stmt)
  | while (place : Place) (test : Expr) (body orelse : List Stmt)
  | for_ (place : Place) (target source : Expr) (body orelse : List Stmt)
  | try_ (place : Place) (body : List Stmt) (handlers : List (Handler Stmt)) (orelse finally_ : List Stmt)
  | with_ (place : Place) (items : List (Expr × Option Expr)) (body : List Stmt)
  | function (place : Place) (name : Text) (parameters : Parameters Expr) (body : List Stmt) (decorators : List Expr)
      (returns : Option Expr)
  | class_ (place : Place) (name : Text) (bases : List Expr) (named : List (Option Text × Expr)) (body : List Stmt)
      (decorators : List Expr)
  | forbidden (place : Place) (kind : Forbidden)
  deriving Repr

instance : Inhabited Stmt := ⟨.pass default⟩

end PhaseScript.Script
