import PhaseScript.Script.Grammar.Basic
/-
What can be assigned to and deleted, and the words for what cannot.
-/
set_option autoImplicit false

namespace PhaseScript.Script

/-- The sort of an expression in the words of a fault. -/
def Expr.sort : Expr → String
  | .constant _ (.bool true) => "True"
  | .constant _ (.bool false) => "False"
  | .constant _ .none => "None"
  | .constant _ .ellipsis => "ellipsis"
  | .constant _ _ => "literal"
  | .name _ _ => "name"
  | .attribute _ _ _ => "attribute"
  | .subscript _ _ _ => "subscript"
  | .slice _ _ _ _ => "slice"
  | .call _ _ _ _ => "function call"
  | .unary _ _ _ | .binary _ _ _ _ | .both _ _ | .either _ _ => "expression"
  | .compare _ _ _ => "comparison"
  | .conditional _ _ _ _ => "conditional expression"
  | .lambda _ _ _ => "lambda"
  | .list _ _ => "list"
  | .tuple _ _ => "tuple"
  | .set _ _ => "set display"
  | .dict _ _ => "dict literal"
  | .comprehension _ .list _ _ _ => "list comprehension"
  | .comprehension _ .set _ _ _ => "set comprehension"
  | .comprehension _ .dict _ _ _ => "dict comprehension"
  | .comprehension _ .generator _ _ _ => "generator expression"
  | .bind _ _ _ => "named expression"
  | .starred _ _ => "starred"
  | .await _ _ => "await expression"
  | .yield _ _ | .yieldFrom _ _ => "yield expression"
  | .joined _ _ | .formatted _ _ _ _ => "f-string expression"

/-- What a target is for. -/
inductive TargetUse where
  | assigned
  | loop
  | deleted
  deriving DecidableEq

mutual

/-- The first part of an expression that cannot be a target. -/
def Expr.wrongTarget? (use : TargetUse) : Expr → Option Expr
  | .list _ items => wrongTargetIn? use items
  | .tuple _ items => wrongTargetIn? use items
  | .starred p value => if use == .deleted then some (.starred p value) else value.wrongTarget? use
  | .name _ _ => none
  | .attribute _ _ _ => none
  | .subscript _ _ _ => none
  | .compare p left rest =>
    if use == .loop then
      match rest with
      | (.isIn, _) :: _ => left.wrongTarget? use
      | _ => none
    else some (.compare p left rest)
  | e => some e

def wrongTargetIn? (use : TargetUse) : List Expr → Option Expr
  | [] => none
  | e :: rest => match e.wrongTarget? use with
    | some wrong => some wrong
    | none => wrongTargetIn? use rest

end

/-- Whether an expression can be a target as it stands. -/
def Expr.isTarget (e : Expr) : Bool := (e.wrongTarget? .assigned).isNone

/-- Whether one value, without taking it apart, can be assigned to the expression. -/
def Expr.isSingleTarget : Expr → Bool
  | .name _ _ | .attribute _ _ _ | .subscript _ _ _ => true
  | _ => false

/-- Refuses, with words if the expression has a part that cannot be a target. -/
def Reader.failTarget {α : Type} (use : TargetUse) (e : Expr) : Reader α :=
  match e.wrongTarget? use with
  | some wrong =>
    let action := if use == .deleted then "delete" else "assign to"
    fail wrong.place.line ("cannot " ++ Text.ofString action ++ " " ++ Text.ofString wrong.sort)
  | none => refuse

end PhaseScript.Script
