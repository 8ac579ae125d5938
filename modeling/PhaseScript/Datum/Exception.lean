import PhaseScript.Datum.Text
/-
What exceptions keep of the arguments they are made with. A system error moves the names of the files it is about
out of its arguments; an error of syntax reads the place it is about from its second argument.
-/
set_option autoImplicit false

namespace PhaseScript

/-- What an exception is made of: its kind, its arguments, and what is known of it beside them. -/
structure ExceptionParts (α : Type) where
  kind : ExceptionKind
  args : List α
  details : List (Text × α)
  deriving Repr, Inhabited

/-- How the parts of an exception look at an argument: whether it is there, and the integer it is. -/
structure ArgumentView (α : Type) where
  isNone : α → Bool
  int? : α → Option Int

namespace ExceptionParts

variable {α : Type}

/-- A detail from an argument, if it was given and is not `None`. -/
def detail (view : ArgumentView α) (name : Text) (args : List α) (place : Nat) : List (Text × α) :=
  match args[place]? with
  | some a => if view.isNone a then [] else [(name, a)]
  | none => []

/-- A system error of two to five arguments has a number, which may select a special kind, and the files it is about;
those are taken out of the arguments. One that would block has a count in the place of the first file. -/
def ofSystemError (view : ArgumentView α) (kind : ExceptionKind) (args : List α) : ExceptionParts α :=
  if args.length < 2 || 5 < args.length then ⟨kind, args, []⟩
  else
    let special := if kind == .osError then (args.head?.bind view.int?).bind ExceptionKind.ofErrorNumber? else none
    let kind := special.getD kind
    match detail view "filename" args 2 with
    | [] => ⟨kind, args, []⟩
    | (name, file) :: _ =>
      if kind == .blockingIOError && (view.int? file).isSome then ⟨kind, args, [("characters_written", file)]⟩
      else ⟨kind, args.take 2, (name, file) :: detail view "filename2" args 4⟩

/-- The names of what an error of syntax knows of its place. -/
def placeNames : List Text := ["filename", "lineno", "offset", "text", "end_lineno", "end_offset"]

end ExceptionParts

namespace Datum

def argumentView : ArgumentView Datum where
  isNone
    | .none => true
    | _ => false
  int?
    | .int n => some n
    | .bool b => some (if b then 1 else 0)
    | _ => Option.none

/-- The exception of a kind with these arguments. -/
def ofException (kind : ExceptionKind) (args : List Datum) : Datum :=
  if kind.is .osError then
    let parts := ExceptionParts.ofSystemError argumentView kind args
    .exception parts.kind parts.args parts.details
  else match kind.is .syntaxError, args with
    | true, [_, .tuple info] | true, [_, .list info] => .exception kind args (ExceptionParts.placeNames.zip info)
    | _, _ => .exception kind args []

end Datum

end PhaseScript
