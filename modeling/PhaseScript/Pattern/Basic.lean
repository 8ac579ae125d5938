import PhaseScript.Text.Category
import PhaseScript.Datum.ExceptionKind
import PhaseScript.Json.Reader
/-
Search patterns: what they are made of, and why a text is none.
-/
set_option autoImplicit false

namespace PhaseScript.Pattern

/-- The letters that change how a pattern is read or matched. -/
inductive Flag where
  | ignoreCase
  | locale
  | multiline
  | dotAll
  | verbose
  | ascii
  | template
  | unicode
  deriving DecidableEq, Repr, Inhabited

abbrev Flags := List Flag

/-- A sort of characters. -/
inductive Sort_ where
  | digit
  | space
  | word
  deriving DecidableEq, Repr, Inhabited

/-- A part of a set of characters. -/
inductive SetItem where
  | point (p : Point)
  | range (low high : Point)
  | sort (s : Sort_) (isNegated : Bool)
  deriving DecidableEq, Repr, Inhabited

/-- A condition on a place of the text. -/
inductive Anchor where
  | textStart
  | textEnd
  | lineStart
  | lineEnd
  | beforeLastLineEnd
  | boundary (ascii isNegated : Bool)
  deriving DecidableEq, Repr, Inhabited

/-- In which order the numbers of repetitions are tried; possessive ones are not taken back. -/
inductive Greed where
  | greedy
  | lazy
  | possessive
  deriving DecidableEq, Repr, Inhabited

/-- How characters are compared. -/
structure Comparing where
  ignoreCase : Bool
  ascii : Bool
  deriving DecidableEq, Repr, Inhabited

/-- A part of a pattern. -/
inductive Node where
  | point (how : Comparing) (p : Point)
  | any (dotAll : Bool)
  | set (how : Comparing) (isNegated : Bool) (items : List SetItem)
  | anchor (a : Anchor)
  /-- Brackets that keep what they match, or that have flags of their own. -/
  | group (index : Option Nat) (body : List Node)
  /-- Brackets that only hold parts together. -/
  | plain (body : List Node)
  | branch (options : List (List Node))
  | repeated (greed : Greed) (least : Nat) (most : Option Nat) (body : List Node)
  | reference (how : Comparing) (group : Nat)
  | ifGroup (group : Nat) (yes no : List Node)
  /-- Looks at the text ahead, or at so many characters behind. -/
  | look (behind : Option Nat) (isNegated : Bool) (body : List Node)
  | atomic (body : List Node)
  deriving Repr, Inhabited

/-- Why a text is no pattern. -/
inductive Fault where
  /-- Something is wrong at a place of the text. -/
  | at (words : Text) (place : Nat) (whole : Text)
  /-- A look behind does not know how far back to go. -/
  | openWidth
  | tooManyRepetitions
  | tooManyDigits (count : Nat)
  /-- Two flags that cannot hold at once, one of them that for ASCII. -/
  | flagClash (other : Text)
  deriving DecidableEq, Repr, Inhabited

/-- What is said of a fault. -/
def Fault.message : Fault → Text
  | .at words place whole =>
    let line : Text := if whole.any (·.val == 10) then
        let before := whole.take place
        let column := (before.reverse.takeWhile (·.val != 10)).length + 1
        " (line " ++ Text.ofNat (before.countP (·.val == 10) + 1) ++ ", column " ++ Text.ofNat column ++ ")"
      else []
    words ++ " at position " ++ Text.ofNat place ++ line
  | .openWidth => "look-behind requires fixed-width pattern"
  | .tooManyRepetitions => "the repetition number is too large"
  | .tooManyDigits count => Json.digitLimit count
  | .flagClash other => "ASCII and " ++ other ++ " flags are incompatible"

/-- The kind of error that a fault is told as. -/
def Fault.kind : Fault → ExceptionKind
  | .at _ _ _ | .openWidth => .patternError
  | .tooManyRepetitions => .overflowError
  | .tooManyDigits _ | .flagClash _ => .valueError

/-- Whether a fault is one of the pattern itself rather than of a limit. -/
def Fault.isRefusal : Fault → Bool
  | .at _ _ _ | .openWidth => true
  | _ => false

/-- The least and the greatest number of characters that something matches. -/
structure Width where
  least : Nat
  most : Nat
  deriving DecidableEq, Repr, Inhabited

/-- A width that counts as without bound. -/
def boundless : Nat := 2 ^ 64

def Width.plus (a b : Width) : Width := ⟨a.least + b.least, a.most + b.most⟩

def Width.capped (w : Width) : Width := ⟨min w.least boundless, min w.most boundless⟩

def Width.times (w : Width) (least : Nat) (most : Option Nat) : Width :=
  ⟨w.least * least, match most with
    | none => if w.most == 0 then 0 else boundless
    | some n => w.most * n⟩

mutual

/-- The width of a part, given those of the groups. -/
def Node.width (groups : Nat → Width) : Node → Width
  | .point _ _ | .any _ | .set _ _ _ => ⟨1, 1⟩
  | .anchor _ | .look _ _ _ => ⟨0, 0⟩
  | .group _ body | .plain body => rowWidth groups body
  | .branch options => branchWidth groups options
  | .repeated _ least most body => (rowWidth groups body).times least most
  | .reference _ group => groups group
  | .ifGroup _ yes no =>
    let a := rowWidth groups yes
    let b := rowWidth groups no
    ⟨min a.least b.least, max a.most b.most⟩
  | .atomic body => rowWidth groups body

def rowWidth (groups : Nat → Width) : List Node → Width
  | [] => ⟨0, 0⟩
  | node :: rest => ((node.width groups).plus (rowWidth groups rest)).capped

def branchWidth (groups : Nat → Width) : List (List Node) → Width
  | [] => ⟨boundless, 0⟩
  | option :: rest =>
    let a := rowWidth groups option
    let b := branchWidth groups rest
    ⟨min a.least b.least, max a.most b.most⟩

end

/-- Whether two parts that hold no others are the same. -/
def Node.isSameLeaf : Node → Node → Bool
  | .point how p, .point other q => how == other && p == q
  | .any dotAll, .any other => dotAll == other
  | .set how isNegated items, .set other isOtherNegated others =>
    how == other && isNegated == isOtherNegated && items == others
  | .anchor a, .anchor b => a == b
  | .reference how number, .reference other another => how == other && number == another
  | _, _ => false

/-- The leaf that all alternatives start with. -/
def sharedStart? : List (List Node) → Option Node
  | (node :: _) :: options =>
    if options.all fun option => option.head?.any node.isSameLeaf then some node else none
  | _ => none

/-- Takes the leaves that all alternatives start with out of them. The fuel is the length of the first one. -/
def shareStarts : Nat → List (List Node) → List Node × List (List Node)
  | 0, options => ([], options)
  | fuel + 1, options =>
    match sharedStart? options with
    | none => ([], options)
    | some node =>
      let (shared, options) := shareStarts fuel (options.map List.tail)
      (node :: shared, options)

/-- The members of one set that stands for an alternative. -/
def setOf? : List Node → Option (Comparing × List SetItem)
  | [.point how p] => some (how, [.point p])
  | [.set how false items] => some (how, items)
  | _ => none

/-- Alternatives as one row of parts: what they all start with comes before them, and alternatives between single
characters are a set. -/
def asRow (options : List (List Node)) : List Node :=
  match options with
  | [row] => row
  | _ =>
    let (shared, options) := shareStarts ((options.headD []).length + 1) options
    match options.mapM setOf? with
    | some ((how, items) :: sets) =>
      shared ++ [.set how false (items ++ sets.flatMap (·.2)).eraseDups]
    | _ => shared ++ [.branch options]

/-- A set of characters; one character alone is no set. -/
def Node.ofSet (how : Comparing) (isNegated : Bool) (items : List SetItem) : Node :=
  match isNegated, items.eraseDups with
  | false, [.point p] => .point how p
  | _, items => .set how isNegated items

/-- A row without the brackets that only hold parts together. -/
def withoutBrackets (row : List Node) : List Node :=
  row.flatMap fun node =>
    match node with
    | .plain body => body
    | _ => [node]

end PhaseScript.Pattern
