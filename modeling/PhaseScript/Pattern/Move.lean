import PhaseScript.Pattern.Basic
import PhaseScript.Pattern.Reader
/-
A pattern as a row of moves along a text. Brackets are gone: a group is a mark before its parts and one after them.
A part that stands for one character says which characters it admits.
-/
set_option autoImplicit false

namespace PhaseScript.Pattern

/-- Letters that count as the same though neither is the small form of the other. -/
def letterClasses : List (List Nat) := [[0x69, 0x131], [0x73, 0x17F], [0xB5, 0x3BC], [0x345, 0x3B9, 0x1FBE],
  [0x390, 0x1FD3], [0x3B0, 0x1FE3], [0x3B2, 0x3D0], [0x3B5, 0x3F5], [0x3B8, 0x3D1], [0x3BA, 0x3F0], [0x3C0, 0x3D6],
  [0x3C1, 0x3F1], [0x3C2, 0x3C3], [0x3C6, 0x3D5], [0x432, 0x1C80], [0x434, 0x1C81], [0x43E, 0x1C82], [0x441, 0x1C83],
  [0x442, 0x1C84, 0x1C85], [0x44A, 0x1C86], [0x463, 0x1C87], [0xA64B, 0x1C88], [0x1E61, 0x1E9B], [0xFB05, 0xFB06]]

/-- The small form of a character as one character. -/
def small (ascii : Bool) (p : Point) : Point :=
  if ascii && p.val ≥ 128 then p else p.lowerForm.headD p

/-- The capital form of a character as one character. -/
def capital (p : Point) : Point :=
  match p.upperForm with
  | [q] => q
  | _ => p

/-- The other letters that a small letter counts as the same as. -/
def letterClass? (p : Point) : Option (List Point) :=
  (letterClasses.find? fun c => c.contains p.val).map fun c => c.map Point.ofNat

/-- The small characters that count as the same as one. -/
def smallForms (ascii : Bool) (p : Point) : List Point :=
  let s := small ascii p
  if ascii then [s] else (letterClass? s).getD [s]

/-- Whether two characters are the same. -/
def Comparing.same (how : Comparing) (p q : Point) : Bool :=
  p == q || (how.ignoreCase && (smallForms how.ascii p).contains (small how.ascii q))

/-- Whether a character has small and capital forms that count as the same. -/
def Comparing.isCased (how : Comparing) (p : Point) : Bool :=
  how.ignoreCase && (if how.ascii then p.isAsciiLetter else small false p != p || capital p != p)

/-- Whether a character is of a sort. -/
def Sort_.holds (ascii : Bool) (p : Point) : Sort_ → Bool
  | .digit => if ascii then p.isAsciiDigit else p.isDecimal
  | .space => if ascii then p.is ' ' || (9 ≤ p.val && p.val ≤ 13) else p.isBlank
  | .word => p.is '_' || (if ascii then p.isAsciiLetter || p.isAsciiDigit else p.isAlphanumeric)

/-- Whether a character is of a part of a set. -/
def SetItem.holds (how : Comparing) (p : Point) : SetItem → Bool
  | .point q => how.same q p
  | .range low high =>
    let within (q : Point) : Bool := low.val ≤ q.val && q.val ≤ high.val
    within p || (how.ignoreCase && (smallForms how.ascii p).any fun q => within q || within (capital q))
  | .sort s isNegated => s.holds how.ascii p != isNegated

/-- Whether a part of a set names a character with small and capital forms. -/
def SetItem.isCased (how : Comparing) : SetItem → Bool
  | .point p => how.ignoreCase && (p.val > 0xFFFF || how.isCased p)
  | .range low high => how.ignoreCase && (high.val > 0xFFFF ||
      (List.range (high.val + 1 - low.val)).any fun n => how.isCased (Point.ofNat (low.val + n)))
  | .sort _ _ => false

/-- What one character has to be. -/
inductive Letter where
  | point (how : Comparing) (p : Point)
  | any (dotAll : Bool)
  | set (how : Comparing) (isNegated : Bool) (items : List SetItem)
  deriving Repr, Inhabited

namespace Letter

/-- Whether a character is as it has to be. -/
def holds : Letter → Point → Bool
  | .point how p, q => how.same p q
  | .any dotAll, q => dotAll || q.val != 10
  | .set how isNegated items, q => (items.any fun item => item.holds how q) != isNegated

/-- The only character that fits, told without regard to small and capital forms. -/
def only? : Letter → Option Point
  | .point how p => if how.isCased p then none else some p
  | _ => none

/-- Whether this is a set of characters to which small and capital forms do not matter. -/
def isPlainSet : Letter → Bool
  | .set _ true [.point _] => false
  | .set how _ items => !items.any (SetItem.isCased how)
  | _ => false

/-- Whether characters are compared with several forms at once, and so one by one. -/
def hasForms : Letter → Bool
  | .point how p => how.isCased p && !how.ascii && (letterClass? (small false p)).isSome
  | .any _ => false
  | .set how true [.point p] => how.isCased p && !how.ascii && (letterClass? (small false p)).isSome
  | .set how _ items => items.any (SetItem.isCased how)

end Letter

/-- A step of a match. -/
inductive Move where
  | letter (l : Letter)
  | anchor (a : Anchor)
  /-- Keeps the place; the marks of a group stand side by side. -/
  | mark (index : Nat)
  | branch (options : List (List Move))
  /-- Repeats one character. -/
  | letters (greed : Greed) (least : Nat) (most : Option Nat) (l : Letter)
  | turns (greed : Greed) (least : Nat) (most : Option Nat) (body : List Move)
  | reference (how : Comparing) (group : Nat)
  | ifGroup (group : Nat) (yes no : List Move)
  | look (behind : Option Nat) (isNegated : Bool) (body : List Move)
  | atomic (body : List Move)
  deriving Repr, Inhabited

/-- The only move of a row, if it takes one character. -/
def onlyLetter? : List Move → Option Letter
  | [.letter l] => some l
  | _ => none

/-- Repeats a row of moves. -/
def repeatMoves (greed : Greed) (least : Nat) (most : Option Nat) (isSimple : Bool) (body : List Move) : Move :=
  match isSimple, onlyLetter? body with
  | true, some l => .letters greed least most l
  | _, _ => .turns greed least most body

mutual

/-- The moves of a part of a pattern. -/
def Node.moves : Node → List Move
  | .point how p => [.letter (.point how p)]
  | .any dotAll => [.letter (.any dotAll)]
  | .set how isNegated items => [.letter (.set how isNegated items)]
  | .anchor a => [.anchor a]
  | .group none body | .plain body => rowMoves body
  | .group (some index) body => .mark (2 * index - 2) :: (rowMoves body ++ [.mark (2 * index - 1)])
  | .branch options => [.branch (optionMoves options)]
  | .repeated greed least most body => [repeatMoves greed least most (body.length == 1) (rowMoves body)]
  | .reference how group => [.reference how group]
  | .ifGroup group yes no => [.ifGroup group (rowMoves yes) (rowMoves no)]
  | .look behind isNegated body => [.look behind isNegated (rowMoves body)]
  | .atomic body => [.atomic (rowMoves body)]

def rowMoves : List Node → List Move
  | [] => []
  | node :: rest => node.moves ++ rowMoves rest

def optionMoves : List (List Node) → List (List Move)
  | [] => []
  | option :: rest => rowMoves option :: optionMoves rest

end

/-- The first part of a row, also inside of brackets. -/
def firstPart? : List Node → Option Node
  | .group _ body :: _ => firstPart? body
  | node :: _ => some node
  | [] => none

/-- Whether a part stands for one character of a known few. -/
def Node.isKnown : Node → Bool
  | .point how p => !how.isCased p
  | .set how isNegated items => (Letter.set how isNegated items).isPlainSet
  | .branch options => options.all fun option =>
      match option with
      | .point how p :: _ => !how.isCased p
      | _ => false
  | _ => false

end PhaseScript.Pattern
