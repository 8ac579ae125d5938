import PhaseScript.Text.Basic
import PhaseScript.Text.CategoryData
/-
Character classes and letter case, by the Unicode character data. The classes are what the guest language and
its text functions ask about; the case functions give whole texts, since one point may become several.
-/
set_option autoImplicit false

namespace PhaseScript

namespace Category

/-- The place of a digit of the packed tables in their alphabet. -/
def packedDigit (c : Char) : Nat :=
  let n := c.toNat
  if 65 ≤ n && n ≤ 90 then n - 65
  else if 97 ≤ n && n ≤ 122 then n - 71
  else if 48 ≤ n && n ≤ 57 then n + 4
  else if n == 43 then 62 else 63

/-- The numbers of a packed table. -/
def unpack (packed : String) : Array Nat :=
  (packed.toList.foldl (fun (acc : Array Nat × Nat × Nat) c =>
    let (numbers, value, unit) := acc
    let d := packedDigit c
    if d < 32 then (numbers.push (value + unit * d), 0, 1)
    else (numbers, value + unit * (d - 32), unit * 32)) (#[], 0, 1)).1

/-- The boundaries of a table of runs: members begin at the even places and end at the odd ones. -/
def boundaries (packed : String) : Array Nat :=
  ((unpack packed).foldl (fun (acc : Array Nat × Nat) step =>
    (acc.1.push (acc.2 + step), acc.2 + step)) (#[], 0)).1

/-- How many entries of a sorted array are at most `n`, between two bounds. -/
def countAtMost (sorted : Array Nat) (n low high : Nat) : Nat :=
  if h : low < high then
    let middle := (low + high) / 2
    if sorted.getD middle 0 ≤ n then countAtMost sorted n (middle + 1) high
    else countAtMost sorted n low middle
  else low
termination_by high - low

/-- Whether a number lies in one of the runs. -/
def inRuns (runs : Array Nat) (n : Nat) : Bool := countAtMost runs n 0 runs.size % 2 == 1

/-- A signed number from its packed form, where the lowest bit is the sign. -/
def unfoldSign (n : Nat) : Int := if n % 2 == 0 then Int.ofNat (n / 2) else -(Int.ofNat (n / 2) + 1)

/-- The entries of a table of cases: each point and its form. -/
def caseEntries : Nat → List Nat → Nat → List (Nat × Text)
  | 0, _, _ => []
  | _, [], _ => []
  | _, [_], _ => []
  | fuel + 1, gap :: size :: rest, last =>
    let point := last + gap
    let form := (rest.take size).map fun d => Point.ofNat (Int.toNat (Int.ofNat point + unfoldSign d))
    (point, form) :: caseEntries fuel (rest.drop size) point

/-- A table of cases: the points in order and, at the same places, their forms. -/
structure CaseTable where
  points : Array Nat
  forms : Array Text

/-- Reads a packed table of cases. -/
def CaseTable.ofPacked (packed : String) : CaseTable :=
  let numbers := (unpack packed).toList
  let entries := caseEntries numbers.length numbers 0
  ⟨(entries.map (·.1)).toArray, (entries.map (·.2)).toArray⟩

/-- The form of a point, if the table has one. -/
def CaseTable.form? (table : CaseTable) (n : Nat) : Option Text :=
  let count := countAtMost table.points n 0 table.points.size
  if count == 0 then none
  else if table.points.getD (count - 1) 0 == n then table.forms[count - 1]? else none

/-- A table of classes: where each run of points begins, and the class of its points; what lies between is class zero. -/
structure ClassTable where
  starts : Array Nat
  classes : Array Nat

/-- The runs of a packed table: for each the distance to its beginning, its length and its class. -/
def classRuns : Nat → List Nat → Nat → List (Nat × Nat)
  | fuel + 1, gap :: size :: kind :: rest, last =>
    (last + gap, kind) :: (last + gap + size, 0) :: classRuns fuel rest (last + gap + size)
  | _, _, _ => []

/-- Reads a packed table of classes. -/
def ClassTable.ofPacked (packed : String) : ClassTable :=
  let numbers := (unpack packed).toList
  let runs := classRuns numbers.length numbers 0
  ⟨(runs.map (·.1)).toArray, (runs.map (·.2)).toArray⟩

/-- The class of a point. -/
def ClassTable.classOf (table : ClassTable) (n : Nat) : Nat :=
  let count := countAtMost table.starts n 0 table.starts.size
  if count == 0 then 0 else table.classes.getD (count - 1) 0

def printable : Array Nat := boundaries Data.printableRuns
def alpha : Array Nat := boundaries Data.alphaRuns
def digit : Array Nat := boundaries Data.digitRuns
def numeric : Array Nat := boundaries Data.numericRuns
def zeros : Array Nat := boundaries Data.decimalZeros
def lower : Array Nat := boundaries Data.lowerRuns
def upper : Array Nat := boundaries Data.upperRuns
def title : Array Nat := boundaries Data.titleRuns
def ignorable : Array Nat := boundaries Data.ignorableRuns
def nameStart : Array Nat := boundaries Data.nameStartRuns
def nameContinue : Array Nat := boundaries Data.nameRuns
def upperCases : CaseTable := .ofPacked Data.upperCases
def titleCases : CaseTable := .ofPacked Data.titleCases
def lowerCases : CaseTable := .ofPacked Data.lowerCases
def foldCases : CaseTable := .ofPacked Data.foldCases

end Category

namespace Point

/-- Blank points: the spaces and separators of every kind, and the information separators 1C to 1F. -/
def isBlank (p : Point) : Bool :=
  let n := p.val
  (9 ≤ n && n ≤ 13) || (28 ≤ n && n ≤ 32) || n == 0x85 || n == 0xA0 || n == 0x1680
    || (0x2000 ≤ n && n ≤ 0x200A) || n == 0x2028 || n == 0x2029 || n == 0x202F || n == 0x205F || n == 0x3000

/-- Points that end a line: the two usual ones, the vertical separators and the Unicode ones. -/
def endsLine (p : Point) : Bool :=
  let n := p.val
  (10 ≤ n && n ≤ 13) || (28 ≤ n && n ≤ 30) || n == 0x85 || n == 0x2028 || n == 0x2029

/-- ASCII points take a short way through each class. -/
def isPrintable (p : Point) : Bool :=
  if p.val < 128 then 32 ≤ p.val && p.val < 127 else Category.inRuns Category.printable p.val

def isAlpha (p : Point) : Bool :=
  if p.val < 128 then p.isAsciiLetter else Category.inRuns Category.alpha p.val

def isLower (p : Point) : Bool :=
  if p.val < 128 then 97 ≤ p.val && p.val ≤ 122 else Category.inRuns Category.lower p.val

def isUpper (p : Point) : Bool :=
  if p.val < 128 then 65 ≤ p.val && p.val ≤ 90 else Category.inRuns Category.upper p.val

def isTitle (p : Point) : Bool := 128 ≤ p.val && Category.inRuns Category.title p.val

/-- Letters that have a case. -/
def isCased (p : Point) : Bool := p.isLower || p.isUpper || p.isTitle

/-- Points that are passed over when the end of a cased word is looked for. -/
def isCaseIgnorable (p : Point) : Bool := Category.inRuns Category.ignorable p.val

def isDigit (p : Point) : Bool :=
  if p.val < 128 then p.isAsciiDigit else Category.inRuns Category.digit p.val

def isNumeric (p : Point) : Bool :=
  if p.val < 128 then p.isAsciiDigit else Category.inRuns Category.numeric p.val

/-- The value of a decimal digit of any script. -/
def decimal? (p : Point) : Option Nat :=
  if p.val < 128 then (if p.isAsciiDigit then some (p.val - 48) else none)
  else
    let count := Category.countAtMost Category.zeros p.val 0 Category.zeros.size
    let first := Category.zeros.getD ((count - 1) / 2 * 2) 0
    if count != 0 && p.val < first + 10 then some (p.val - first) else none

def isDecimal (p : Point) : Bool := p.decimal?.isSome

def isAlphanumeric (p : Point) : Bool := p.isAlpha || p.isNumeric

def mayStartName (p : Point) : Bool :=
  if p.val < 128 then p.isAsciiLetter || p.val == 95 else Category.inRuns Category.nameStart p.val

def mayContinueName (p : Point) : Bool :=
  if p.val < 128 then p.isAsciiLetter || p.isAsciiDigit || p.val == 95
  else Category.inRuns Category.nameContinue p.val

/-- The capital form of a point. -/
def upperForm (p : Point) : Text :=
  if p.val < 128 then [if 97 ≤ p.val && p.val ≤ 122 then Point.ofNat (p.val - 32) else p]
  else (Category.upperCases.form? p.val).getD [p]

/-- The small form of a point. -/
def lowerForm (p : Point) : Text :=
  if p.val < 128 then [if 65 ≤ p.val && p.val ≤ 90 then Point.ofNat (p.val + 32) else p]
  else (Category.lowerCases.form? p.val).getD [p]

/-- The title form of a point: its capital form, with a few exceptions. -/
def titleForm (p : Point) : Text := (Category.titleCases.form? p.val).getD p.upperForm

/-- The folded form of a point: its small form, with a few exceptions. -/
def foldForm (p : Point) : Text := (Category.foldCases.form? p.val).getD p.lowerForm

end Point

namespace Text

/-- The small form of a point among its neighbours: a capital sigma that ends a word becomes the final one.
The points before it are given nearest first. -/
def lowerAmong (before : List Point) (p : Point) (after : List Point) : Text :=
  if p.val == 0x3A3 then
    let cased := fun (l : List Point) => match l.dropWhile Point.isCaseIgnorable with
      | q :: _ => q.isCased
      | [] => false
    if cased before && !cased after then [Point.ofNat 0x3C2] else [Point.ofNat 0x3C3]
  else p.lowerForm

/-- Small letters from one place on, given the points before it, nearest first. -/
def lowerFrom (before : List Point) : Text → Text
  | [] => []
  | p :: rest => lowerAmong before p rest ++ lowerFrom (p :: before) rest

/-- The text in small letters. -/
def lower (t : Text) : Text := lowerFrom [] t

/-- The text in capitals. -/
def upper (t : Text) : Text := t.flatMap Point.upperForm

/-- The text folded, for comparison without regard to case. -/
def caseFold (t : Text) : Text := t.flatMap Point.foldForm

/-- The first point in its title form, the rest in small letters. -/
def capitalize : Text → Text
  | [] => []
  | p :: rest => p.titleForm ++ lowerFrom [p] rest

/-- Title form after a point without case, small form after one that has it. -/
def titleFrom (before : List Point) (inWord : Bool) : Text → Text
  | [] => []
  | p :: rest =>
    (if inWord then lowerAmong before p rest else p.titleForm)
      ++ titleFrom (p :: before) p.isCased rest

/-- Each word in title case. -/
def title (t : Text) : Text := titleFrom [] false t

/-- Small letters become capitals and capitals small. -/
def swapCaseFrom (before : List Point) : Text → Text
  | [] => []
  | p :: rest =>
    (if p.isUpper then lowerAmong before p rest else if p.isLower then p.upperForm else [p])
      ++ swapCaseFrom (p :: before) rest

def swapCase (t : Text) : Text := swapCaseFrom [] t

/-- The text without blanks at either end. -/
def strip (t : Text) : Text := stripBy Point.isBlank t

/-- Whether the text is a name of the guest language. -/
def isName : Text → Bool
  | [] => false
  | p :: rest => p.mayStartName && rest.all Point.mayContinueName

end Text

end PhaseScript
