import PhaseScript.Url.Basic
import PhaseScript.Url.NameData
import PhaseScript.Text.Punycode
import PhaseScript.Text.Composed
/-
The labels of a host's name. A name is compared by its mapped form: small letters, compatible characters for special
ones, no invisible ones. A label keeps the rules of its scripts, and is sent in ASCII.
-/
set_option autoImplicit false

namespace PhaseScript.Url

/-- The direction a character is written in, or what it does to the directions of others. -/
inductive Direction where
  | left
  | right
  | arabicLetter
  | arabicNumber
  | europeanNumber
  | numberSeparator
  | commonSeparator
  | numberTerminator
  | neutral
  | boundary
  | mark
  | other
  deriving DecidableEq, Repr, Inhabited

namespace Direction

/-- The directions by their numbers in the packed table. -/
def numbered : Array Direction :=
  #[.left, .right, .arabicLetter, .arabicNumber, .europeanNumber, .numberSeparator, .commonSeparator,
    .numberTerminator, .neutral, .boundary, .mark, .other]

/-- Whether a character of this direction makes a name one that is written from the right in part. -/
def isFromRight (d : Direction) : Bool := [right, arabicLetter, arabicNumber].contains d

/-- What stands among characters written from the left and from the right alike. -/
def common : List Direction := [europeanNumber, numberSeparator, commonSeparator, numberTerminator, neutral, boundary, mark]

end Direction

/-- How a letter of a connected script joins its neighbours. -/
inductive Joining where
  | none
  | left
  | both
  | right
  | transparent
  deriving DecidableEq, Repr, Inhabited

/-- The kinds of joining by their numbers in the packed table. -/
def Joining.numbered : Array Joining := #[.none, .left, .both, .right, .transparent]

def mappedForms : Category.CaseTable := .ofPacked Data.mapped
def validPoints : Array Nat := Category.boundaries Data.validRuns
def markPoints : Array Nat := Category.boundaries Data.markRuns
def directions : Category.ClassTable := .ofPacked Data.directions
def joinings : Category.ClassTable := .ofPacked Data.joinings

def direction (p : Point) : Direction := Direction.numbered.getD (directions.classOf p.val) .other

def joining (p : Point) : Joining := Joining.numbered.getD (joinings.classOf p.val) .none

/-- Whether a name may hold a character as it is. -/
def isValidPoint (p : Point) : Bool := Category.inRuns validPoints p.val

/-- What stands for a character in the form in which names are compared; nothing for one that no name may hold. -/
def mappedForm? (p : Point) : Option Text :=
  if p.val < 128 then some p.lowerForm
  else match mappedForms.form? p.val with
    | some form => some form
    | none => if isValidPoint p then some [p] else none

/-- The form of a name in which it is compared. -/
def mappedName? (name : Text) : Option Text := (name.mapM mappedForm?).map fun forms => Composed.ofText forms.flatten

/-- Whether letters on both sides of an unseen character join over it. The letters before are given nearest first. -/
def joinOver (before after : Text) : Bool :=
  let next (t : Text) : Joining := match t.dropWhile (joining · == .transparent) with
    | p :: _ => joining p
    | [] => .none
  [Joining.left, .both].contains (next before) && [Joining.right, .both].contains (next after)

/-- Whether the unseen joiners of a label stand where they change how it looks. The letters before are given nearest
first. -/
def joinersFit (before : Text) : Text → Bool
  | [] => true
  | p :: rest =>
    let afterVirama := match before with
      | q :: _ => Composed.markClass q == 9
      | [] => false
    let fits := if p.val == 0x200C then afterVirama || joinOver before rest
      else if p.val == 0x200D then afterVirama else true
    fits && joinersFit (p :: before) rest

/-- Whether a label keeps the rules for labels of their own, whatever the others of its name are. -/
def isSound (label : Text) : Bool :=
  joinersFit [] label && match label with
    | p :: _ => !Category.inRuns markPoints p.val
    | [] => true

/-- Whether the directions of a label can be told apart from those around it. -/
def isOneWay (label : Text) : Bool :=
  let all := label.map direction
  let last := (all.reverse.dropWhile (· == .mark)).headD .left
  match all with
  | [] => true
  | first :: _ =>
    if first == .left then
      all.all (fun d => d == .left || Direction.common.contains d) && (last == .left || last == .europeanNumber)
    else if first == .right || first == .arabicLetter then
      all.all (fun d => d.isFromRight || Direction.common.contains d)
        && (last.isFromRight || last == .europeanNumber)
        && !(all.contains .europeanNumber && all.contains .arabicNumber)
    else false

/-- What labels that stand for others begin with. -/
def codedStart : Text := "xn--"

/-- The label that an ASCII label stands for: itself, or the one that is coded in it. Only labels in their mapped form
that need to be coded are. -/
def decodedLabel? (label : Text) : Option Text :=
  if Text.startsWith label codedStart then do
    let decoded ← Punycode.decode? (label.drop codedStart.length)
    let isNeeded := decoded.any fun p => 128 ≤ p.val
    if isNeeded && Text.isScalar decoded && decoded.all isValidPoint && Composed.ofText decoded == decoded
        && !Text.startsWith decoded codedStart then some decoded else none
  else some label

/-- A label as it is sent. -/
def codedLabel (label : Text) : Text :=
  if label.all (·.val < 128) then label else codedStart ++ Punycode.encode label

/-- Whether a character never stands in a name. -/
def isForbidden (p : Point) : Bool :=
  p.val ≤ 32 || p.val == 127 || !isNoneOf ['%', '#', '/', ':', '<', '>', '?', '@', '[', '\\', ']', '^', '|'] p

/-- The labels of a name as people read them, if it is a name. -/
def labelsOf? (name : Text) : Option (List Text) := do
  let mapped ← mappedName? name
  let labels ← (Text.splitAtPoint '.' mapped).mapM decodedLabel?
  let isFromRight := labels.any fun label => label.any fun p => (direction p).isFromRight
  if !mapped.any isForbidden && labels.all isSound && (!isFromRight || labels.all isOneWay) then some labels else none

/-- A name as it is sent. -/
def asciiName (name : Text) : Except Fault Text :=
  match labelsOf? name with
  | some labels => .ok (Text.join "." (labels.map codedLabel))
  | none => .error .hostName

end PhaseScript.Url
