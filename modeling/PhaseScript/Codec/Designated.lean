import PhaseScript.Codec.Japanese
import PhaseScript.Codec.Korean
import PhaseScript.Codec.Chinese
import PhaseScript.Codec.Table
/-
Codecs of seven bits that call up sets of characters by escapes. An escape puts a set into the first place, from which
octets are read, or into the second one, which a shift turns to; some codecs have a third place for single characters.
-/
set_option autoImplicit false

namespace PhaseScript.Codec.Designated

/-- What a set is called up by: its letter, and whether its characters have two octets. -/
structure Mark where
  letter : UInt8
  isDouble : Bool
  deriving DecidableEq, Repr

/-- A set of characters that is called up. -/
structure CharacterPlane where
  mark : Mark
  /-- Whether it goes into the second place. -/
  isSecond : Bool
  /-- The number that a text begins with, and for how many characters it stands. -/
  number? : Text → Option (Nat × Nat)
  /-- The text of a number. -/
  text? : Nat → Option Text

/-- A codec's sets, in the order in which they are tried, and what it knows besides. -/
structure Repertoire where
  name : String
  planes : List CharacterPlane
  hasShift : Bool
  hasThird : Bool

def escape : UInt8 := 0x1B

def shiftOut : UInt8 := 0x0E

def shiftIn : UInt8 := 0x0F

def ascii : Mark := ⟨0x42, false⟩

def latin : Mark := ⟨0x41, false⟩

def greek : Mark := ⟨0x46, false⟩

/-- The sets that are in place. -/
structure State where
  first : Mark
  second : Mark
  third : Mark
  isShifted : Bool
  /-- Whether an escape that calls up nothing is being read. -/
  isThrough : Bool
  deriving DecidableEq, Repr

/-- How every text begins. -/
def State.initial : State := ⟨ascii, ascii, ascii, false, false⟩

/-- The octets that turn to the first place. -/
def unshift (state : State) : Bytes := if state.isShifted then [shiftIn] else []

/-- The octets that put ASCII into the first place. -/
def plainly (state : State) : Bytes :=
  unshift state ++ if state.first == ascii then [] else [escape, 0x28, ascii.letter]

/-- The octets that put a set into place and turn to it, and the state after them. -/
def callUp (plane : CharacterPlane) (state : State) : Bytes × State :=
  let mark := plane.mark
  if plane.isSecond then
    let call : Bytes := if state.second == mark then [] else [escape, 0x24, 0x29, mark.letter]
    (call ++ (if state.isShifted then [] else [shiftOut]), { state with second := mark, isShifted := true })
  else
    let call : Bytes :=
      if state.first == mark then []
      else if !mark.isDouble then [escape, 0x28, mark.letter]
      else if mark.letter == 0x42 then [escape, 0x24, mark.letter]
      else [escape, 0x24, 0x28, mark.letter]
    (unshift state ++ call, { state with first := mark, isShifted := false })

/-- The octets that a text begins with. -/
def put? (sets : Repertoire) (state : State) (t : Text) : Option (Bytes × Nat × State) :=
  match t with
  | [] => none
  | p :: _ =>
    if p.val < 128 then
      some (plainly state ++ [UInt8.ofNat p.val], 1, { state with first := ascii, isShifted := false })
    else
      sets.planes.findSome? fun plane => (plane.number? t).map fun (n, count) =>
        let (call, next) := callUp plane state
        (call ++ (if plane.mark.isDouble then PairTable.octets n else [UInt8.ofNat n]), count, next)

/-- Whether an octet ends an escape. -/
def endsEscape (o : UInt8) : Bool := (0x41 ≤ o && o ≤ 0x5A) || o == 0x40

/-- The most octets that an escape has. -/
def escapeLimit : Nat := 16

/-- The size of an escape from its second octet on, if it ends; none if there are no more octets. An announcement within
does not end it, if there are any. -/
def escapeSize (hasAnnouncements : Bool) : Nat → Nat → Bytes → Option (Option Nat)
  | 0, _, _ => some none
  | _ + 1, _, [] => none
  | fuel + 1, size, o :: rest =>
    if escapeLimit ≤ size then some none
    else if endsEscape o then some (some (size + 1))
    else match rest with
      | q :: more =>
        if hasAnnouncements && o == 0x26 && q == 0x40 then escapeSize hasAnnouncements fuel (size + 3) (more.drop 1)
        else escapeSize hasAnnouncements fuel (size + 1) rest
      | [] => escapeSize hasAnnouncements fuel (size + 1) rest

/-- The place that an escape puts a set into, and the set. -/
def called? (sets : Repertoire) (octets : Bytes) : Option (Nat × Mark) :=
  match octets with
  | [_, b, c] =>
    if b == 0x24 then some (0, ⟨c, true⟩)
    else if b == 0x28 then some (0, ⟨c, false⟩)
    else if b == 0x29 then some (1, ⟨c, false⟩)
    else if b == 0x2E && sets.hasThird then some (2, ⟨c, false⟩)
    else none
  | [_, b, c, d] =>
    if b != 0x24 then none
    else if c == 0x28 then some (0, ⟨d, true⟩)
    else if c == 0x29 then some (1, ⟨d, true⟩)
    else none
  | [_, _, _, d, e, f] =>
    if !sets.hasShift && d == escape && e == 0x24 && f == 0x42 then some (0, ⟨f, true⟩) else none
  | _ => none

/-- Whether a codec knows a set. -/
def Repertoire.knows (sets : Repertoire) (mark : Mark) : Bool :=
  mark == ascii || sets.planes.any (·.mark == mark) || (sets.hasThird && (mark == latin || mark == greek))

/-- Reads an escape that calls up a set. -/
def takeEscape (sets : Repertoire) (state : State) (octets : Bytes) : Taking State :=
  match escapeSize (!sets.hasShift) octets.length 1 (octets.drop 1) with
  | none => .incomplete
  | some none => .illegal 1
  | some (some size) =>
    match called? sets (octets.take size) with
    | none => .illegal size
    | some (place, mark) =>
      if !sets.knows mark then .illegal size
      else .text [] size (match place with
        | 0 => { state with first := mark }
        | 1 => { state with second := mark }
        | _ => { state with third := mark })

/-- The Greek signs that came into their set later. -/
def lateGreek : List Nat := [0x24, 0x25, 0x2A]

/-- The character of an octet in the third place. The Greek set is written with the high bit turned. -/
def third? (mark : Mark) (n : Nat) : Option Point :=
  if mark == greek then
    if lateGreek.contains n then none
    else (table? "iso8859_7").bind fun table => (table[(n + 128) % 256]?).join
  else if 128 ≤ n then none
  else some (Point.ofNat (if mark == latin then n + 128 else n))

/-- Reads a character of a set that has been called up. -/
def takeCalled (sets : Repertoire) (state : State) (mark : Mark) (octets : Bytes) : Taking State :=
  match sets.planes.find? (·.mark == mark) with
  | none => .illegal 1
  | some plane =>
    let size := if mark.isDouble then 2 else 1
    if octets.length < size then .incomplete
    else
      let n := (octets.take size).foldl (fun n o => 256 * n + o.toNat) 0
      match plane.text? n with
      | some t => .text t size state
      | none => .illegal size

/-- Whether the octet after an escape begins the call of a set. -/
def isCall (o : UInt8) : Bool := o == 0x28 || o == 0x29 || o == 0x24 || o == 0x2E || o == 0x26

/-- A step of reading. -/
def take (sets : Repertoire) (state : State) : Bytes → Taking State
  | [] => .incomplete
  | o :: rest =>
    let plain (next : State) : Taking State := .text [Point.ofNat o.toNat] 1 next
    if state.isThrough then plain { state with isThrough := !endsEscape o }
    else if o == escape then
      match rest with
      | [] => .incomplete
      | q :: more =>
        if isCall q then takeEscape sets state (o :: rest)
        else if sets.hasThird && q == 0x4E then
          match more with
          | [] => .incomplete
          | r :: _ => match third? state.third r.toNat with
            | some p => .text [p] 3 state
            | none => .illegal 3
        else plain { state with isThrough := true }
    else if sets.hasShift && o == shiftIn then .text [] 1 { state with isShifted := false }
    else if sets.hasShift && o == shiftOut then .text [] 1 { state with isShifted := true }
    else if o == 10 then plain { state with isShifted := false }
    else if o < 0x20 then plain state
    else if 0x80 ≤ o then .illegal 1
    else
      let mark := if state.isShifted then state.second else state.first
      if mark == ascii then plain state else takeCalled sets state mark (o :: rest)

/-- The codec of a repertoire. -/
def ofSets (sets : Repertoire) : Multibyte State where
  name := sets.name
  start := .initial
  put? := put? sets
  finish := plainly
  take := take sets

/-- A set whose characters are in a table. -/
def ofTable (letter : UInt8) (isSecond : Bool) (table : Thunk PairTable) : CharacterPlane where
  mark := ⟨letter, true⟩
  isSecond := isSecond
  number? t := t.head?.bind fun p => (table.get.number? p).map fun n => (n, 1)
  text? n := (table.get.point? n).map fun p => [p]

/-- JIS X 0208, and its older edition. -/
def jis0208 : CharacterPlane := ofTable 0x42 false Japanese.basic

def jis0208Old : CharacterPlane := ofTable 0x40 false Japanese.basic

def jis0212 : CharacterPlane := ofTable 0x44 false Japanese.supplement

/-- The Latin set of JIS X 0201, with two signs of its own. -/
def jisRoman : CharacterPlane where
  mark := ⟨0x4A, false⟩
  isSecond := false
  number? t := t.head?.bind fun p => (Japanese.romanSign? p).map fun o => (o.toNat, 1)
  text? n := some [Point.ofNat (if n == 0x5C then 0xA5 else if n == 0x7E then 0x203E else n)]

/-- The kana of half a width. -/
def jisKana : CharacterPlane where
  mark := ⟨0x49, false⟩
  isSecond := false
  number? t := t.head?.bind fun p => (Japanese.kanaOctet? p).map fun o => (o.toNat - 128, 1)
  text? n := (Japanese.kana? (n + 128)).map fun p => [p]

def ksx1001 (isSecond : Bool) : CharacterPlane := ofTable 0x43 isSecond Korean.basic

def gb2312 : CharacterPlane := ofTable 0x41 false Chinese.basic

/-- The letter of an edition of JIS X 0213. -/
def editionLetter : Japanese.Edition → UInt8
  | .first => 0x4F
  | .second => 0x51

/-- The place of the wide tilde, which is read as that of ASCII here. -/
def tildePlace : Nat := 0x2232

/-- The text of a place of the first plane of JIS X 0213. -/
def firstText? (edition : Japanese.Edition) (n : Nat) : Option Text :=
  if n == tildePlace then some [Point.ofChar '~'] else edition.text? n

/-- The places of two characters of the first plane of JIS X 0213. -/
def jis0213Both (edition : Japanese.Edition) : CharacterPlane where
  mark := ⟨editionLetter edition, true⟩
  isSecond := false
  number? t := (Japanese.bothNumber? t).map fun n => (n, 2)
  text? := firstText? edition

/-- The first plane of JIS X 0213. -/
def jis0213First (edition : Japanese.Edition) : CharacterPlane where
  mark := ⟨editionLetter edition, true⟩
  isSecond := false
  number? t := t.head?.bind fun p => ((edition.number? p).filter (· != tildePlace)).map fun n => (n, 1)
  text? := firstText? edition

/-- The second plane of JIS X 0213. -/
def jis0213Second (edition : Japanese.Edition) : CharacterPlane where
  mark := ⟨0x50, true⟩
  isSecond := false
  number? t := t.head?.bind fun p => (edition.secondNumber? p).map fun n => (n, 1)
  text? n := (edition.secondPoint? n).map fun p => [p]

/-- The sets of an edition of JIS X 0213, where JIS X 0208 goes first but for places of two characters. -/
def planes0213 (edition : Japanese.Edition) : List CharacterPlane :=
  [jis0213Both edition, jis0208, jis0213First edition, jis0213Second edition]

/-- The codecs that call up sets. -/
def repertoires : List Repertoire :=
  [⟨"iso2022_kr", [ksx1001 true], true, false⟩,
    ⟨"iso2022_jp", [jis0208, jisRoman, jis0208Old], false, false⟩,
    ⟨"iso2022_jp_1", [jis0208, jis0212, jisRoman, jis0208Old], false, false⟩,
    ⟨"iso2022_jp_2", [jis0208, jis0212, ksx1001 false, gb2312, jisRoman, jis0208Old], false, true⟩,
    ⟨"iso2022_jp_2004", planes0213 .second, false, false⟩,
    ⟨"iso2022_jp_3", planes0213 .first, false, false⟩,
    ⟨"iso2022_jp_ext", [jis0208, jis0212, jisRoman, jisKana, jis0208Old], false, false⟩]

end PhaseScript.Codec.Designated
