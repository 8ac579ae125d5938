import PhaseScript.Codec.Multibyte
import PhaseScript.Codec.Table
import PhaseScript.Codec.JapaneseData
/-
Codecs of Japanese texts. The sets of characters have 94 rows of 94 cells, numbered from 21 to 7E; kana of half a width
have one octet.
-/
set_option autoImplicit false

namespace PhaseScript.Codec

namespace Japanese

/-- The characters of JIS X 0208. -/
def basic : Thunk PairTable := .mk fun _ => .ofRuns Data.jis0208

/-- The characters of JIS X 0212. -/
def supplement : Thunk PairTable := .mk fun _ => .ofRuns Data.jis0212

/-- The first plane of JIS X 0213, but for places of two characters. -/
def firstPlane : Thunk PairTable := .mk fun _ => .ofRuns (Data.jis0208 ++ Data.jis0213)

/-- The second plane of JIS X 0213. -/
def secondPlane : Thunk PairTable := .mk fun _ => .ofRuns Data.jis0213Second

/-- What code page 932 has besides JIS X 0208. -/
def page932 : Thunk PairTable := .mk fun _ => .ofRuns Data.codePage932

/-- The characters that came into JIS X 0213 in the year 2004. -/
def lateNumbers : List Nat :=
  [0x2E21, 0x2F7E, 0x4F54, 0x4F7E, 0x7427, 0x7E7A, 0x7E7B, 0x7E7C, 0x7E7D, 0x7E7E]

/-- The kana of half a width that an octet stands for. -/
def kana? (o : Nat) : Option Point := if 0xA1 ≤ o && o ≤ 0xDF then some (Point.ofNat (o + 0xFEC0)) else none

/-- The octet of a kana of half a width. -/
def kanaOctet? (p : Point) : Option UInt8 :=
  if 0xFF61 ≤ p.val && p.val ≤ 0xFF9F then some (UInt8.ofNat (p.val - 0xFEC0)) else none

/-- The sign that stands in the place of a sign of ASCII: the yen and the line above. -/
def romanSign? (p : Point) : Option UInt8 := if p.val == 0xA5 then some 0x5C else if p.val == 0x203E then some 0x7E else none

/-- A row and a cell with the high bits set. -/
def highOctets (n : Nat) : Bytes := PairTable.octets (n + 0x8080)

/-- The number of a pair of octets with the high bits set. -/
def lowNumber? (a b : Nat) : Option Nat := if a < 128 || b < 128 then none else some (PairTable.number (a - 128) (b - 128))

/-- Whether an octet may begin a pair in the shifted form. -/
def isShiftedLead (o : Nat) : Bool := (0x81 ≤ o && o ≤ 0x9F) || (0xE0 ≤ o && o ≤ 0xFC)

/-- The row, counted from zero, and the cell of a pair in the shifted form, which has two rows for each first octet. -/
def shiftedPlace? (a b : Nat) : Option (Nat × Nat) :=
  if !isShiftedLead a || b < 0x40 || b == 0x7F || b > 0xFC then none
  else
    let row := 2 * (if a < 0xE0 then a - 0x81 else a - 0xC1)
    let cell := if b < 0x80 then b - 0x40 else b - 0x41
    some (if cell < 94 then (row, cell + 0x21) else (row + 1, cell - 94 + 0x21))

/-- The number of a pair in the shifted form, if it is in the first 94 rows. -/
def shiftedNumber? (a b : Nat) : Option Nat :=
  (shiftedPlace? a b).bind fun (row, cell) => if row < 94 then some (PairTable.number (row + 0x21) cell) else none

/-- The octets in the shifted form of a row, counted from zero, and a cell. -/
def shiftedOctets (row cell : Nat) : Bytes :=
  let first := row / 2
  let second := cell - 0x21 + row % 2 * 94
  [UInt8.ofNat (first + if first < 0x1F then 0x81 else 0xC1), UInt8.ofNat (second + if second < 0x3F then 0x40 else 0x41)]

/-- The octets of a number in the shifted form. -/
def shiftedOf (n : Nat) : Bytes := shiftedOctets (n / 256 - 0x21) (n % 256)

/-- The shifted form, in which kana of half a width stand between the octets that begin pairs. The rows that EB and later
ones begin have no characters. -/
def shifted : Multibyte Unit :=
  .plain "shift_jis"
    (Multibyte.putLow fun p =>
      (((romanSign? p).or (kanaOctet? p)).map fun o => [o]).or ((basic.get.number? p).map shiftedOf))
    (Multibyte.takeLow fun a rest =>
      match kana? a with
      | some p => .text [p] 1 ()
      | none =>
        if isShiftedLead a && a < 0xEB then
          Multibyte.takePair (fun a b => (shiftedNumber? a b).bind basic.get.point?) a rest
        else .illegal 1)

/-- The characters of one octet of code page 932, but for kana. -/
def page932Singles : List (Nat × Nat) := [(0x80, 0x80), (0xA0, 0xF8F0), (0xFD, 0xF8F1), (0xFE, 0xF8F2), (0xFF, 0xF8F3)]

/-- Signs that code page 932 writes where JIS X 0208 has them, and reads as signs of full width. -/
def page932Signs : List (Nat × Nat) :=
  [(0x8191, 0xA2), (0x8192, 0xA3), (0x81CA, 0xAC), (0x8161, 0x2016), (0x817C, 0x2212), (0x8160, 0x301C)]

/-- The number of cells of a row in the shifted form. -/
def shiftedCells : Nat := 188

/-- The pair of a character of code page 932. Some pairs of the extensions are read and never written. -/
def page932Number? (p : Point) : Option Bytes :=
  match (page932Signs.find? fun entry => entry.2 == p.val) with
  | some (number, _) => some (PairTable.octets number)
  | none =>
    match (page932.get.number? p), basic.get.number? p with
    | some number, none => some (PairTable.octets number)
    | some number, some basicNumber =>
      if number < 0x8740 then some (PairTable.octets number) else some (shiftedOf basicNumber)
    | none, some number => some (shiftedOf number)
    | none, none =>
      if 0xE000 ≤ p.val && p.val < 0xE000 + 10 * shiftedCells then
        let place := p.val - 0xE000
        let cell := place % shiftedCells
        some [UInt8.ofNat (0xF0 + place / shiftedCells), UInt8.ofNat (if cell < 0x3F then cell + 0x40 else cell + 0x41)]
      else none

/-- The character of a pair of code page 932. -/
def page932Point? (a b : Nat) : Option Point :=
  match page932.get.point? (PairTable.number a b) with
  | some p => some p
  | none =>
    if 0xF0 ≤ a && a ≤ 0xF9 then
      if b < 0x40 || b == 0x7F || b > 0xFC then none
      else some (Point.ofNat (0xE000 + shiftedCells * (a - 0xF0) + (if b < 0x7F then b - 0x40 else b - 0x41)))
    else (shiftedNumber? a b).bind basic.get.point?

/-- Code page 932: the shifted form with signs and ideographs of several makers, and private characters. -/
def codePage932 : Multibyte Unit :=
  .plain "cp932"
    (Multibyte.putLow fun p =>
      ((kanaOctet? p).map fun o => [o]).or
        (((page932Singles.find? fun entry => entry.2 == p.val).map fun entry => [UInt8.ofNat entry.1]).or
          (page932Number? p)))
    (Multibyte.takeLow fun a rest =>
      match (kana? a).or ((page932Singles.find? fun entry => entry.1 == a).map fun entry => Point.ofNat entry.2) with
      | some p => .text [p] 1 ()
      | none => Multibyte.takePair page932Point? a rest)

/-- What follows the octet 8E, which comes before kana of half a width. -/
def takeKana : Bytes → Taking Unit
  | [] => .incomplete
  | o :: _ => match kana? o.toNat with
    | some p => .text [p] 2 ()
    | none => .illegal 1

/-- What follows the octet 8F, which comes before pairs of other sets. -/
def takeOther (point? : Nat → Option Point) : Bytes → Taking Unit
  | a :: b :: _ => match (lowNumber? a.toNat b.toNat).bind point? with
    | some p => .text [p] 3 ()
    | none => .illegal 1
  | _ => .incomplete

/-- The form in which pairs have the high bits set. -/
def extended : Multibyte Unit :=
  .plain "euc_jp"
    (Multibyte.putLow fun p =>
      ((kanaOctet? p).map fun o => [0x8E, o]).or
        (((romanSign? p).map fun o => [o]).or
          (((basic.get.number? p).map highOctets).or
            ((supplement.get.number? p).map fun n => 0x8F :: highOctets n))))
    (Multibyte.takeLow fun a rest =>
      if a == 0x8E then takeKana rest
      else if a == 0x8F then takeOther supplement.get.point? rest
      else Multibyte.takePair (fun a b => (lowNumber? a b).bind basic.get.point?) a rest)

/-- The two characters of a place of the first plane. -/
def bothOf? (n : Nat) : Option Text :=
  (Data.jis0213Pairs.find? fun entry => entry.1 == n).map fun entry => Text.ofString entry.2

/-- The place that a text begins with, if it is one of two characters. -/
def bothNumber? (t : Text) : Option Nat :=
  (Data.jis0213Pairs.find? fun entry => Text.ofString entry.2 == t.take 2).map (·.1)

/-- The edition of JIS X 0213. -/
inductive Edition where
  | first
  | second
  deriving DecidableEq, Repr

/-- The text of a place of the first plane. -/
def Edition.text? (edition : Edition) (n : Nat) : Option Text :=
  if edition == .first && lateNumbers.contains n then none
  else (bothOf? n).or ((firstPlane.get.point? n).map fun p => [p])

/-- The character of a place of the second plane. One was changed. -/
def Edition.secondPoint? (edition : Edition) (n : Nat) : Option Point :=
  if edition == .first && n == 0x7D3B then some (Point.ofNat 0x9B1D) else secondPlane.get.point? n

/-- The text of a place of the first plane, or how many octets are at fault: one, but two where a later edition has a
character. -/
def Edition.textAt (edition : Edition) : Option Nat → Except Nat Text
  | none => .error 1
  | some n => match edition.text? n with
    | some t => .ok t
    | none => .error (if lateNumbers.contains n then 2 else 1)

/-- Whether a character has a place only in a later edition. -/
def Edition.lacks (edition : Edition) (p : Point) : Bool :=
  edition == .first && (p.val == 0x9B1C || ((firstPlane.get.number? p).map lateNumbers.contains).getD false)

/-- The place of a character in the first plane. -/
def Edition.number? (edition : Edition) (p : Point) : Option Nat :=
  if edition.lacks p then none else firstPlane.get.number? p

/-- The place of a character in the second plane. -/
def Edition.secondNumber? (edition : Edition) (p : Point) : Option Nat :=
  if edition.lacks p then none
  else if edition == .first && p.val == 0x9B1D then some 0x7D3B
  else secondPlane.get.number? p

/-- What a text begins with: a place of two characters, or that of one. -/
def putBoth (single : Point → Option Bytes) (double : Nat → Bytes) (_ : Unit) (t : Text) : Option (Bytes × Nat × Unit) :=
  match bothNumber? t, t with
  | some n, _ => some (double n, 2, ())
  | none, p :: _ => (single p).map fun octets => (octets, 1, ())
  | none, [] => none

/-- A text of two octets, given the first. -/
def takeText (text : Nat → Nat → Except Nat Text) (a : Nat) : Bytes → Taking Unit
  | [] => .incomplete
  | b :: _ => match text a b.toNat with
    | .ok t => .text t 2 ()
    | .error size => .illegal size

/-- The form with the high bits set, of JIS X 0213. The other sets are its second plane and JIS X 0212. -/
def extended0213 (name : String) (edition : Edition) : Multibyte Unit where
  name := name
  start := ()
  put? := putBoth
    (Multibyte.putLow fun p =>
      if edition.lacks p then none
      else
        ((kanaOctet? p).map fun o => [0x8E, o]).or
          (((edition.number? p).map highOctets).or
            (((edition.secondNumber? p).or (supplement.get.number? p)).map fun n => 0x8F :: highOctets n)))
    highOctets
  finish _ := []
  take _ := Multibyte.takeLow fun a rest =>
    if a == 0x8E then takeKana rest
    else if a == 0x8F then takeOther (fun n => (edition.secondPoint? n).or (supplement.get.point? n)) rest
    else takeText (fun a b => edition.textAt (lowNumber? a b)) a rest

/-- The rows of the second plane, in the order in which the shifted form has them after the first plane. -/
def secondRows : List Nat := [0x21, 0x28, 0x23, 0x24, 0x25, 0x2C, 0x2D, 0x2E, 0x2F] ++ List.range' 0x6E 17

/-- Signs of ASCII that have two octets in the shifted form of JIS X 0213. -/
def wideSigns : List (Nat × Nat) := [(0x2140, 0x5C), (0x2232, 0x7E)]

/-- The octets of a place of the second plane in the shifted form. -/
def shiftedSecond? (n : Nat) : Option Bytes :=
  (secondRows.idxOf? (n / 256)).map fun place => shiftedOctets (94 + place) (n % 256)

/-- The octets of one character in the shifted form of JIS X 0213. -/
def shifted0213Single (edition : Edition) (p : Point) : Option Bytes :=
  match wideSigns.find? fun entry => entry.2 == p.val with
  | some (n, _) => some (shiftedOf n)
  | none =>
    if p.val < 128 then some [UInt8.ofNat p.val]
    else
      (((romanSign? p).or (kanaOctet? p)).map fun o => [o]).or
        ((((edition.number? p).filter fun n => !wideSigns.any fun entry => entry.1 == n).map shiftedOf).or
          ((edition.secondNumber? p).bind shiftedSecond?))

/-- The text of a pair in the shifted form of JIS X 0213. -/
def shifted0213Text (edition : Edition) (a b : Nat) : Except Nat Text :=
  match shiftedPlace? a b with
  | none => .error 1
  | some (row, cell) =>
    if row < 94 then
      let n := PairTable.number (row + 0x21) cell
      match wideSigns.find? fun entry => entry.1 == n with
      | some (_, sign) => .ok [Point.ofNat sign]
      | none => edition.textAt (some n)
    else match secondRows[row - 94]?.bind fun row => edition.secondPoint? (PairTable.number row cell) with
      | some p => .ok [p]
      | none => .error 1

/-- The shifted form of JIS X 0213. Two octets of ASCII stand for other signs. -/
def shifted0213 (name : String) (edition : Edition) : Multibyte Unit where
  name := name
  start := ()
  put? := putBoth (shifted0213Single edition) shiftedOf
  finish _ := []
  take _ := fun octets => match octets with
    | [] => .incomplete
    | o :: rest =>
      let a := o.toNat
      if a == 0x5C then .text [Point.ofNat 0xA5] 1 ()
      else if a == 0x7E then .text [Point.ofNat 0x203E] 1 ()
      else if a < 128 then .text [Point.ofNat a] 1 ()
      else match kana? a with
        | some p => .text [p] 1 ()
        | none => if isShiftedLead a then takeText (shifted0213Text edition) a rest else .illegal 1

end Japanese

end PhaseScript.Codec
