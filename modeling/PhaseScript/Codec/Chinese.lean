import PhaseScript.Codec.Multibyte
import PhaseScript.Codec.Table
import PhaseScript.Codec.ChineseData
/-
Codecs of Chinese texts after GB 2312, and the larger sets that have its characters at the same places. Of the unified
ideographs that it has not, the larger sets have all, in order.
-/
set_option autoImplicit false

namespace PhaseScript.Codec.Chinese

/-- The characters of GB 2312, by row and cell. -/
def basic : Thunk PairTable := .mk fun _ => .ofRuns Data.gb2312

/-- The number of a pair of octets with the high bits set. -/
def lowNumber? (a b : Nat) : Option Nat := if a < 128 || b < 128 then none else some (PairTable.number (a - 128) (b - 128))

/-- GB 2312 with the high bits set. -/
def extended : Multibyte Unit :=
  .plain "gb2312"
    (Multibyte.putLow fun p => (basic.get.number? p).map fun n => PairTable.octets (n + 0x8080))
    (Multibyte.takeLow (Multibyte.takePair fun a b => (lowNumber? a b).bind basic.get.point?))

/-- The second octets of pairs: those below the cells of GB 2312, and all. -/
def lowCells : List Nat := List.range' 0x40 63 ++ List.range' 0x80 33

def cells : List Nat := lowCells ++ List.range' 0xA1 94

/-- The numbers of the pairs of some rows. -/
def pairs (first count : Nat) (cells : List Nat) : List Nat :=
  (List.range' first count).flatMap fun a => cells.map fun b => PairTable.number a b

/-- The unified ideographs that the larger sets have in order: first the rows before GB 2312, and then the low cells of
rows after its signs. -/
def ideographs : List (Nat × Nat) :=
  let table := basic.get
  let others := (List.range' 0x4E00 (0x9FA6 - 0x4E00)).filter fun n => (table.number? (Point.ofNat n)).isNone
  (pairs 0x81 32 cells ++ pairs 0xAA 85 lowCells).zip others

/-- Signs that stand at places where GB 2312 has others. -/
def changedSigns : List (Nat × Nat) := [(0xA1A4, 0xB7), (0xA1AA, 0x2014)]

/-- The pairs of the first extension, and their characters. -/
def largerEntries : List (Nat × Nat) :=
  let kept := ((PairTable.entries Data.gb2312).map fun (n, p) => (n + 0x8080, p)).filter fun entry =>
    !changedSigns.any fun changed => changed.1 == entry.1
  kept ++ changedSigns ++ PairTable.entries Data.gbkSigns ++ ideographs

/-- The characters of the first extension. -/
def larger : Thunk PairTable := .mk fun _ => .ofEntries largerEntries

/-- The first extension of GB 2312. -/
def gbk : Multibyte Unit :=
  .plain "gbk"
    (Multibyte.putLow fun p => (larger.get.number? p).map PairTable.octets)
    (Multibyte.takeLow (Multibyte.takePair fun a b => larger.get.point? (PairTable.number a b)))

/-- The pairs for private use. -/
def privatePairs : List Nat :=
  pairs 0xAA 6 (List.range' 0xA1 94) ++ pairs 0xF8 7 (List.range' 0xA1 94) ++ pairs 0xA1 7 lowCells

/-- The first private character. -/
def firstPrivate : Nat := 0xE000

/-- The pairs of the national set. Private characters stand at all places that are left, but for those that were taken
since. -/
def nationalEntries : List (Nat × Nat) :=
  let used := privatePairs.zipIdx.map fun (n, place) => (n, firstPrivate + place)
  let table := PairTable.ofEntries (largerEntries ++ used)
  let taken := PairTable.entries Data.gb18030Signs
  let free := (pairs 0x81 126 cells).filter fun n => (table.point? n).isNone
  let left := free.zipIdx.map fun (n, place) => (n, firstPrivate + privatePairs.length + place)
  largerEntries ++ used ++ taken ++ left.filter fun entry => !taken.any fun other => other.1 == entry.1

/-- The pairs of the national set. -/
def national : Thunk PairTable := .mk fun _ => .ofEntries nationalEntries

/-- The characters of the first plane that have no pair, in order. -/
def quadPoints : Thunk (Array Nat) := .mk fun _ =>
  let table := national.get
  ((List.range' 0x80 (0xD800 - 0x80) ++ List.range' 0xE000 0x2000).filter fun n =>
    (table.number? (Point.ofNat n)).isNone).toArray

/-- The four octets of a number, where the second and the fourth are digits. -/
def quadOctets (n : Nat) : Bytes :=
  [UInt8.ofNat (0x81 + n / 12600), UInt8.ofNat (0x30 + n / 1260 % 10), UInt8.ofNat (0x81 + n / 10 % 126),
    UInt8.ofNat (0x30 + n % 10)]

/-- The number from which on four octets stand for the characters of the other planes. -/
def quadPlanes : Nat := (0x90 - 0x81) * 12600

/-- The four octets of a character without a pair. -/
def quad? (p : Point) : Option Bytes :=
  if 0x10000 ≤ p.val then some (quadOctets (quadPlanes + (p.val - 0x10000)))
  else (quadPoints.get.idxOf? p.val).map quadOctets

/-- The character of a number of four octets. -/
def quadPoint? (n : Nat) : Option Point :=
  if quadPlanes ≤ n then
    if n - quadPlanes < 0x100000 then some (Point.ofNat (0x10000 + (n - quadPlanes))) else none
  else quadPoints.get[n]?.map Point.ofNat

/-- What stands where a digit is the second octet. -/
def takeQuad (a b : Nat) : Bytes → Taking Unit
  | c :: d :: _ =>
    let c := c.toNat
    let d := d.toNat
    if a < 0x81 || a == 0xFF || c < 0x81 || c == 0xFF || d < 0x30 || d > 0x39 then .illegal 1
    else match quadPoint? (((a - 0x81) * 10 + (b - 0x30)) * 1260 + (c - 0x81) * 10 + (d - 0x30)) with
      | some p => .text [p] 4 ()
      | none => .illegal 1
  | _ => .incomplete

/-- The national set, which has all characters. -/
def gb18030 : Multibyte Unit :=
  .plain "gb18030"
    (Multibyte.putLow fun p => ((national.get.number? p).map PairTable.octets).or (quad? p))
    (Multibyte.takeLow fun a rest =>
      match rest with
      | b :: more =>
        let b := b.toNat
        if 0x30 ≤ b && b ≤ 0x39 then takeQuad a b more
        else Multibyte.takePair (fun a b => national.get.point? (PairTable.number a b)) a rest
      | [] => .incomplete)

/-- The tilde and the brace that open GB 2312 within ASCII, and those that close it. -/
def opening : Bytes := [0x7E, 0x7B]

def closing : Bytes := [0x7E, 0x7D]

/-- The octets of a character in mail of seven bits, and whether GB 2312 is open after them. A tilde of ASCII is
doubled. -/
def putMail (isOpen : Bool) : Text → Option (Bytes × Nat × Bool)
  | [] => none
  | p :: _ =>
    if p.val < 128 then
      let o := UInt8.ofNat p.val
      some ((if isOpen then closing else []) ++ (if p.is '~' then [o, o] else [o]), 1, false)
    else (basic.get.number? p).map fun n => ((if isOpen then [] else opening) ++ PairTable.octets n, 1, true)

/-- A step of reading mail of seven bits. -/
def takeMail (isOpen : Bool) : Bytes → Taking Bool
  | [] => .incomplete
  | a :: rest =>
    if a == 0x7E then
      match rest with
      | [] => .incomplete
      | b :: _ =>
        if b == 0x7E && !isOpen then .text [Point.ofChar '~'] 2 false
        else if b == 0x7B && !isOpen then .text [] 2 true
        else if b == 10 && !isOpen then .text [] 2 false
        else if b == 0x7D && isOpen then .text [] 2 false
        else .illegal 1
    else if 128 ≤ a.toNat then .illegal 1
    else if !isOpen then .text [Point.ofNat a.toNat] 1 false
    else match rest with
      | [] => .incomplete
      | b :: _ => match basic.get.point? (PairTable.number a.toNat b.toNat) with
        | some p => .text [p] 2 true
        | none => .illegal 1

/-- The codec for mail of seven bits, in which GB 2312 is opened and closed within ASCII. -/
def mail : Multibyte Bool where
  name := "hz"
  start := false
  put? := putMail
  finish isOpen := if isOpen then closing else []
  take := takeMail

end PhaseScript.Codec.Chinese
