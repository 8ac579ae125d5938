import PhaseScript.Codec.Multibyte
import PhaseScript.Codec.Table
import PhaseScript.Codec.KoreanData
/-
Codecs of Korean texts. KS X 1001 has some of the Hangul syllables; the codecs differ in how they write the others, each of
which is a first consonant, a vowel and perhaps a last consonant.
-/
set_option autoImplicit false

namespace PhaseScript.Codec.Korean

/-- The characters of KS X 1001. -/
def basic : Thunk PairTable := .mk fun _ => .ofRuns Data.ksx1001

/-- A row and a cell with the high bits set. -/
def highOctets (n : Nat) : Bytes := PairTable.octets (n + 0x8080)

/-- The character of a pair of octets with the high bits set. -/
def highPoint? (a b : Nat) : Option Point :=
  if a < 128 || b < 128 then none else basic.get.point? (PairTable.number (a - 128) (b - 128))

/-- The first Hangul syllable, and how many there are. -/
def firstSyllable : Nat := 0xAC00

def syllableCount : Nat := 11172

def isSyllable (n : Nat) : Bool := firstSyllable ≤ n && n < firstSyllable + syllableCount

/-- The parts of a syllable: its first consonant, its vowel and its last consonant, where zero is none. -/
def parts (n : Nat) : Nat × Nat × Nat :=
  let place := n - firstSyllable
  (place / 588, place / 28 % 21, place % 28)

/-- The syllable of three parts. -/
def ofParts (first vowel last : Nat) : Nat := firstSyllable + first * 588 + vowel * 28 + last

/-- Where the first consonants stand among the letters of KS X 1001, from the cell A1 on. -/
def firstCells : List Nat :=
  [0xA1, 0xA2, 0xA4, 0xA7, 0xA8, 0xA9, 0xB1, 0xB2, 0xB3, 0xB5, 0xB6, 0xB7, 0xB8, 0xB9, 0xBA, 0xBB, 0xBC, 0xBD, 0xBE]

/-- Where the last consonants stand; in place of none stands the filler. -/
def lastCells : List Nat :=
  [0xD4, 0xA1, 0xA2, 0xA3, 0xA4, 0xA5, 0xA6, 0xA7, 0xA9, 0xAA, 0xAB, 0xAC, 0xAD, 0xAE, 0xAF, 0xB0, 0xB1, 0xB2, 0xB4,
    0xB5, 0xB6, 0xB7, 0xB8, 0xBA, 0xBB, 0xBC, 0xBD, 0xBE]

/-- The row of the letters, and the cell of the filler, which begins a syllable that is spelled out. -/
def letterRow : UInt8 := 0xA4

def fillerCell : UInt8 := 0xD4

/-- A syllable spelled out in letters. -/
def spelled (n : Nat) : Bytes :=
  let (first, vowel, last) := parts n
  [letterRow, fillerCell, letterRow, UInt8.ofNat (firstCells.getD first 0), letterRow, UInt8.ofNat (0xBF + vowel),
    letterRow, UInt8.ofNat (lastCells.getD last 0)]

/-- The syllable that letters spell. -/
def ofSpelled? (first vowel last : Nat) : Option Nat := do
  let first ← firstCells.idxOf? first
  let last ← lastCells.idxOf? last
  if 0xBF ≤ vowel && vowel ≤ 0xD3 then some (ofParts first (vowel - 0xBF) last) else none

/-- What octets that begin with a filler stand for. -/
def takeSpelled : Bytes → Taking Unit
  | [_, _, a, first, b, vowel, c, last] =>
    if a == letterRow && b == letterRow && c == letterRow then
      match ofSpelled? first.toNat vowel.toNat last.toNat with
      | some n => .text [Point.ofNat n] 8 ()
      | none => .illegal 1
    else .illegal 1
  | _ => .incomplete

/-- KS X 1001 with the high bits set; other syllables are spelled out. -/
def extended : Multibyte Unit :=
  .plain "euc_kr"
    (Multibyte.putLow fun p =>
      match basic.get.number? p with
      | some n => some (highOctets n)
      | none => if isSyllable p.val then some (spelled p.val) else none)
    fun octets => Multibyte.takeLow (fun a rest =>
      match rest with
      | b :: _ =>
        if a == letterRow.toNat && b == fillerCell then takeSpelled (octets.take 8)
        else Multibyte.takePair highPoint? a rest
      | [] => .incomplete) octets

/-- The syllables that KS X 1001 has not, in order. -/
def otherSyllables : Thunk (Array Nat) := .mk fun _ =>
  let table := basic.get
  ((List.range' firstSyllable syllableCount).filter fun n => (table.number? (Point.ofNat n)).isNone).toArray

/-- The second octets of pairs for other syllables: letters, and what has the high bit set. -/
def otherCells : List Nat := List.range' 0x41 26 ++ List.range' 0x61 26 ++ List.range' 0x81 126

/-- How many cells there are in the first 32 rows of other syllables, and in those next to KS X 1001. -/
def wideRow : Nat := 178

def narrowRow : Nat := 84

/-- The pair for the other syllable at a place. -/
def otherOctets (place : Nat) : Bytes :=
  let (row, cell) :=
    if place < 32 * wideRow then (place / wideRow, place % wideRow)
    else (32 + (place - 32 * wideRow) / narrowRow, (place - 32 * wideRow) % narrowRow)
  [UInt8.ofNat (0x81 + row), UInt8.ofNat (otherCells.getD cell 0)]

/-- The place among the other syllables of a pair. -/
def otherPlace? (a b : Nat) : Option Nat := do
  let cell ← otherCells.idxOf? b
  if a < 0x81 then none
  else if a ≤ 0xA0 then some ((a - 0x81) * wideRow + cell)
  else if cell < narrowRow then some (32 * wideRow + (a - 0xA1) * narrowRow + cell)
  else none

/-- Code page 949: KS X 1001 with the high bits set, and other syllables between. -/
def codePage949 : Multibyte Unit :=
  .plain "cp949"
    (Multibyte.putLow fun p =>
      match basic.get.number? p with
      | some n => some (highOctets n)
      | none => (otherSyllables.get.idxOf? p.val).map otherOctets)
    (Multibyte.takeLow (Multibyte.takePair fun a b =>
      (highPoint? a b).or ((otherPlace? a b).bind fun place => otherSyllables.get[place]?.map Point.ofNat)))

/-- The five bits of vowels, in order. -/
def vowelBits : List Nat := [3, 4, 5, 6, 7, 10, 11, 12, 13, 14, 15, 18, 19, 20, 21, 22, 23, 26, 27, 28, 29]

/-- The five bits of last consonants, in order, from the one that stands for none. -/
def lastBits : List Nat := List.range' 1 17 ++ List.range' 19 11

/-- The letters that stand alone as first consonants, in order; each has two as its vowel and one as its last
consonant. -/
def firstLetters : List Nat :=
  [0x3131, 0x3132, 0x3134, 0x3137, 0x3138, 0x3139, 0x3141, 0x3142, 0x3143] ++ List.range' 0x3145 10

/-- The letters that stand alone as last consonants, in order. -/
def lastLetters : List Nat :=
  List.range' 0x3131 7 ++ List.range' 0x3139 9 ++ [0x3142] ++ List.range' 0x3144 5 ++ List.range' 0x314A 5

/-- The first vowel among the letters. -/
def firstVowel : Nat := 0x314F

/-- The pair that is made of the bits of three parts. -/
def ofBits (first vowel last : Nat) : Nat := 0x8000 + first * 1024 + vowel * 32 + last

/-- The bits for no first consonant and no last one, and those for no vowel. -/
def noConsonant : Nat := 1

def noVowel : Nat := 2

/-- The number of a letter that stands alone. -/
def letterNumber? (n : Nat) : Option Nat :=
  match firstLetters.idxOf? n with
  | some place => some (ofBits (place + 2) noVowel noConsonant)
  | none => match lastLetters.idxOf? n with
    | some place => some (ofBits noConsonant noVowel (lastBits.getD (place + 1) 0))
    | none =>
      if firstVowel ≤ n && n < firstVowel + 21 then
        some (ofBits noConsonant (vowelBits.getD (n - firstVowel) 0) noConsonant)
      else none

/-- The character that three parts of five bits stand for. -/
def ofBits? (first vowel last : Nat) : Option Nat := do
  let first ← if first == noConsonant then some none else if first < 2 then none
    else if first - 2 < firstCells.length then some (some (first - 2)) else none
  let vowel ← if vowel == noVowel then some none else (vowelBits.idxOf? vowel).map some
  let last ← lastBits.idxOf? last
  match first, vowel with
  | none, none => if last == 0 then some 0x3000 else lastLetters[last - 1]?
  | none, some vowel => if last == 0 then some (firstVowel + vowel) else none
  | some first, none => if last == 0 then firstLetters[first]? else none
  | some first, some vowel => some (ofParts first vowel last)

/-- The pair of a sign or an ideograph, whose rows come two by two. -/
def signOctets? (n : Nat) : Option Bytes :=
  let row := n / 256
  let cell := n % 256
  if (0x21 ≤ row && row ≤ 0x2C) || (0x4A ≤ row && row ≤ 0x7D) then
    let row := row - 0x21 + if row < 0x4A then 0x1B2 else 0x197
    let cell := cell - 0x21 + row % 2 * 94
    some [UInt8.ofNat (row / 2), UInt8.ofNat (if cell < 0x4E then cell + 0x31 else cell + 0x43)]
  else none

/-- The number of a pair of a sign or an ideograph. -/
def signNumber? (a b : Nat) : Option Nat :=
  if a == 0xDF || a < 0xD9 || a > 0xF9 || b < 0x31 || (0x80 ≤ b && b < 0x91) || b % 128 == 0x7F
      || (a == 0xDA && 0xA1 ≤ b && b ≤ 0xD3) then none
  else
    let row := if a < 0xE0 then 2 * (a - 0xD9) else 2 * a - 0x197
    let cell := if b < 0x91 then b - 0x31 else b - 0x43
    some (if cell < 94 then PairTable.number (row + 0x21) (cell + 0x21)
      else PairTable.number (row + 0x22) (cell - 94 + 0x21))

/-- The character of a pair in which a syllable has five bits for each part. -/
def combinedPoint? (a b : Nat) : Option Point :=
  if a < 0xD8 then
    let n := PairTable.number a b
    (ofBits? (n / 1024 % 32) (n / 32 % 32) (n % 32)).map Point.ofNat
  else (signNumber? a b).bind basic.get.point?

/-- The form in which a syllable has five bits for each part. -/
def combined : Multibyte Unit :=
  .plain "johab"
    (Multibyte.putLow fun p =>
      if isSyllable p.val then
        let (first, vowel, last) := parts p.val
        some (PairTable.octets (ofBits (first + 2) (vowelBits.getD vowel 0) (lastBits.getD last 0)))
      else match letterNumber? p.val with
        | some n => some (PairTable.octets n)
        | none => (basic.get.number? p).bind signOctets?)
    (Multibyte.takeLow (Multibyte.takePair combinedPoint?))

end PhaseScript.Codec.Korean
