import PhaseScript.Codec.Basic
import PhaseScript.Number.Bits
/-
The codec that is safe for mail of seven bits: most of ASCII stands as it is, and other characters stand as units of
sixteen bits between a plus and a minus, six bits to a letter.
-/
set_option autoImplicit false

namespace PhaseScript.Codec.Shifted

/-- The letters of six bits, in order. -/
def alphabet : List Char := "ABCDEFGHIJKLMNOPQRSTUVWXYZabcdefghijklmnopqrstuvwxyz0123456789+/".toList

/-- The six bits of a letter. -/
def bits? (o : UInt8) : Option Nat := alphabet.idxOf? (Char.ofNat o.toNat)

/-- The letter of the lowest six bits. -/
def letter (n : Nat) : UInt8 := UInt8.ofNat (alphabet.getD (n % 64) 'A').toNat

/-- Whether a character stands as it is outside a shift, where a plus does not. -/
def standsFreely (p : Point) : Bool :=
  p.is '\t' || p.is '\n' || p.is '\r' || (32 ≤ p.val && p.val < 126 && !(p.is '+' || p.is '\\'))

/-- Writing within a shift or outside of it: the bits that are not yet a letter, and what is written, the last first. -/
structure Writing where
  inShift : Bool
  count : Nat
  buffer : Nat
  written : Bytes

/-- Writes a unit of sixteen bits, of which four at most are left over. -/
def Writing.unit (s : Writing) (n : Nat) : Writing :=
  let count := s.count + 16
  let buffer := s.buffer * 65536 + n
  let letters := (List.range (count / 6)).map fun place => letter (buffer / 2 ^ (count - 6 * (place + 1)))
  ⟨true, count % 6, buffer % 2 ^ (count % 6), letters.reverse ++ s.written⟩

/-- Writes the bits that are left over. -/
def Writing.flush (s : Writing) : Writing :=
  if s.count == 0 then s
  else ⟨s.inShift, 0, 0, letter (s.buffer * 2 ^ (6 - s.count)) :: s.written⟩

/-- Writes the character of an octet as it is. A letter right after a shift is kept apart from it by a minus. -/
def Writing.freely (s : Writing) (o : UInt8) : Writing :=
  if s.inShift then
    let s := s.flush
    ⟨false, 0, 0, o :: (if (bits? o).isSome || o == 45 then [45] else []) ++ s.written⟩
  else { s with written := o :: s.written }

/-- Writes a character. -/
def Writing.put (s : Writing) (p : Point) : Writing :=
  if standsFreely p then s.freely (UInt8.ofNat p.val)
  else if !s.inShift && p.is '+' then { s with written := 45 :: 43 :: s.written }
  else
    let s := if s.inShift then s else { s with written := 43 :: s.written }
    if p.val < 0x10000 then s.unit p.val
    else (s.unit (0xD800 + (p.val - 0x10000) / 1024)).unit (0xDC00 + (p.val - 0x10000) % 1024)

/-- The octets of a text. -/
def encode (t : Text) : Bytes :=
  let s := (t.foldl Writing.put ⟨false, 0, 0, []⟩).flush
  ((if s.inShift then [45] else []) ++ s.written).reverse

/-- What the letters of a shift have given: the bits left over, the half of a pair that waits for the other, and the
characters, the last first. -/
structure Unshifting where
  count : Nat
  buffer : Nat
  high : Option Point
  read : Text

/-- Reads a unit of sixteen bits. -/
def Unshifting.unit (s : Unshifting) (p : Point) : Unshifting :=
  match s.high with
  | some high =>
    if p.isLow then
      { s with high := none, read := Point.ofNat (0x10000 + (high.val - 0xD800) * 1024 + (p.val - 0xDC00)) :: s.read }
    else if p.isHigh then { s with high := some p, read := high :: s.read }
    else { s with high := none, read := p :: high :: s.read }
  | none => if p.isHigh then { s with high := some p } else { s with read := p :: s.read }

/-- Reads the six bits of a letter. -/
def Unshifting.letter (s : Unshifting) (n : Nat) : Unshifting :=
  let count := s.count + 6
  let buffer := s.buffer * 64 + n
  if count < 16 then { s with count, buffer }
  else
    { s with count := count - 16, buffer := buffer % 2 ^ (count - 16) }.unit (Point.ofNat (buffer / 2 ^ (count - 16)))

/-- Reads what follows a plus: the letters of a shift and perhaps the minus at its end. -/
def readShift (after : Bytes) : Reading :=
  let letters := after.takeWhile fun o => (bits? o).isSome
  let s := (letters.filterMap bits?).foldl Unshifting.letter ⟨0, 0, none, []⟩
  let size := 1 + letters.length
  let t := s.read.reverse
  match after.drop letters.length with
  | [] =>
    if s.high.isSome || 6 ≤ s.count || s.buffer != 0 then .fault t size "unterminated shift sequence" else .text t size
  | o :: _ =>
    if letters.isEmpty then
      if o == 45 then .text [Point.ofChar '+'] 2 else .fault [] 2 "ill-formed sequence"
    else if 6 ≤ s.count then .fault t (size + 1) "partial character in shift sequence"
    else if s.buffer != 0 then .fault t (size + 1) "non-zero padding bits in shift sequence"
    else .text (if o < 128 then t ++ s.high.toList else t) (if o == 45 then size + 1 else size)

/-- The next character outside a shift, or a whole shift. -/
def next : Bytes → Reading
  | [] => .done
  | o :: after =>
    if o == 43 then readShift after
    else if o < 128 then .text [Point.ofNat o.toNat] 1
    else .fault [] 1 "unexpected special character"

/-- The codec. -/
def codec : Codec where
  encode _ t := .ok (encode t)
  decode errors octets := OctetReader.decode ⟨"utf7", octets, next⟩ errors 0

end PhaseScript.Codec.Shifted
