import PhaseScript.Codec.Basic
import PhaseScript.Text.Quoted
import PhaseScript.Url.Label
/-
The codecs for the names of hosts in their older form: one for the coded part of a label alone, and one for whole
names. A name is prepared label by label; what may not stand in a label refuses the whole. Where the older form differs
from the present one is packed as the tables of characters are.
-/
set_option autoImplicit false

namespace PhaseScript.Codec.Data

/-- Packed table: the points that are prepared in another way, with what stands for each. -/
def prepared : String :=
  "-GC3G3GjXBC6pDBAjDBABBAgSBg9rCBBg9rCBBg9rCBBg9rCBBg9rCBBg9rCBBg9rCBBg9rCBBg9rCBBg9rCBBg9rCBBg9rCBBg9" ++
    "rCBBg9rCBBg9rCBBg9rCBBg9rCBBg9rCBBg9rCBBg9rCBBg9rCBBg9rCBBg9rCBBg9rCBBg9rCBBg9rCBBg9rCBBg9rCBBg9rCBB" ++
    "g9rCBBg9rCBBg9rCBBg9rCBBg9rCBBg9rCBBg9rCBBg9rCBBg9rCBBg9rCBBg9rCBBg9rCBBg9rCBBg9rCBBg9rCBBg9rCBBg9rC" ++
    "BBg9rCBBg9rCBBg9rCBBg9rCBBg9rCBBg9rCBBg9rCBBg9rCBBg9rCBBg9rCBBg9rCBBg9rCBBg9rCBBg9rCBBg9rCBBg9rCBBg9" ++
    "rCBBg9rCBBg9rCBBg9rCBBg9rCBBg9rCBBg9rCBBg9rCBBg9rCBBg9rCBBg9rCBBg9rCBBg9rCBBg9rCBBg9rCBBg9rCBBg9rCBB" ++
    "g9rCBBQBBQBBQBBQBBQBBQDBABBABBABBABBABBA3dBABBAxCAJBAxjBBABBABBABBABBABBABBABBABBABBAjFBABBABBACBABB" ++
    "ABBABBABBABBABBABBABBABBABBACBABBABBABBABBABBABBABBABBABBABBABBABBABBABBABBABBABBACBABBABBABBABBABBA" ++
    "BBABBABBABBABBABBABBABBABBABBABBABBABBABBABBABBABBABBABBABBABBABBAOBAjBBABBABBABBABBABBABBABBABBABBA" ++
    "BBABBABBABBABBABBABBABBABBABBABBABBABBABBABBABBABBABBABBABBABBABBABBABBABBABBABBA-GC1iP1iPuLABAXBr-P" ++
    "BCt-Pt-PBDv-Pv-Pv-P+BBAsBBABBABBABBABBABBABBABBABBABBABBABBABBA-EBABBAUBABBABBA3BBA-XCtlSzlSBCtlS1lS" ++
    "BCtlS3lSBCtlS5lSBCtlS7lSBCtlS9lSBCtlS-lSBCtlShmSBCtlSjmSBD-lShmSlmSBDhmShmSnmSBDjmShmSpmSBDlmShmSrmS" ++
    "BDnmShmStmSBDpmShmSvmSBDrmShmSxmSBDtmShmSzmSBDvmShmS1mSBDxmShmS3mSBDxmS1mS5mSh-BBABBAyHBAzUBAiLBngQ5" ++
    "FBABBAmBBABBABBABBAJBAsBBABBABBAuCBABBABBABBAwBBA4DBABBABBABBAoCEh2Zn5Zp1Zn5ZFDn2Zv1Zx5ZREv2Zz6Z12Zz" ++
    "6ZGBABBAgBBA90cBABBAzGBA7CBABBACBAEBACBAGBACBAVBABBABBABBAEBABBAjbBABBABBABBAKBAHBABBABBABBABBABBABB" ++
    "ABBABBABBABBABBABBABBABBABBABBABBABBABBABBABBABBABBABBABBABBABBABBABBABBABBABBABBABBABBABBABBABBABBA" ++
    "BBABBABBABBABBABBABBABBABBABBABBABBABBABBABBABBABBABBABBABBABBABBABBABBABBABBABBABBABBABBABBABBABBAB" ++
    "BABBABBABBABBABBABBAvzTBABBA8BBABBABBADBABBABBABBABBABBABBABBABBABBABBABBABBABBABBABBABBABBABBABBABB" ++
    "ABBABBABBABBABBABBABBABBABBABBABBABBABBABBABBABBABBABBABBABBABBABBABBABBABBABBABBABBABBABBABBABBABBA" ++
    "BBABBABBABBABBABBABBABBABBABBABBABBABBABBABBABBABBABBABBABBABBABBABBABBABBABBABBABBABBABBABBABBABBAB" ++
    "BABBABBABBABBABBABBABBABBABBABBABBABBABBABBABBABBABBABBA3ZBABBACBABBABBABBABBABBAYCjg-Djg-DXBABBAKBn" ++
    "i-DvIB91nD-BB-j3Dh-BBABBABBABBABBACBABBABBABBABBABBABBABBABBABBABBABBABBABBABBABBABBABBABBABBABBABBA" ++
    "BBABBABBABBABBABBABBABBABBABBABBABBABBABBABBABBABBABBABBABBACBABBABBABBABBABBABBABBABBA2sBBABBABBABB" ++
    "ABBABBABBABBABBABBABBABBABBABBABBABBABBABBABBABBABBABBA7pYBABBABBABBABBABBABBABBABBABBABBABBABBABBAB" ++
    "BABBABBABBABBABBABBABBABBABBABBAovTBABBABBABBAzhEBABBABBABBABBABBABBABBABBABBABBABBABBABBABBABBABBAB" ++
    "BABBABBABBABBABBABBABBABBABBABBABBABBABBABBABBABBABBABBAo+BBAjPBABBAlJBABBAljCBABBABBABBABBABBABBABB" ++
    "ABBABBABBABBABBABBABBABBABBABBABBABBABBABBABBABBABBABBABBABBABBABBABBABBABBABBABBABBABBABBABBABBABBA" ++
    "BBABBABBABBABBABBABBABBABBABBABBABBABBABBABBABBABBABBABBABBABBAzsDBABBABBABBACBABBABBABBABBABBABBABB" ++
    "ABBABBABBABBABBABBABBABBABBABBABBABBABBABBABBABBABBABBABBACBABBACBADBACBABBABBABBABBABBABBABBABBABBA" ++
    "CBABBABBABBACBACBAHBAFBACBACBACBABBABBACBABBACBADBACBACBACBACBACBABBACBADBABBABBABBACBABBABBABBABBAB" ++
    "BABBACBABBABBABBACBABBABBABBACBACBABBABBABBABBABBABBABBABBABBACBABBABBABBABBABBABBABBABBABBABBABBABB" ++
    "ABBABBABBABBAGBABBABBACBABBABBABBABBACBABBABBABBABBABBABBABBABBABBABBABBABBABBABBABBABBAmSBABBABBABB" ++
    "ABBABBABBABBABBABBAGBABBABBABBABBABBABBABBABBABBABBABBABBABBABBABBABBABBABBABBABBABBABBABBABBABBABBA" ++
    "BBABBABBABBACBABBABBABBABBABBABBABBABBABBABBABBABBABBABBABBABBABBABBABBABBABBABBABBABBABBABBABBABBAB" ++
    "BABBABBAbBABBABBAkBBAwDBABBABBAOBABBABBABBABBABBABBABBABBABBABBABBABBABBABBABBABBABBABBABBABBABBABBA" ++
    "BBABBABBABBABBABBABBABBABBABBABBABBABBABBABBABBABBABBABBABBABBAFBABBABBABBABBABBABBABBABBAIBABBA-sCB" ++
    "ABBABBABBABBABBABBABBABBABBAvj-BB7vyDMBh0sKrFBn36KgCBhr-JgDBvm2Kh6hWBABBABBABBABBABBABBABBABBABBABBA" ++
    "BBABBABBABBABBABBABBABBABBABBABBABBABBABBABBABBABBABBABBABBABBABBABBABBABBABBABBABBABBABBABBABBABBAB" ++
    "BABBABBABBABBABBABBABBABBABBABBABBABBABBABBABBABBABBABBABBABBABBABBABBABBABBABBABBABBABBABBABBABBABB" ++
    "ABBABBABBABBABBABBABBABBABBABBABBABBABBABBABBABBABBABBABBABBABBABBABBABBABBABBABBABBABBABBABBABBABBA" ++
    "BBABBABBABBABBABBABBABBABBABBABBABBABBABBABBABBABBABBABBABBABBABBABBABBABBABBABBABBABBABBABBABBABBAB" ++
    "BABBABBABBABBABBABBABBABBABBABBABBABBABBABBABBABBABBABBABBABBABBABBABBABBABBABBABBABBABBABBABBABBABB" ++
    "ABBABBABBABBABBABBABBABBABBABBABBABBABBABBABBABBABBABBABBABBABBABBABBABBABBABBABBABBABBABBABBABBABBA" ++
    "BBABBABBABBABBABBABBABBABBABBABBABBABBABBABBABBABBABBABBABBABBABBABBABBABBABBABBABBABBA"

end PhaseScript.Codec.Data

namespace PhaseScript.Codec

namespace CodedLabel

/-- The fault of octets that are no ASCII. -/
def asciiFault (octets : Bytes) (place : Nat) : CodecFault :=
  let reason := "ordinal not in range(128)"
  .decoding ⟨"ascii", octets, place, place + 1, reason⟩ ⟨place, place + 1, reason⟩

/-- The text of octets that must be ASCII. -/
def ascii (octets : Bytes) : Except CodecFault Text :=
  let low := octets.takeWhile (· < 128)
  if low.length < octets.length then .error (asciiFault octets low.length)
  else .ok (octets.map fun o => Point.ofNat o.toNat)

/-- A fault of a label in words. -/
def words : Punycode.Fault → Text
  | .incomplete => "incomplete punicode string"
  | .badDigit p => "Invalid extended code point '" ++ [p] ++ "'"
  | .beyondAll number => "Invalid character U+" ++ Text.ofNatBase 16 number

/-- The label that octets stand for. -/
def decode (errors : Text) (octets : Bytes) : Except CodecFault Text := do
  if !(["strict", "replace", "ignore"].any errors.is) then throw (.refused ("Unsupported error handling " ++ errors))
  let tail := (octets.reverse.takeWhile (· != 45)).reverse
  let plain := octets.take (octets.length - tail.length - 1)
  let read (o : UInt8) : Text :=
    if o < 128 then [Point.ofNat o.toNat] else if errors.is "replace" then [Point.ofNat 0xFFFD] else []
  let label ← if errors.is "strict" then ascii plain else pure (plain.flatMap read)
  let digits := Text.asciiUpper (← ascii tail)
  (Punycode.assemble (errors.is "strict") label digits).mapError fun fault => .refused (words fault)

/-- The codec for the coded part of a label. -/
def codec : Codec where
  encode _ t := .ok ((Punycode.encode t).map fun p => UInt8.ofNat p.val)
  decode := decode

end CodedLabel

namespace DomainName

def preparedForms : Category.CaseTable := .ofPacked Data.prepared

/-- What stands for a character in a prepared label. -/
def preparedForm (p : Point) : Text :=
  if p.val < 128 then p.lowerForm
  else ((preparedForms.form? p.val).or (Url.mappedForms.form? p.val)).getD [p]

/-- The characters that stand in no prepared label, as runs of numbers: blanks, controls, private ones, those that are
none, surrogates, and those that change how others are shown. -/
def prohibited : List (Nat × Nat) :=
  [(0x80, 0xA0), (0x340, 0x341), (0x6DD, 0x6DD), (0x70F, 0x70F), (0x1680, 0x1680), (0x180E, 0x180E), (0x2000, 0x200F),
    (0x2028, 0x202F), (0x205F, 0x2063), (0x206A, 0x206F), (0x2FF0, 0x2FFB), (0x3000, 0x3000), (0xD800, 0xF8FF),
    (0xFDD0, 0xFDEF), (0xFEFF, 0xFEFF), (0xFFF9, 0xFFFD), (0x1D173, 0x1D17A), (0xE0001, 0xE0001), (0xE0020, 0xE007F),
    (0xF0000, 0x10FFFF)]

def isProhibited (p : Point) : Bool :=
  0xFFFE ≤ p.val % 0x10000 || prohibited.any fun (first, last) => first ≤ p.val && p.val ≤ last

/-- A label in its prepared form. -/
def prepare (label : Text) : Except CodecFault Text := do
  let t := Composed.ofText (label.flatMap preparedForm)
  if let some p := t.find? isProhibited then
    throw (.refused ("Invalid character " ++ Text.quoted [p]))
  let isFromRight (p : Point) : Bool :=
    let d := Url.direction p
    d == .right || d == .arabicLetter
  if t.any isFromRight then
    if t.any fun p => Url.direction p == .left then throw (.refused "Violation of BIDI requirement 2")
    if !(t.headD default |> isFromRight) || !(t.getLastD default |> isFromRight) then
      throw (.refused "Violation of BIDI requirement 3")
  return t

def isAscii (t : Text) : Bool := t.all (·.val < 128)

/-- A label of a length that labels have. -/
def sized (label : Text) : Except CodecFault Text :=
  if 0 < label.length && label.length < 64 then .ok label else .error (.refused "label empty or too long")

/-- A label as it is sent. -/
def coded (label : Text) : Except CodecFault Text := do
  if isAscii label then sized label
  else
    let t ← prepare label
    if isAscii t then sized t
    else if Text.startsWith t Url.codedStart then .error (.refused "Label starts with ACE prefix")
    else sized (Url.codedStart ++ Punycode.encode t)

def octetsOf (t : Text) : Bytes := t.map fun p => UInt8.ofNat p.val

/-- Splits a name at its dots, of which there are four. A dot at the end is kept apart. -/
def splitName (name : Text) : List Text × Text :=
  let isDot (p : Point) : Bool := [0x2E, 0x3002, 0xFF0E, 0xFF61].contains p.val
  let labels := Text.splitAtPoint '.' (name.map fun p => if isDot p then Point.ofChar '.' else p)
  if labels.getLast? == some [] then (labels.dropLast, ".") else (labels, [])

/-- A name as it is sent. No policy but the strict one is known. -/
def encode (errors : Text) (name : Text) : Except CodecFault Bytes := do
  if !errors.is "strict" then throw (.refused ("unsupported error handling " ++ errors))
  if name.isEmpty then return []
  if isAscii name then
    let labels := Text.splitAtPoint '.' name
    if labels.dropLast.any fun label => label.isEmpty || 64 ≤ label.length then
      throw (.refused "label empty or too long")
    if 64 ≤ (labels.getLastD []).length then throw (.refused "label too long")
    return octetsOf name
  let (labels, final) := splitName name
  return octetsOf (Text.join "." (← labels.mapM coded) ++ final)

/-- The label that an ASCII label stands for. -/
def decodedLabel (octets : Bytes) : Except CodecFault Text := do
  let start := octetsOf Url.codedStart
  if !start.isPrefixOf octets then CodedLabel.ascii octets
  else
    let found ← (CodedLabel.decode "strict" (octets.drop start.length)).mapError fun fault =>
      match fault with
      | .refused words =>
        .refused ("decoding with 'punycode' codec failed (UnicodeError: " ++ words ++ ")")
      | fault => fault
    let label ← CodedLabel.ascii octets
    let written ← coded found
    if Text.asciiLower label == written then return found else throw (.unstable octets (octetsOf written))

/-- The name that octets stand for. -/
def decode (errors : Text) (octets : Bytes) : Except CodecFault Text := do
  if !errors.is "strict" then throw (.refused ("Unsupported error handling " ++ errors))
  let text : Text := octets.map fun o => Point.ofNat o.toNat
  if !Text.occursIn Url.codedStart text && isAscii text then return text
  let labels := Text.splitAtPoint '.' text
  let (labels, final) : List Text × Text :=
    if labels.getLast? == some [] then (labels.dropLast, ".") else (labels, [])
  return Text.join "." (← labels.mapM fun label => decodedLabel (octetsOf label)) ++ final

/-- The codec for whole names. -/
def codec : Codec := ⟨encode, decode⟩

end DomainName

end PhaseScript.Codec
