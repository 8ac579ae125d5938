import PhaseScript.Text.Basic
/-
The encodings in which a message may arrive (UTF-8, UTF-16 and UTF-32, either byte order, with or without a
byte order mark), and how one is told from another by its first four octets. A reader goes through the octets
one character at a time; where there is none, it says which octets are at fault and why.
-/
set_option autoImplicit false

namespace PhaseScript

/-- One step of reading: a character and its size in octets, a fault of some octets, or the end. -/
inductive Step where
  | point (p : Point) (size : Nat)
  | fault (size : Nat) (reason : String)
  | done
  deriving DecidableEq, Repr

/-- Why octets are no text: the name of the encoding, the octets at fault and the reason. -/
structure DecodeFault where
  encoding : String
  octets : Bytes
  start : Nat
  stop : Nat
  reason : String
  deriving DecidableEq, Repr

/-- The fault in words: one octet is named, several only by their places. -/
def DecodeFault.message (fault : DecodeFault) : Text :=
  if fault.stop == fault.start + 1 then
    "'" ++ Text.ofString fault.encoding ++ "' codec can't decode byte 0x"
      ++ Text.hex 2 ((fault.octets.getD fault.start 0).toNat) ++ " in position " ++ Text.ofNat fault.start
      ++ ": " ++ Text.ofString fault.reason
  else
    "'" ++ Text.ofString fault.encoding ++ "' codec can't decode bytes in position "
      ++ Text.ofNat fault.start ++ "-" ++ Text.ofNat (fault.stop - 1) ++ ": " ++ Text.ofString fault.reason

namespace Utf8

def isTail (b : UInt8) : Bool := 0x80 ≤ b && b ≤ 0xBF

/-- The low six bits of a tail octet. -/
def tailBits (b : UInt8) : Nat := b.toNat % 64

/-- Whether the second octet of a character may follow the first. -/
def secondFits (first second : UInt8) : Bool :=
  isTail second && !(first == 0xE0 && second < 0xA0) && !(first == 0xED && 0xA0 ≤ second)
    && !(first == 0xF0 && second < 0x90) && !(first == 0xF4 && 0x90 ≤ second)

def invalidContinuation (size : Nat) : Step := .fault size "invalid continuation byte"

/-- Octets end inside a character; everything left is at fault. -/
def cutShort (rest : Bytes) : Step := .fault rest.length "unexpected end of data"

/-- The next character of UTF-8 octets. A fault covers the longest beginning of a character. -/
def next : Bytes → Step
  | [] => .done
  | first :: rest =>
    if first < 0x80 then .point (Point.ofNat first.toNat) 1
    else if first < 0xC2 || 0xF5 ≤ first then .fault 1 "invalid start byte"
    else match rest with
      | [] => cutShort [first]
      | second :: rest =>
        if !secondFits first second then invalidContinuation 1
        else if first < 0xE0 then .point (Point.ofNat (first.toNat % 32 * 64 + tailBits second)) 2
        else match rest with
          | [] => cutShort [first, second]
          | third :: rest =>
            if !isTail third then invalidContinuation 2
            else if first < 0xF0 then
              .point (Point.ofNat (first.toNat % 16 * 4096 + tailBits second * 64 + tailBits third)) 3
            else match rest with
              | [] => cutShort [first, second, third]
              | fourth :: _ =>
                if !isTail fourth then invalidContinuation 3
                else .point (Point.ofNat (first.toNat % 8 * 262144 + tailBits second * 4096
                  + tailBits third * 64 + tailBits fourth)) 4

/-- The surrogate that three octets would spell if surrogates were spelled. -/
def surrogate? : Bytes → Option Point
  | first :: second :: third :: _ =>
    if first == 0xED && 0xA0 ≤ second && second ≤ 0xBF && isTail third then
      some (Point.ofNat (0xD000 + tailBits second * 64 + tailBits third))
    else none
  | _ => none

/-- The next character, where a surrogate spelled in three octets counts as one. -/
def nextLenient (octets : Bytes) : Step :=
  match next octets with
  | .fault size reason => match surrogate? octets with
    | some p => .point p 3
    | none => .fault size reason
  | step => step

/-- The octets of one point; a surrogate is spelled like any other point below 10000. -/
def encodePoint (p : Point) : Bytes :=
  let n := p.val
  if n < 0x80 then [UInt8.ofNat n]
  else if n < 0x800 then [UInt8.ofNat (0xC0 + n / 64), UInt8.ofNat (0x80 + n % 64)]
  else if n < 0x10000 then
    [UInt8.ofNat (0xE0 + n / 4096), UInt8.ofNat (0x80 + n / 64 % 64), UInt8.ofNat (0x80 + n % 64)]
  else
    [UInt8.ofNat (0xF0 + n / 262144), UInt8.ofNat (0x80 + n / 4096 % 64),
      UInt8.ofNat (0x80 + n / 64 % 64), UInt8.ofNat (0x80 + n % 64)]

/-- The octets of a text. -/
def encode (t : Text) : Bytes := t.flatMap encodePoint

/-- Why a text has no octets: the place of its first surrogate and how many follow without a break. -/
structure EncodeFault where
  point : Point
  start : Nat
  count : Nat
  deriving DecidableEq, Repr

/-- The fault in words. -/
def EncodeFault.message (fault : EncodeFault) : Text :=
  if fault.count == 1 then
    "'utf-8' codec can't encode character '\\u" ++ Text.hex 4 fault.point.val ++ "' in position "
      ++ Text.ofNat fault.start ++ ": surrogates not allowed"
  else
    "'utf-8' codec can't encode characters in position " ++ Text.ofNat fault.start ++ "-"
      ++ Text.ofNat (fault.start + fault.count - 1) ++ ": surrogates not allowed"

/-- The octets of a text without surrogates, or the first run of surrogates in it. -/
def encodeStrict (t : Text) : Except EncodeFault Bytes :=
  match t.dropWhile (fun p => !p.isSurrogate) with
  | [] => .ok (encode t)
  | p :: rest =>
    .error ⟨p, (t.takeWhile fun p => !p.isSurrogate).length, 1 + (rest.takeWhile Point.isSurrogate).length⟩

end Utf8

namespace Utf16

/-- The two octets of a code unit. -/
def unit (bigEndian : Bool) (a b : UInt8) : Nat :=
  if bigEndian then a.toNat * 256 + b.toNat else b.toNat * 256 + a.toNat

/-- The next character of UTF-16 octets; a lone surrogate counts as one. -/
def next (bigEndian : Bool) : Bytes → Step
  | [] => .done
  | [_] => .fault 1 "truncated data"
  | a :: b :: rest =>
    let first := unit bigEndian a b
    if 0xD800 ≤ first && first < 0xDC00 then
      match rest with
      | c :: d :: _ =>
        let second := unit bigEndian c d
        if 0xDC00 ≤ second && second < 0xE000 then
          .point (Point.ofNat (0x10000 + (first - 0xD800) * 1024 + (second - 0xDC00))) 4
        else .point (Point.ofNat first) 2
      | _ => .point (Point.ofNat first) 2
    else .point (Point.ofNat first) 2

/-- The octets of one code unit. -/
def encodeUnit (bigEndian : Bool) (n : Nat) : Bytes :=
  if bigEndian then [UInt8.ofNat (n / 256), UInt8.ofNat (n % 256)]
  else [UInt8.ofNat (n % 256), UInt8.ofNat (n / 256)]

/-- The octets of one point: one code unit, or the two halves of a pair. -/
def encodePoint (bigEndian : Bool) (p : Point) : Bytes :=
  if p.val < 0x10000 then encodeUnit bigEndian p.val
  else encodeUnit bigEndian (0xD800 + (p.val - 0x10000) / 1024)
    ++ encodeUnit bigEndian (0xDC00 + (p.val - 0x10000) % 1024)

/-- The octets of a text. -/
def encode (bigEndian : Bool) (t : Text) : Bytes := t.flatMap (encodePoint bigEndian)

end Utf16

namespace Utf32

/-- The next character of UTF-32 octets; a surrogate counts as one. -/
def next (bigEndian : Bool) : Bytes → Step
  | [] => .done
  | a :: b :: c :: d :: _ =>
    let value := if bigEndian then ((a.toNat * 256 + b.toNat) * 256 + c.toNat) * 256 + d.toNat
      else ((d.toNat * 256 + c.toNat) * 256 + b.toNat) * 256 + a.toNat
    if value < 0x110000 then .point (Point.ofNat value) 4
    else .fault 4 "code point not in range(0x110000)"
  | rest => .fault rest.length "truncated data"

/-- The octets of one point. -/
def encodePoint (bigEndian : Bool) (p : Point) : Bytes :=
  let octets : Bytes := [UInt8.ofNat (p.val % 256), UInt8.ofNat (p.val / 256 % 256),
    UInt8.ofNat (p.val / 65536), 0]
  if bigEndian then octets.reverse else octets

/-- The octets of a text. -/
def encode (bigEndian : Bool) (t : Text) : Bytes := t.flatMap (encodePoint bigEndian)

end Utf32

/-- The encodings of a message. -/
inductive Encoding where
  | utf8
  | utf16 (bigEndian : Bool)
  | utf32 (bigEndian : Bool)
  deriving DecidableEq, Repr

namespace Encoding

def next : Encoding → Bytes → Step
  | .utf8 => Utf8.nextLenient
  | .utf16 bigEndian => Utf16.next bigEndian
  | .utf32 bigEndian => Utf32.next bigEndian

def name : Encoding → String
  | .utf8 => "utf-8"
  | .utf16 false => "utf-16-le"
  | .utf16 true => "utf-16-be"
  | .utf32 false => "utf-32-le"
  | .utf32 true => "utf-32-be"

def encode : Encoding → Text → Bytes
  | .utf8 => Utf8.encode
  | .utf16 bigEndian => Utf16.encode bigEndian
  | .utf32 bigEndian => Utf32.encode bigEndian

/-- The byte order mark of an encoding. -/
def mark (encoding : Encoding) : Bytes := encoding.encode [⟨0xFEFF, by decide⟩]

end Encoding

/-- Reads octets by a reader of single characters; a fault is answered by `onFault`, which stops the reading or
gives the points that stand for the octets at fault. The fuel is the number of octets. -/
def readOctets (next : Bytes → Step) (onFault : Nat → Nat → String → Except DecodeFault Text) :
    Nat → Nat → Bytes → List Text → Except DecodeFault Text
  | 0, _, _, read => .ok read.reverse.flatten
  | fuel + 1, place, octets, read =>
    match next octets with
    | .done => .ok read.reverse.flatten
    | .point p size => readOctets next onFault fuel (place + size) (octets.drop size) ([p] :: read)
    | .fault size reason =>
      match onFault place (place + size) reason with
      | .error fault => .error fault
      | .ok points => readOctets next onFault fuel (place + size) (octets.drop size) (points :: read)

/-- The text of octets in an encoding, or the first fault. Positions count from `place`. -/
def Encoding.decodeFrom (encoding : Encoding) (whole : Bytes) (place : Nat) (octets : Bytes) :
    Except DecodeFault Text :=
  readOctets encoding.next (fun start stop reason => .error ⟨encoding.name, whole, start, stop, reason⟩)
    (octets.length + 1) place octets []

/-- The text of UTF-8 octets, surrogates being a fault. -/
def Utf8.decodeStrict (octets : Bytes) : Except DecodeFault Text :=
  readOctets Utf8.next (fun start stop reason => .error ⟨"utf-8", octets, start, stop, reason⟩)
    (octets.length + 1) 0 octets []

/-- The text of UTF-8 octets with a replacement character for each fault. -/
def Utf8.decodeLossy (octets : Bytes) : Text :=
  match readOctets Utf8.next (fun _ _ _ => .ok [Point.ofNat 0xFFFD]) (octets.length + 1) 0 octets [] with
  | .ok t => t
  | .error _ => []

/-- How a message is encoded, as its first octets tell: the encoding and the size of the mark to leave out.
Without a mark the places of zero octets decide, since a message begins with an ASCII character. -/
def Encoding.detect (octets : Bytes) : Encoding × Nat :=
  if (Encoding.mark (.utf32 true)).isPrefixOf octets then (.utf32 true, 4)
  else if (Encoding.mark (.utf32 false)).isPrefixOf octets then (.utf32 false, 4)
  else if (Encoding.mark (.utf16 true)).isPrefixOf octets then (.utf16 true, 2)
  else if (Encoding.mark (.utf16 false)).isPrefixOf octets then (.utf16 false, 2)
  else if (Encoding.mark .utf8).isPrefixOf octets then (.utf8, 3)
  else match octets with
    | a :: b :: c :: d :: _ =>
      if a == 0 then (if b == 0 then (.utf32 true, 0) else (.utf16 true, 0))
      else if b == 0 then (if c == 0 && d == 0 then (.utf32 false, 0) else (.utf16 false, 0))
      else (.utf8, 0)
    | [a, b] =>
      if a == 0 then (.utf16 true, 0) else if b == 0 then (.utf16 false, 0) else (.utf8, 0)
    | _ => (.utf8, 0)

/-- The text of a message that says itself how it is encoded. Places count from the first octet, except after a
mark of UTF-8, where they count from the octet after it. -/
def decodeMessage (octets : Bytes) : Except DecodeFault Text :=
  match Encoding.detect octets with
  | (.utf8, size) => Encoding.decodeFrom .utf8 (octets.drop size) 0 (octets.drop size)
  | (encoding, size) => encoding.decodeFrom octets size (octets.drop size)

end PhaseScript
