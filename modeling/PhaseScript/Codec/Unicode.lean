import PhaseScript.Codec.Basic
/-
The codecs in which every character has octets, and those that hold the lowest characters alone. No surrogate is
written or read unless the policy for faults asks for it. Behind them the codecs that spell characters as escapes: one
spells every character that is not plain ASCII, the raw one only those beyond one octet.
-/
set_option autoImplicit false

namespace PhaseScript.Codec

/-- The next character, surrogates in pairs only. -/
def nextPaired (bigEndian : Bool) (octets : Bytes) : Step :=
  match Utf16.next bigEndian octets with
  | .point p size =>
    if p.isLow then .fault 2 "illegal encoding"
    else if p.isHigh then
      if octets.length < 4 then .fault octets.length "unexpected end of data" else .fault 2 "illegal UTF-16 surrogate"
    else .point p size
  | step => step

/-- The next character, of which none is a surrogate. -/
def nextWhole (bigEndian : Bool) (octets : Bytes) : Step :=
  match Utf32.next bigEndian octets with
  | .point p size => if p.isSurrogate then .fault 4 "code point in surrogate code point range(0xd800, 0xe000)"
    else .point p size
  | step => step

/-- The next character in an encoding, surrogates being at fault. -/
def nextStrict : Encoding → Bytes → Step
  | .utf8 => Utf8.next
  | .utf16 bigEndian => nextPaired bigEndian
  | .utf32 bigEndian => nextWhole bigEndian

/-- The characters of an encoding, which goes by a name. -/
def characters (encoding : Encoding) (name : String) : CharacterSet where
  name := name
  reason := "surrogates not allowed"
  hasRuns := encoding == .utf8
  splitsRuns := encoding == .utf8
  hasNames := false
  unit := match encoding with
    | .utf8 => 1
    | .utf16 _ => 2
    | .utf32 _ => 4
  put? p := if p.isSurrogate then none else some (encoding.encode [p])

/-- The reader of octets in an encoding. -/
def reader (encoding : Encoding) (octets : Bytes) : OctetReader :=
  ⟨encoding.name, octets, fun octets => .ofStep (nextStrict encoding octets)⟩

/-- The codec of an encoding, without a mark. -/
def plain (encoding : Encoding) : Codec where
  encode := (characters encoding encoding.name).encode
  decode errors octets := (reader encoding octets).decode errors 0

/-- The codec with a mark that tells the order of octets; without one the lowest comes first. -/
def withOrderMark (name : String) (encoding : Bool → Encoding) : Codec where
  encode errors t := ((characters (encoding false) name).encode errors t).map ((encoding false).mark ++ ·)
  decode errors octets :=
    match [false, true].find? fun bigEndian => (encoding bigEndian).mark.isPrefixOf octets with
    | some bigEndian => (reader (encoding bigEndian) octets).decode errors (encoding bigEndian).mark.length
    | none => (reader (encoding false) octets).decode errors 0

/-- The codec with a mark that tells nothing but the encoding. Places count from behind the mark. -/
def withSignature : Codec where
  encode errors t := ({ characters .utf8 "utf-8" with hasNames := true }.encode errors t).map (Encoding.utf8.mark ++ ·)
  decode errors octets :=
    let mark := Encoding.utf8.mark
    (reader .utf8 (if mark.isPrefixOf octets then octets.drop mark.length else octets)).decode errors 0

def nextBelow (limit : Nat) : Bytes → Step
  | [] => .done
  | o :: _ =>
    if o.toNat < limit then .point (Point.ofNat o.toNat) 1 else .fault 1 "ordinal not in range(128)"

/-- The codec with one octet for each character below a limit. -/
def lowest (name : String) (limit : Nat) : Codec where
  encode := CharacterSet.encode {
    name, reason := "ordinal not in range(" ++ toString limit ++ ")", hasRuns := true, splitsRuns := true
    hasNames := false, unit := 1
    put? := fun p => if p.val < limit then some [UInt8.ofNat p.val] else none }
  decode errors octets := OctetReader.decode ⟨name, octets, fun octets => .ofStep (nextBelow limit octets)⟩ errors 0

/-- The octets of ASCII text. -/
def asciiOctets (t : Text) : Bytes := t.map fun p => UInt8.ofNat p.val

/-- A character as the full codec spells it. -/
def spelled (p : Point) : Text :=
  if p.is '\\' then "\\\\"
  else if p.is '\t' then "\\t"
  else if p.is '\n' then "\\n"
  else if p.is '\r' then "\\r"
  else if 32 ≤ p.val && p.val < 127 then [p]
  else FaultPolicy.escaped p

/-- The letters of short escapes with what they stand for. -/
def shortEscapes : List (Char × Nat) :=
  [('\\', 92), ('\'', 39), ('"', 34), ('b', 8), ('f', 12), ('t', 9), ('n', 10), ('r', 13), ('v', 11), ('a', 7)]

/-- Reads an escape of so many hexadecimal digits after its backslash and letter. -/
def readNumbered (digits : Nat) (truncated tooGreat : String) (after : Bytes) : Reading :=
  let value? (o : UInt8) : Option Nat := (Point.ofNat o.toNat).asciiDigit?.filter (· < 16)
  let values := ((after.take digits).map value?).takeWhile Option.isSome |>.filterMap id
  if values.length < digits then .fault [] (2 + values.length) truncated
  else
    let n := values.foldl (fun n d => n * 16 + d) 0
    if n < 0x110000 then .text [Point.ofNat n] (2 + digits) else .fault [] (2 + digits) tooGreat

def isOctal (o : UInt8) : Bool := 48 ≤ o && o ≤ 55

/-- Reads an escape after its backslash. The names of characters are out of reach here. -/
def readEscape (letter : UInt8) (after : Bytes) : Reading :=
  let c := Char.ofNat letter.toNat
  match shortEscapes.find? fun entry => entry.1 == c with
  | some (_, n) => .text [Point.ofNat n] 2
  | none =>
    if c == '\n' then .text [] 2
    else if isOctal letter then
      let digits := letter :: (after.take 2).takeWhile isOctal
      .text [Point.ofNat (digits.foldl (fun n o => n * 8 + (o.toNat - 48)) 0)] (1 + digits.length)
    else if c == 'x' then readNumbered 2 "truncated \\xXX escape" "illegal Unicode character" after
    else if c == 'u' then readNumbered 4 "truncated \\uXXXX escape" "illegal Unicode character" after
    else if c == 'U' then readNumbered 8 "truncated \\UXXXXXXXX escape" "illegal Unicode character" after
    else if c == 'N' then .refused "\\N escapes not supported (can't load unicodedata module)"
    else .text [Point.ofChar '\\', Point.ofNat letter.toNat] 2

/-- The next character of octets with escapes. -/
def nextEscaped : Bytes → Reading
  | [] => .done
  | first :: rest =>
    if first != 92 then .text [Point.ofNat first.toNat] 1
    else match rest with
      | [] => .fault [] 1 "\\ at end of string"
      | letter :: after => readEscape letter after

/-- The codec that spells all but plain ASCII. -/
def escapes : Codec where
  encode _ t := .ok (asciiOctets (t.flatMap spelled))
  decode errors octets := OctetReader.decode ⟨"unicodeescape", octets, nextEscaped⟩ errors 0

/-- The next character of octets with raw escapes. A backslash before any other letter takes that letter with it. -/
def nextRaw : Bytes → Reading
  | [] => .done
  | [o] => .text [Point.ofNat o.toNat] 1
  | first :: letter :: after =>
    if first != 92 then .text [Point.ofNat first.toNat] 1
    else if letter == 117 then readNumbered 4 "truncated \\uXXXX escape" "\\Uxxxxxxxx out of range" after
    else if letter == 85 then readNumbered 8 "truncated \\UXXXXXXXX escape" "\\Uxxxxxxxx out of range" after
    else .text [Point.ofNat first.toNat, Point.ofNat letter.toNat] 2

/-- The codec that spells what does not fit in one octet. -/
def rawEscapes : Codec where
  encode _ t := .ok (t.flatMap fun p => if p.val < 256 then [UInt8.ofNat p.val] else asciiOctets (FaultPolicy.escaped p))
  decode errors octets := OctetReader.decode ⟨"rawunicodeescape", octets, nextRaw⟩ errors 0

end PhaseScript.Codec
