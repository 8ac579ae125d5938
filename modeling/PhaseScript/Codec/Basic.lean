import PhaseScript.Text.Encoding
import PhaseScript.Text.CharacterName
/-
Codecs: how texts are written as octets and read from them, and what is put in the place of what cannot be written or
read. What is to be done about faults goes by a name, which is looked at only once there is a fault.
-/
set_option autoImplicit false

namespace PhaseScript

/-- What is done about a fault. -/
inductive FaultPolicy where
  | strict
  | ignore
  | replace
  | backslash
  | reference
  | passSurrogates
  | escapeOctets
  /-- By the names of characters, which only some codecs can reach. -/
  | names
  deriving DecidableEq, Repr, Inhabited

/-- What is said of a fault: the places from which and up to which it goes, and the reason. -/
structure Complaint where
  start : Nat
  stop : Nat
  reason : String
  deriving DecidableEq, Repr

/-- Why a text is not written as octets, or octets are not read as text. What was said of the first fault that a policy
has passed on is kept. -/
inductive CodecFault where
  /-- Characters have no octets. -/
  | encoding (codec : String) (now first : Complaint)
  | decoding (fault : DecodeFault) (first : Complaint)
  /-- The codec refuses the whole. -/
  | refused (words : Text)
  /-- What is read would not be written as it was. -/
  | unstable (given written : Bytes)
  | unknownPolicy (name : Text)
  /-- The policy is none for octets. -/
  | unfitPolicy
  | noNames
  deriving DecidableEq, Repr

/-- A way to write texts as octets and to read them. Both are given the name of the policy for faults. -/
structure Codec where
  encode : Text → Text → Except CodecFault Bytes
  decode : Text → Bytes → Except CodecFault Text

/-- What stands for characters that have no octets: a text that is written in their place, or octets. -/
inductive Filling where
  | text (t : Text)
  | octets (b : Bytes)
  deriving DecidableEq, Repr

/-- A step of reading: a text and the octets it is written in, a fault of some octets, or the end. -/
inductive Reading where
  | text (t : Text) (size : Nat)
  /-- Some text may have been read before the fault was seen. -/
  | fault (already : Text) (size : Nat) (reason : String)
  /-- What follows refuses the whole. -/
  | refused (words : String)
  | done
  deriving DecidableEq, Repr

/-- A step that reads one character. -/
def Reading.ofStep : Step → Reading
  | .point p size => .text [p] size
  | .fault size reason => .fault [] size reason
  | .done => .done

/-- The encoding that codecs name in their complaints, if surrogates can be spelled in it. -/
def Encoding.ofName? (name : String) : Option Encoding :=
  match name with
  | "utf-8" => some .utf8
  | "utf-16" | "utf-16-le" => some (.utf16 false)
  | "utf-16-be" => some (.utf16 true)
  | "utf-32" | "utf-32-le" => some (.utf32 false)
  | "utf-32-be" => some (.utf32 true)
  | _ => none

namespace FaultPolicy

/-- The policies by name. -/
def ofName (name : Text) : Except CodecFault FaultPolicy :=
  match Text.toString name with
  | "strict" => .ok .strict
  | "ignore" => .ok .ignore
  | "replace" => .ok .replace
  | "backslashreplace" => .ok .backslash
  | "xmlcharrefreplace" => .ok .reference
  | "surrogatepass" => .ok .passSurrogates
  | "surrogateescape" => .ok .escapeOctets
  | "namereplace" => .ok .names
  | _ => .error (.unknownPolicy name)

/-- Whether codecs follow a policy without passing the fault on to it. -/
def isBuiltIn : FaultPolicy → Bool
  | .strict | .ignore | .replace | .reference => true
  | _ => false

/-- A point as an escape. -/
def escaped (p : Point) : Text :=
  if p.val < 0x100 then "\\x" ++ Text.hex 2 p.val
  else if p.val < 0x10000 then "\\u" ++ Text.hex 4 p.val
  else "\\U" ++ Text.hex 8 p.val

/-- A point by its name, if it has one. -/
def named (p : Point) : Text :=
  match CharacterName.ofPoint? p with
  | some name => "\\N\x7b" ++ name ++ "\x7d"
  | none => escaped p

/-- Whether a surrogate stands for an octet that could not be read. -/
def standsForOctet (p : Point) : Bool := 0xDC80 ≤ p.val && p.val ≤ 0xDCFF

/-- What stands for characters without octets in the encoding of a name; nothing where they are refused. -/
def filling? (policy : FaultPolicy) (name : String) (run : Text) : Option Filling :=
  match policy with
  | .strict => none
  | .ignore => some (.text [])
  | .replace => some (.text (run.map fun _ => Point.ofChar '?'))
  | .backslash => some (.text (run.flatMap escaped))
  | .names => some (.text (run.flatMap named))
  | .reference => some (.text (run.flatMap fun p => "&#" ++ Text.ofNat p.val ++ ";"))
  | .passSurrogates =>
    if run.all Point.isSurrogate then (Encoding.ofName? name).map fun encoding => .octets (encoding.encode run) else none
  | .escapeOctets =>
    if run.all standsForOctet then some (.octets (run.map fun p => UInt8.ofNat (p.val - 0xDC00))) else none

/-- The surrogate that octets at fault spell in an encoding, and its size. -/
def spelledSurrogate? (encoding : Encoding) (octets : Bytes) : Option (Point × Nat) :=
  let found := match encoding with
    | .utf8 => (Utf8.surrogate? octets).map fun p => (p, 3)
    | .utf16 bigEndian => match octets with
      | a :: b :: _ => some (Point.ofNat (Utf16.unit bigEndian a b), 2)
      | _ => none
    | .utf32 bigEndian => match Utf32.next bigEndian octets with
      | .point p size => some (p, size)
      | _ => none
  found.filter fun (p, _) => p.isSurrogate

/-- What stands for octets at fault, given with all that follow them, and how many octets it stands for; nothing where
they are refused. -/
def reading? (policy : FaultPolicy) (name : String) (size : Nat) (octets : Bytes) : Except CodecFault (Option (Text × Nat)) :=
  let run := octets.take size
  match policy with
  | .strict => .ok none
  | .ignore => .ok (some ([], size))
  | .replace => .ok (some ([Point.ofNat 0xFFFD], size))
  | .backslash => .ok (some (run.flatMap fun o => "\\x" ++ Text.hex 2 o.toNat, size))
  | .reference | .names => .error .unfitPolicy
  | .passSurrogates =>
    .ok (((Encoding.ofName? name).bind fun encoding => spelledSurrogate? encoding octets).map fun (p, size) => ([p], size))
  | .escapeOctets =>
    let high := (run.take 4).takeWhile fun o => 128 ≤ o
    .ok (if high.isEmpty then none else some (high.map fun o => Point.ofNat (0xDC00 + o.toNat), high.length))

end FaultPolicy

/-- Characters that are written one by one. -/
structure CharacterSet where
  /-- The name in complaints. -/
  name : String
  /-- What is said of a character without octets. -/
  reason : String
  /-- Whether several characters without octets in a row are one fault. -/
  hasRuns : Bool
  /-- Whether surrogates that stand for octets are written though others of their run are at fault. -/
  splitsRuns : Bool
  /-- Whether the names of characters are at hand. -/
  hasNames : Bool
  /-- The size that octets come in. -/
  unit : Nat
  put? : Point → Option Bytes

namespace CharacterSet

/-- The octets of a text, if all its characters have some. -/
def putAll? (set : CharacterSet) (t : Text) : Option Bytes := (t.mapM set.put?).map List.flatten

/-- The octets that stand for a run of characters at fault, or the fault. -/
def amend (set : CharacterSet) (errors : Text) (place : Nat) (first : Option Complaint) (run : Text) :
    Except CodecFault (Bytes × Option Complaint) := do
  let policy ← FaultPolicy.ofName errors
  if policy == .names && !set.hasNames then throw .noNames
  let escaped := if policy == .escapeOctets && set.splitsRuns then run.takeWhile FaultPolicy.standsForOctet else []
  let start := if escaped.length < run.length then place + escaped.length else place
  let now : Complaint := ⟨start, place + run.length, set.reason⟩
  let refusal := CodecFault.encoding set.name now (first.getD now)
  let kept := if set.splitsRuns || policy.isBuiltIn then first else some (first.getD now)
  match policy.filling? set.name run with
  | none => throw refusal
  | some (.octets b) => if b.length % set.unit == 0 then return (b, kept) else throw refusal
  | some (.text t) => match set.putAll? t with
    | some b => return (b, kept)
    | none => throw refusal

/-- The octets of a text from one place on, given the complaint about the first fault. The fuel is the length of the
text. -/
def encodeFrom (set : CharacterSet) (errors : Text) : Nat → Nat → Option Complaint → Text → Except CodecFault Bytes
  | 0, _, _, _ => .ok []
  | fuel + 1, place, first, t => do
    let good := t.takeWhile fun p => (set.put? p).isSome
    let octets := good.flatMap fun p => (set.put? p).getD []
    match t.drop good.length with
    | [] => return octets
    | bad :: rest =>
      let run := bad :: (if set.hasRuns then rest.takeWhile fun p => (set.put? p).isNone else [])
      let (instead, first) ← set.amend errors (place + good.length) first run
      let more ← encodeFrom set errors fuel (place + good.length + run.length) first (rest.drop (run.length - 1))
      return octets ++ instead ++ more

/-- The octets of a text. -/
def encode (set : CharacterSet) (errors : Text) (t : Text) : Except CodecFault Bytes :=
  set.encodeFrom errors (t.length + 1) 0 none t

end CharacterSet

/-- What octets are read as: the steps of reading, the name in complaints, and all the octets that places count in. -/
structure OctetReader where
  name : String
  whole : Bytes
  next : Bytes → Reading

namespace OctetReader

/-- What stands for octets at fault and how many they are, or the fault. -/
def amend (reader : OctetReader) (errors : Text) (first : Option Complaint) (place size : Nat) (reason : String)
    (octets : Bytes) : Except CodecFault (Text × Nat) := do
  let policy ← FaultPolicy.ofName errors
  match ← policy.reading? reader.name size octets with
  | some found => return found
  | none => throw (.decoding ⟨reader.name, reader.whole, place, place + size, reason⟩
    (first.getD ⟨place, place + size, reason⟩))

/-- The text of octets from one place on, given the complaint about the first fault and what was read before, the last
first. The fuel is the number of octets. -/
def decodeFrom (reader : OctetReader) (errors : Text) :
    Nat → Nat → Option Complaint → Bytes → List Text → Except CodecFault Text
  | 0, _, _, _, read => .ok read.reverse.flatten
  | fuel + 1, place, first, octets, read =>
    match reader.next octets with
    | .done => .ok read.reverse.flatten
    | .refused words => .error (.refused words)
    | .text t size => decodeFrom reader errors fuel (place + size) first (octets.drop size) (t :: read)
    | .fault already size reason =>
      match reader.amend errors first place size reason octets with
      | .error fault => .error fault
      | .ok (t, taken) =>
        decodeFrom reader errors fuel (place + taken) (some (first.getD ⟨place, place + size, reason⟩))
          (octets.drop taken) (t :: already :: read)

/-- The text of the octets from a place on. -/
def decode (reader : OctetReader) (errors : Text) (place : Nat) : Except CodecFault Text :=
  let octets := reader.whole.drop place
  reader.decodeFrom errors (octets.length + 1) place none octets []

end OctetReader

end PhaseScript
