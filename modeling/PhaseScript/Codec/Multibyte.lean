import PhaseScript.Codec.Basic
/-
Codecs that write a character with one octet or several. Some pass between sets of characters as they go along, so that
what octets mean depends on those before them.
-/
set_option autoImplicit false

namespace PhaseScript.Codec

/-- A step of reading octets. -/
inductive Taking (State : Type) where
  /-- A text, how many octets it takes, and the state after them. -/
  | text (t : Text) (size : Nat) (next : State)
  | illegal (size : Nat)
  /-- More octets are needed than there are. -/
  | incomplete

/-- A way to write characters with one octet or several. -/
structure Multibyte (State : Type) where
  /-- The name in complaints. -/
  name : String
  start : State
  /-- The octets that a text begins with, for how many characters they stand, and the state after them. -/
  put? : State → Text → Option (Bytes × Nat × State)
  /-- The octets that end a text. -/
  finish : State → Bytes
  /-- The first step of reading octets, of which there are some. -/
  take : State → Bytes → Taking State

namespace Multibyte

variable {State : Type}

/-- What is said of characters that have no octets, and of octets that are none of a character. -/
def illegal : String := "illegal multibyte sequence"

/-- The octets of a text all of whose characters have some, and the state after them. The fuel is the length of the
text. -/
def putAll? (m : Multibyte State) : Nat → State → Text → Option (Bytes × State)
  | fuel + 1, state, p :: rest => do
    let (octets, count, next) ← m.put? state (p :: rest)
    let (more, last) ← putAll? m fuel next ((p :: rest).drop count)
    return (octets ++ more, last)
  | _, state, _ => some ([], state)

/-- The octets that stand for a character at fault and the state after them, or the fault. -/
def amendText (m : Multibyte State) (errors : Text) (place : Nat) (first : Option Complaint) (state : State)
    (p : Point) : Except CodecFault (Bytes × State × Option Complaint) := do
  let policy ← FaultPolicy.ofName errors
  if policy == .names then throw .noNames
  let now : Complaint := ⟨place, place + 1, illegal⟩
  let refusal := CodecFault.encoding m.name now (first.getD now)
  let kept := if policy.isBuiltIn && policy != .reference then first else some (first.getD now)
  match policy.filling? m.name [p] with
  | none => throw refusal
  | some (.octets b) => return (b, state, kept)
  | some (.text t) => match m.putAll? t.length state t with
    | some (b, state) => return (b, state, kept)
    | none => throw refusal

/-- The octets of a text from one place on, given the complaint about the first fault and what was written before, the
last first. The fuel is the length of the text. -/
def encodeFrom (m : Multibyte State) (errors : Text) :
    Nat → Nat → Option Complaint → State → Text → List Bytes → Except CodecFault Bytes
  | fuel + 1, place, first, state, p :: rest, written =>
    match m.put? state (p :: rest) with
    | some (octets, count, next) =>
      encodeFrom m errors fuel (place + count) first next ((p :: rest).drop count) (octets :: written)
    | none => match m.amendText errors place first state p with
      | .error fault => .error fault
      | .ok (octets, next, first) => encodeFrom m errors fuel (place + 1) first next rest (octets :: written)
  | _, _, _, state, _, written => .ok (m.finish state :: written).reverse.flatten

/-- The text of octets from one place on, given the complaint about the first fault and what was read before, the last
first. The fuel is the number of octets. -/
def decodeFrom (m : Multibyte State) (errors : Text) (whole : Bytes) :
    Nat → Nat → Option Complaint → State → Bytes → List Text → Except CodecFault Text
  | fuel + 1, place, first, state, o :: rest, read =>
    let octets := o :: rest
    let amend (size : Nat) (reason : String) : Except CodecFault Text :=
      match OctetReader.amend ⟨m.name, whole, fun _ => .done⟩ errors first place size reason octets with
      | .error fault => .error fault
      | .ok (t, taken) =>
        let kept := if errors.is "replace" || errors.is "ignore" then first
          else some (first.getD ⟨place, place + size, reason⟩)
        decodeFrom m errors whole fuel (place + taken) kept state (octets.drop taken) (t :: read)
    match m.take state octets with
    | .text t size next => decodeFrom m errors whole fuel (place + size) first next (octets.drop size) (t :: read)
    | .illegal size => amend size illegal
    | .incomplete => amend octets.length "incomplete multibyte sequence"
  | _, _, _, _, _, read => .ok read.reverse.flatten

/-- The codec of a way to write characters. -/
def codec (m : Multibyte State) : Codec where
  encode errors t := m.encodeFrom errors t.length 0 none m.start t []
  decode errors octets := m.decodeFrom errors octets octets.length 0 none m.start octets []

/-- A way to write characters that does not depend on what was written before, nor on how many follow. -/
def plain (name : String) (put? : Point → Option Bytes) (take : Bytes → Taking Unit) : Multibyte Unit where
  name := name
  start := ()
  put? _ t := match t with
    | p :: _ => (put? p).map fun octets => (octets, 1, ())
    | [] => none
  finish _ := []
  take _ octets := take octets

/-- The character of ASCII that an octet is, or what it begins. -/
def takeLow (wide : Nat → Bytes → Taking Unit) : Bytes → Taking Unit
  | [] => .incomplete
  | o :: rest => if o.toNat < 128 then .text [Point.ofNat o.toNat] 1 () else wide o.toNat rest

/-- A character of two octets, given the first. -/
def takePair (point? : Nat → Nat → Option Point) (a : Nat) : Bytes → Taking Unit
  | [] => .incomplete
  | b :: _ => match point? a b.toNat with
    | some p => .text [p] 2 ()
    | none => .illegal 1

/-- The octet of a character of ASCII, or the octets of any other. -/
def putLow (wide : Point → Option Bytes) (p : Point) : Option Bytes :=
  if p.val < 128 then some [UInt8.ofNat p.val] else wide p

end Multibyte

end PhaseScript.Codec
