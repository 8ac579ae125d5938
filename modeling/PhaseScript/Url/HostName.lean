import PhaseScript.Url.Label
import PhaseScript.Number.Bits
/-
The hosts of addresses: names in small letters and in ASCII, and numbers in their usual notation.
-/
set_option autoImplicit false

namespace PhaseScript.Url

/-- The value of digits in a base. -/
def valueIn (base : Nat) (t : Text) : Nat := t.foldl (fun n p => n * base + (digitIn? base p).getD 0) 0

/-- A part of an address of four octets: a number in the base that its beginning tells. -/
def ipv4Part? (t : Text) : Option Nat :=
  let (base, digits) :=
    match t with
    | z :: x :: rest =>
      if z.is '0' && (x.is 'x' || x.is 'X') then (16, rest) else if z.is '0' then (8, x :: rest) else (10, t)
    | _ => (10, t)
  if t.isEmpty then none
  else if digits.all fun p => (digitIn? base p).isSome then some (valueIn base digits) else none

/-- The labels of a name, the empty one after a dot at the end left out. -/
def labels (name : Text) : List Text :=
  let parts := Text.splitAtPoint '.' name
  if parts.getLast? == some [] then parts.dropLast else parts

/-- Whether a name ends in a number, and so must be an address of four octets. -/
def endsInNumber (name : Text) : Bool :=
  match (labels name).getLast? with
  | some label => (!label.isEmpty && label.all Point.isAsciiDigit) || (ipv4Part? label).isSome
  | none => false

/-- The value of parts of an address, of which all but the last are octets. -/
def ipv4Value? (parts : List Nat) : Option Nat :=
  match parts.reverse with
  | [] => none
  | last :: before =>
    let octets := before.reverse
    if 4 < parts.length || octets.any (255 < ·) || 256 ^ (4 - octets.length) ≤ last then none
    else some ((octets.zipIdx.map fun (n, place) => n * 256 ^ (3 - place)).foldl (· + ·) last)

/-- Four octets with dots between them. -/
def ipv4Text (n : Nat) : Text :=
  Text.join "." ([n / 16777216, n / 65536 % 256, n / 256 % 256, n % 256].map Text.ofNat)

/-- An address of four octets in its usual notation. -/
def readIpv4 (name : Text) : Except Fault Text :=
  match (labels name).mapM ipv4Part? with
  | none => .error .ipv4
  | some parts => match ipv4Value? parts with
    | some n => .ok (ipv4Text n)
    | none => .error .ipv4

/-- An octet without needless zeros. -/
def plainOctet? (t : Text) : Option Nat :=
  let isPlain := !t.isEmpty && t.all Point.isAsciiDigit && (t.length == 1 || !(t.headD default).is '0')
  if isPlain && t.length ≤ 3 && valueIn 10 t ≤ 255 then some (valueIn 10 t) else none

/-- One piece of an address of eight, or two pieces as four octets where that may stand. -/
def ipv6Piece? (mayEndInOctets : Bool) (t : Text) : Option (List Nat) :=
  if t.any (·.is '.') then
    match (Text.splitAtPoint '.' t).mapM plainOctet? with
    | some [a, b, c, d] => if mayEndInOctets then some [a * 256 + b, c * 256 + d] else none
    | _ => none
  else if t.isEmpty || 4 < t.length || !t.all (fun p => (digitIn? 16 p).isSome) then none
  else some [valueIn 16 t]

/-- The pieces of one side of an address. -/
def ipv6Side? (isLast : Bool) (t : Text) : Option (List Nat) :=
  if t.isEmpty then some []
  else
    let parts := Text.splitAtPoint ':' t
    (parts.zipIdx.mapM fun (part, place) => ipv6Piece? (isLast && place + 1 == parts.length) part).map List.flatten

/-- The eight pieces of an address; two colons stand for as many zeros as are missing, one at least. -/
def ipv6Pieces? (t : Text) : Option (List Nat) := do
  match Text.indexOf? "::" t with
  | none =>
    let pieces ← ipv6Side? true t
    if pieces.length == 8 then some pieces else none
  | some place =>
    let before ← ipv6Side? false (t.take place)
    let after ← ipv6Side? true (t.drop (place + 2))
    let count := before.length + after.length
    if count < 8 then some (before ++ List.replicate (8 - count) 0 ++ after) else none

/-- The longest run of two zeros or more, the first of several: where it starts and how long it is. -/
def zeroRun? (pieces : List Nat) : Option (Nat × Nat) :=
  (List.range pieces.length).foldl (fun best start =>
    let length := ((pieces.drop start).takeWhile (· == 0)).length
    if 2 ≤ length && (best.map (·.2)).getD 1 < length then some (start, length) else best) none

/-- An address of eight pieces, the longest run of zeros left out. -/
def ipv6Text (pieces : List Nat) : Text :=
  let shown (part : List Nat) : Text := Text.join ":" (part.map (Text.ofNatBase 16))
  let body := match zeroRun? pieces with
    | none => shown pieces
    | some (start, length) => shown (pieces.take start) ++ "::" ++ shown (pieces.drop (start + length))
  "[" ++ body ++ "]"

/-- An address of eight pieces, given with its brackets. -/
def readIpv6 (t : Text) : Except Fault Text :=
  match (if Text.endsWith t "]" then ipv6Pieces? ((t.drop 1).dropLast) else none) with
  | some pieces => .ok (ipv6Text pieces)
  | none => .error .ipv6

/-- The host of an address whose scheme has hosts of its own kind. -/
def readHost (t : Text) : Except Fault Text :=
  if Text.startsWith t "[" then readIpv6 t
  else do
    let name ← asciiName (resolved t)
    if name.isEmpty then .error .emptyHost
    else if endsInNumber name then readIpv4 name
    else .ok name

/-- The host of any other address. -/
def readOpaqueHost (t : Text) : Except Fault Text :=
  if Text.startsWith t "[" then readIpv6 t
  else if t.any fun p => p.val == 0 || !isNoneOf [' ', '#', '/', ':', '<', '>', '?', '@', '[', '\\', ']', '^', '|'] p then
    .error .hostCharacter
  else .ok (escape anyPrintable t)

end PhaseScript.Url
