import PhaseScript.Text.Basic
/-
Writing a label of a domain name in ASCII, and reading it. The characters beyond ASCII follow in the order of their numbers, each as
the distance from the one before; a distance is a row of digits whose thresholds follow the distances so far.
-/
set_option autoImplicit false

namespace PhaseScript.Punycode

/-- The digit of a value below thirty-six. -/
def digit (n : Nat) : Point := Point.ofNat (if n < 26 then 97 + n else 22 + n)

/-- The threshold of the digit at a place. -/
def threshold (place bias : Nat) : Nat :=
  if place ≤ bias then 1 else if bias + 26 ≤ place then 26 else place - bias

theorem one_le_threshold (place bias : Nat) : 1 ≤ threshold place bias := by
  unfold threshold
  split
  · omega
  · split <;> omega

/-- Divides a distance until it is small, counting in thirty-sixes. -/
def shrink (distance count : Nat) : Nat × Nat :=
  if h : 455 < distance then
    have : distance / 35 < distance := Nat.div_lt_self (by omega) (by omega)
    shrink (distance / 35) (count + 36)
  else (distance, count)
termination_by distance

/-- The bias after a distance. -/
def adapt (distance points : Nat) (isFirst : Bool) : Nat :=
  let start := if isFirst then distance / 700 else distance / 2
  let (rest, count) := shrink (start + start / points) 0
  count + 36 * rest / (rest + 38)

/-- The digits of a distance. -/
def digits (bias place n : Nat) : Text :=
  let t := threshold place bias
  if h : n < t then [digit n]
  else
    have : (n - threshold place bias) / (36 - threshold place bias) < n := by
      have h1 := one_le_threshold place bias
      have h2 := Nat.div_le_self (n - threshold place bias) (36 - threshold place bias)
      simp only [t] at h
      omega
    digit (t + (n - t) % (36 - t)) :: digits bias (place + 36) ((n - t) / (36 - t))
termination_by n

/-- What has been written, and what the next distance starts from. -/
structure Writing where
  written : Text
  distance : Nat
  bias : Nat
  count : Nat

/-- Goes past one character of the label while those of one number are written. -/
def pass (plain number : Nat) (s : Writing) (p : Point) : Writing :=
  if p.val < number then { s with distance := s.distance + 1 }
  else if p.val == number then
    ⟨s.written ++ digits s.bias 36 s.distance, 0, adapt s.distance (s.count + 1) (s.count == plain), s.count + 1⟩
  else s

/-- Writes the characters of each number in turn. -/
def writeAll (label : Text) (plain : Nat) : List Nat → Nat → Writing → Writing
  | [], _, s => s
  | number :: rest, least, s =>
    let s := label.foldl (pass plain number) { s with distance := s.distance + (number - least) * (s.count + 1) }
    writeAll label plain rest (number + 1) { s with distance := s.distance + 1 }

/-- A label in ASCII. -/
def encode (label : Text) : Text :=
  let plain := label.filter (·.val < 128)
  let numbers := ((label.filter fun p => 128 ≤ p.val).map (·.val)).mergeSort.eraseDups
  let s := writeAll label plain.length numbers 128 ⟨[], 0, 72, plain.length⟩
  plain ++ (if plain.isEmpty then [] else "-") ++ s.written

/-- The value of a digit. -/
def digitValue? (p : Point) : Option Nat :=
  if p.isAsciiLetter then some ((p.val % 32) - 1) else p.asciiDigit?.map (· + 26)

/-- Why a label is not read. -/
inductive Fault where
  | incomplete
  | badDigit (p : Point)
  | beyondAll (number : Nat)
  deriving DecidableEq, Repr

/-- A distance, of which a part has been read, and what follows it. -/
def readDistance (bias : Nat) : Nat → Nat → Nat → Text → Except Fault (Nat × Text)
  | _, _, _, [] => .error .incomplete
  | place, weight, sum, p :: rest =>
    match digitValue? p with
    | none => .error (.badDigit p)
    | some d =>
      let sum := sum + d * weight
      let t := threshold place bias
      if d < t then .ok (sum, rest) else readDistance bias (place + 36) (weight * (36 - t)) sum rest

/-- Puts the characters of all distances into a label; each distance has a digit of its own at least. Unless faults are
told, a distance that cannot be read ends the label, and a character beyond all others is a question mark. -/
def insertAll (tellsFaults : Bool) : Nat → Nat → Nat → Nat → Text → Text → Except Fault Text
  | _, _, _, _, label, [] => .ok label
  | 0, _, _, _, label, _ => .ok label
  | fuel + 1, place, number, bias, label, digits =>
    match readDistance bias 36 1 0 digits with
    | .error fault => if tellsFaults then .error fault else .ok label
    | .ok (distance, rest) =>
      let count := label.length + 1
      let number := number + (place + distance) / count
      let next := (place + distance) % count
      if 0x110000 ≤ number && tellsFaults then .error (.beyondAll number)
      else
        let number := if 0x110000 ≤ number then 63 else number
        insertAll tellsFaults fuel (next + 1) number (adapt distance count (place == 0))
          (label.take next ++ [Point.ofNat number] ++ label.drop next) rest

/-- The label of ASCII characters and the digits of the distances of all others. -/
def assemble (tellsFaults : Bool) (plain digits : Text) : Except Fault Text :=
  insertAll tellsFaults digits.length 0 128 72 plain digits

/-- The label that is written in ASCII, if it is one: its ASCII characters, then a hyphen if there are any, then the
others as distances. -/
def decode? (written : Text) : Option Text :=
  let tail := (written.reverse.takeWhile fun p => !p.is '-').reverse
  let plain := written.take (written.length - tail.length - 1)
  (assemble true plain (if plain.isEmpty then written else tail)).toOption

end PhaseScript.Punycode
