import PhaseScript.Machine.Value
import PhaseScript.Datum.Equal
/-
Which values are the same: identity, the equality of keys, and the hash that equal keys share. Keys are compared
without looking into the heap, since what can be a key does not change. Sets of values rest on that. The order in
which a set gives out its items depends on how it came about, so each operation says which of its operands is gone
through and into which table the items are put.
-/
set_option autoImplicit false

namespace PhaseScript.Machine

/-- The number a value is. -/
def Value.numeral? : Value → Option Numeral
  | .int n => some (.int n)
  | .bool b => some (.int (if b then 1 else 0))
  | .float x => some (.float x)
  | .complex re im => some (.complex re im)
  | _ => Option.none

/-- The integer a value is, truth values counting as one and zero. -/
def Value.int? : Value → Option Int
  | .int n => some n
  | .bool b => some (if b then 1 else 0)
  | _ => Option.none

/-- How many numbers a range holds. -/
def rangeLength (start stop step : Int) : Nat :=
  if step > 0 then (if start < stop then ((stop - start - 1) / step + 1).toNat else 0)
  else if step < 0 then (if stop < start then ((start - stop - 1) / (-step) + 1).toNat else 0)
  else 0

/-- Whether two ranges hold the same numbers. -/
def sameRange (a b c a' b' c' : Int) : Bool :=
  let n := rangeLength a b c
  n == rangeLength a' b' c' && (n == 0 || (a == a' && (n == 1 || c == c')))

def sameMoment (m n : Moment) : Bool :=
  m.clock.offset.isSome == n.clock.offset.isSome && m.absoluteMicros == n.absoluteMicros

/-- The microseconds of a time of day by universal time. -/
def ClockTime.absolute (t : ClockTime) : Int := t.micros - (t.offset.getD ⟨0⟩).micros

def sameClock (s t : ClockTime) : Bool :=
  s.offset.isSome == t.offset.isSome && ClockTime.absolute s == ClockTime.absolute t

mutual

/-- Whether two values are the very same. -/
def Value.identical : Value → Value → Bool
  | .none, .none => true
  | .ellipsis, .ellipsis => true
  | .notImplemented, .notImplemented => true
  | .bool a, .bool b => a == b
  | .int a, .int b => a == b
  | .float a, .float b => a == b
  | .complex re im, .complex re' im' => re == re' && im == im'
  | .text s, .text t => s == t
  | .bytes s, .bytes t => s == t
  | .tuple s m, .tuple t n => m == n && (m != .items || identicalAll s t) || s.isEmpty && t.isEmpty
  | .range a b c, .range a' b' c' => a == a' && b == b' && c == c'
  | .slice a b c, .slice a' b' c' => a.identical a' && b.identical b' && c.identical c'
  | .date s, .date t => s == t
  | .clock s, .clock t => s == t
  | .moment s, .moment t => s == t
  | .duration s, .duration t => s == t
  | .zone s, .zone t => s == t
  | .type s, .type t => s == t
  | .generic _ _ _ m, .generic _ _ _ n => m == n
  | .oneOf _ m, .oneOf _ n => m == n
  | .builtin f, .builtin g => f == g
  | .method _ _ m, .method _ _ n => m == n && m != 0
  | .promise a _ _, .promise b _ _ => a == b
  | .response _ h, .response _ k => h.identical k
  | .ref a, .ref b => a == b
  | _, _ => false

def identicalAll : List Value → List Value → Bool
  | [], [] => true
  | v :: s, w :: t => v.identical w && identicalAll s t
  | _, _ => false

end

mutual

/-- Whether two values that can be keys are equal. Inside a row, what is the very same counts as equal. -/
def Value.equals : Value → Value → Bool
  | .none, .none => true
  | .ellipsis, .ellipsis => true
  | .notImplemented, .notImplemented => true
  | .text s, .text t => s == t
  | .bytes s, .bytes t => s == t
  | .tuple s _, .tuple t _ => sameKeys s t
  | .range a b c, .range a' b' c' => sameRange a b c a' b' c'
  | .date s, .date t => s == t
  | .clock s, .clock t => sameClock s t
  | .moment s, .moment t => sameMoment s t
  | .duration s, .duration t => s == t
  | .zone s, .zone t => s == t
  | .type s, .type t => s == t
  | .generic isSpread origin s _, .generic isSpread' origin' t _ =>
    isSpread == isSpread' && origin == origin' && sameKeys s t
  | .oneOf s _, .oneOf t _ => s.length == t.length && keysWithin s t
  | .builtin f, .builtin g => f == g
  | .method o m _, .method p n _ => m == n && o.identical p
  | .promise a _ _, .promise b _ _ => a == b
  | .response _ h, .response _ k => h.identical k
  | .ref a, .ref b => a == b
  | v, w =>
    match v.numeral?, w.numeral? with
    | some x, some y => x.eq y
    | _, _ => false

/-- Whether two rows hold the same keys. -/
def sameKeys : List Value → List Value → Bool
  | [], [] => true
  | v :: s, w :: t => (v.identical w || v.equals w) && sameKeys s t
  | _, _ => false

/-- Whether all of some keys are among others. -/
def keysWithin : List Value → List Value → Bool
  | [], _ => true
  | v :: s, t => (t.any fun w => v.identical w || v.equals w) && keysWithin s t

end

/-- Whether two keys are one: the very same, or equal. -/
def Value.sameKey (v w : Value) : Bool := v.identical w || v.equals w

/-- The number that equal numbers share, whatever their type is: the remainder by a large prime. -/
def hashPrime : Nat := 2 ^ 61 - 1

/-- A remainder with the sign of the number; one that would be the mark of a failure is moved. -/
def signedHash (negative : Bool) (n : Nat) : Int :=
  let n : Int := if negative then -Int.ofNat (n % hashPrime) else Int.ofNat (n % hashPrime)
  if n == -1 then -2 else n

/-- A power of a number modulo the prime. -/
def hashPower (base : Nat) : Nat → Nat
  | 0 => 1
  | n + 1 => hashPower base n * base % hashPrime

def floatHash (x : Binary64) : Int :=
  if x.isNaN then Int.ofNat x.fraction
  else if x.isInfinite then (if x.isNegative then -314159 else 314159)
  else
    -- Two to the power sixty-one is one, so only the remainder of the exponent counts.
    let exponent := (x.scale.emod 61).toNat
    signedHash x.isNegative (x.mantissa * hashPower 2 exponent)

/-- A word of sixty-four bits taken as a number with a sign; the mark of a failure is moved. -/
def wordHash (n : Nat) : Int :=
  let n := n % 2 ^ 64
  if n == 2 ^ 64 - 1 then -2 else if n ≥ 2 ^ 63 then Int.ofNat n - 2 ^ 64 else Int.ofNat n

/-- The hash of a row from those of its items: each is mixed into a word by a product, a turn of its bits and another
product. -/
def rowHash (hashes : List Int) : Int :=
  let size : Nat := 2 ^ 64
  let mixed := hashes.foldl (fun (acc : Nat) (h : Int) =>
    let acc := (acc + (h % (Int.ofNat size)).toNat * 14029467366897019727) % size
    let acc := acc * 2 ^ 31 % size + acc / 2 ^ 33
    acc * 11400714785074694791 % size) 2870177450012600261
  let n := (mixed + (hashes.length ^^^ (2870177450012600261 ^^^ 3527539))) % size
  if n == size - 1 then 1546275796 else if n ≥ 2 ^ 63 then Int.ofNat n - Int.ofNat size else Int.ofNat n

def integerHash (n : Int) : Int := signedHash (n < 0) n.natAbs

mutual

/-- A number by which sets and dicts could find a value. For what is known by its identity it has no meaning. -/
def hashNumber : Value → Int
  | .bool b => if b then 1 else 0
  | .int n => integerHash n
  | .float x => floatHash x
  | .complex re im => wordHash ((floatHash re + 1000003 * floatHash im) % 2 ^ 64).toNat
  | .text t => Int.ofNat (t.foldl (fun n p => (n * 1000003 + p.val) % 2 ^ 61) (if t.isEmpty then 0 else 7))
  | .bytes b => Int.ofNat (b.foldl (fun n o => (n * 1000003 + o.toNat) % 2 ^ 61) (if b.isEmpty then 0 else 11))
  | .tuple items _ => rowHash (hashNumbers items)
  | .range start stop step =>
    let n := rangeLength start stop step
    let number (k : Int) : Int := integerHash k
    rowHash (if n == 0 then [0, 5381, 5381] else if n == 1 then [1, number start, 5381] else [n, number start, number step])
  | .duration d => rowHash [integerHash d.days, integerHash d.seconds, integerHash d.microseconds]
  | .ref address => Int.ofNat (address * 16 + 281474976710656)
  | _ => 5381

def hashNumbers : List Value → List Int
  | [] => []
  | v :: rest => hashNumber v :: hashNumbers rest

end

namespace ValueSet

/-- The hash of a value as a word without a sign. -/
def hash (v : Value) : Nat := (hashNumber v % 2 ^ 64).toNat

def has (s : ValueSet) (v : Value) : Bool := s.contains v.sameKey (hash v)

/-- The set with one more item; what is equal to an item is not added. -/
def with_ (s : ValueSet) (v : Value) : ValueSet := s.insert v.sameKey (hash v) v

/-- The set without an item, if it was there. -/
def without? (s : ValueSet) (v : Value) : Option ValueSet := s.erase? v.sameKey (hash v)

def without (s : ValueSet) (v : Value) : ValueSet := (s.without? v).getD s

/-- The set of some items, put in one by one. -/
def ofItems (items : Array Value) : ValueSet := items.foldl with_ ItemTable.empty

/-- The same items in a set of their own. -/
def copy (s : ValueSet) : ValueSet := s.copied Value.sameKey

/-- The items of another set added. -/
def addAll (s t : ValueSet) : ValueSet := s.merge t Value.sameKey

/-- The keys of a dict added; the room for all of them is made first. -/
def addKeys (s : ValueSet) (keys : Array Value) : ValueSet :=
  let s := if s.isCrowded (s.fill + keys.size) then s.resize ((s.size + keys.size) * 2) else s
  keys.foldl with_ s

def union (s t : ValueSet) : ValueSet := s.copy.addAll t

/-- The items of both, as the smaller set has them. -/
def intersection (s t : ValueSet) : ValueSet :=
  let (few, many) := if s.size < t.size then (s, t) else (t, s)
  ofItems (few.items.filter many.has)

/-- The items of another set taken out. -/
def removeAll (s t : ValueSet) : ValueSet :=
  let t := if s.size < t.size / 8 then intersection s t else t
  (t.items.foldl without s).tidied

/-- The items of one set that are not in another: a much larger set is copied first. -/
def difference (s t : ValueSet) : ValueSet :=
  if t.size < s.size / 4 then s.copy.removeAll t else ofItems (s.items.filter fun v => !t.has v)

/-- The items of another set added where they were missing, and taken out where they were not. -/
def toggle (s : ValueSet) (items : Array Value) : ValueSet :=
  items.foldl (fun s v => (s.without? v).getD (s.with_ v)) s

/-- The items of one of two sets only. -/
def symmetricDifference (s t : ValueSet) : ValueSet := t.copy.toggle s.items

def isSubset (s t : ValueSet) : Bool := s.size ≤ t.size && s.items.all t.has

end ValueSet

end PhaseScript.Machine
