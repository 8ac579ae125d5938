import PhaseScript.Datum.Basic
/-
Equality of data by value. Numbers are equal across their types, truth values counting as one and zero; sets and
dicts are equal whatever the order of their members is.
-/
set_option autoImplicit false

namespace PhaseScript

/-- A number of any type, for comparison. -/
inductive Numeral where
  | int (n : Int)
  | float (x : Binary64)
  | complex (re im : Binary64)
  | decimal (d : Decimal)

namespace Numeral

/-- The value of a decimal as a signed quotient. -/
def decimalRatio (negative : Bool) (digits : Nat) (exponent : Int) : Int × Nat :=
  let signed := Decimal.signedDigits negative digits
  if exponent ≥ 0 then (signed * 10 ^ exponent.toNat, 1) else (signed, 10 ^ (-exponent).toNat)

/-- Equality of numbers by their exact values. -/
def eq : Numeral → Numeral → Bool
  | .int a, .int b => a == b
  | .int a, .float x | .float x, .int a => x.compareInt? a == some .eq
  | .float x, .float y => Binary64.eq x y
  | .complex re im, .complex re' im' => Binary64.eq re re' && Binary64.eq im im'
  | .complex re im, .int a | .int a, .complex re im => im.isZero && re.compareInt? a == some .eq
  | .complex re im, .float x | .float x, .complex re im => im.isZero && Binary64.eq re x
  | .decimal d, .int a | .int a, .decimal d => match d.integer? with
    | some n => n == a
    | none => false
  | .decimal ⟨n, .finite digits e⟩, .decimal ⟨n', .finite digits' e'⟩ =>
    let (a, b) := decimalRatio n digits e
    let (a', b') := decimalRatio n' digits' e'
    a * Int.ofNat b' == a' * Int.ofNat b
  | .decimal d, .decimal d' => d.negative == d'.negative && d.kind == .infinite && d'.kind == .infinite
  | .decimal ⟨n, .finite digits e⟩, .float x | .float x, .decimal ⟨n, .finite digits e⟩ =>
    x.isFinite && (let (a, b) := decimalRatio n digits e
      a * Int.ofNat x.ratio.2 == x.signedNumerator * Int.ofNat b)
  | _, _ => false

end Numeral

namespace Datum

/-- The number a datum is. -/
def numeral? : Datum → Option Numeral
  | .int n => some (.int n)
  | .bool b => some (.int (if b then 1 else 0))
  | .float x => some (.float x)
  | .complex re im => some (.complex re im)
  | .decimal d => some (.decimal d)
  | _ => Option.none

mutual

/-- Equality by value. The fuel is the depth of the data. -/
def eqWithin : Nat → Datum → Datum → Bool
  | 0, _, _ => false
  | fuel + 1, a, b =>
    match numeral? a, numeral? b with
    | some x, some y => x.eq y
    | some _, Option.none | Option.none, some _ => false
    | Option.none, Option.none =>
      match a, b with
      | .none, .none => true
      | .text s, .text t => s == t
      | .bytes s, .bytes t => s == t
      | .list s, .list t | .tuple s, .tuple t => allEq fuel s t
      | .set _ s, .set _ t => s.length == t.length && s.all fun x => t.any fun y => eqWithin fuel x y
      | .dict s, .dict t => s.length == t.length && s.all fun (k, v) =>
          t.any fun (k', v') => eqWithin fuel k k' && eqWithin fuel v v'
      | .date s, .date t => s == t
      | .clock s, .clock t => s == t
      | .moment s, .moment t =>
        s.clock.offset.isSome == t.clock.offset.isSome && s.absoluteMicros == t.absoluteMicros
      | .duration s, .duration t => s == t
      | .uuid s, .uuid t => s == t
      | _, _ => false

def allEq : Nat → List Datum → List Datum → Bool
  | 0, _, _ => false
  | _ + 1, [], [] => true
  | fuel + 1, x :: s, y :: t => eqWithin fuel x y && allEq fuel s t
  | _ + 1, _, _ => false

end

mutual

/-- A bound for the depth of a datum, counting each place in a list as a level. -/
def size : Datum → Nat
  | .list items | .tuple items | .set _ items | .exception _ items _ => sizeAll items + 1
  | .dict entries => sizeEntries entries + 1
  | .promise _ payload => size payload + 1
  | _ => 1

def sizeAll : List Datum → Nat
  | [] => 1
  | item :: items => size item + sizeAll items + 1

def sizeEntries : List (Datum × Datum) → Nat
  | [] => 1
  | (key, value) :: entries => size key + size value + sizeEntries entries + 1

end

/-- Equality by value. -/
def eq (a b : Datum) : Bool := eqWithin (size a + size b) a b

/-- The set of data in the order given, the first of equal ones being kept. -/
def setOf (frozen : Bool) (items : List Datum) : Datum :=
  .set frozen (items.foldl (fun kept d => if kept.any (eq d) then kept else kept ++ [d]) [])

/-- Puts a value under a key: in its place if an equal key is there, else last. -/
def putEntry (key value : Datum) : List (Datum × Datum) → List (Datum × Datum)
  | [] => [(key, value)]
  | (k, v) :: rest => if eq k key then (k, value) :: rest else (k, v) :: putEntry key value rest

/-- The dict of entries in order, the last value under equal keys being kept. -/
def dictOf (entries : List (Datum × Datum)) : Datum :=
  .dict (entries.foldl (fun kept (k, v) => putEntry k v kept) [])

end Datum

end PhaseScript
