/-
Whole numbers. Their powers are those of the core library, whatever other libraries are at hand. As rows of bits, a
negative integer has endless ones at its high end, so that the bits of `-n - 1` are those of `n` turned over.
-/
set_option autoImplicit false

namespace PhaseScript

@[default_instance 20001]
instance (priority := 20000) powNat : Pow Nat Nat := instPowNat

@[default_instance 20000]
instance (priority := 20000) powInt : Pow Int Nat := instPowNat

end PhaseScript

namespace PhaseScript.Bits

/-- Every bit turned over. -/
def complement (a : Int) : Int := -a - 1

theorem complement_complement (a : Int) : complement (complement a) = a := by
  simp only [complement]; omega

def and : Int → Int → Int
  | .ofNat a, .ofNat b => Int.ofNat (a &&& b)
  | .ofNat a, .negSucc b => Int.ofNat (a - (a &&& b))
  | .negSucc a, .ofNat b => Int.ofNat (b - (b &&& a))
  | .negSucc a, .negSucc b => Int.negSucc (a ||| b)

def or (a b : Int) : Int := complement (and (complement a) (complement b))

def xor : Int → Int → Int
  | .ofNat a, .ofNat b => Int.ofNat (a ^^^ b)
  | .ofNat a, .negSucc b => Int.negSucc (a ^^^ b)
  | .negSucc a, .ofNat b => Int.negSucc (a ^^^ b)
  | .negSucc a, .negSucc b => Int.ofNat (a ^^^ b)

/-- Moved up by some places. -/
def shiftUp (a : Int) (places : Nat) : Int := a * 2 ^ places

/-- Moved down by some places; what falls off the low end is lost. -/
def shiftDown (a : Int) (places : Nat) : Int := a.fdiv (2 ^ places)

/-- The number of bits of the absolute value. -/
def length (a : Int) : Nat := if a == 0 then 0 else a.natAbs.log2 + 1

/-- The number of ones in the absolute value. -/
def ones (a : Int) : Nat := ((Nat.toDigits 2 a.natAbs).filter (· == '1')).length

end PhaseScript.Bits
