import PhaseScript.Text.Search
/-
Octets taken as letters: only those of ASCII have a case or count as blank.
-/
set_option autoImplicit false

namespace PhaseScript.Bytes

/-- Octets as points. -/
def toPoints (b : Bytes) : Text := b.map fun o => Point.ofNat o.toNat

/-- The octets that points below 256 stand for. -/
def ofPoints (t : Text) : Bytes := t.map fun p => UInt8.ofNat p.val

def isBlank (o : UInt8) : Bool := o == 32 || (9 ≤ o && o ≤ 13)

def isDigit (o : UInt8) : Bool := 48 ≤ o && o ≤ 57

def isUpper (o : UInt8) : Bool := 65 ≤ o && o ≤ 90

def isLower (o : UInt8) : Bool := 97 ≤ o && o ≤ 122

def isLetter (o : UInt8) : Bool := isUpper o || isLower o

def toLower (o : UInt8) : UInt8 := if isUpper o then o + 32 else o

def toUpper (o : UInt8) : UInt8 := if isLower o then o - 32 else o

def swapCase (o : UInt8) : UInt8 := if isUpper o then toLower o else toUpper o

/-- The first octet large and the others small. -/
def capitalize : Bytes → Bytes
  | [] => []
  | o :: rest => toUpper o :: rest.map toLower

/-- The first letter of each run of letters large and the others small. -/
def titleFrom : Bool → Bytes → Bytes
  | _, [] => []
  | inWord, o :: rest => (if inWord then toLower o else toUpper o) :: titleFrom (isLetter o) rest

/-- Whether each run of letters begins large and goes on small, and there is one. -/
def isTitleFrom : Bool → Bool → Bytes → Bool
  | found, _, [] => found
  | found, inWord, o :: rest =>
    if isUpper o then !inWord && isTitleFrom true true rest
    else if isLower o then inWord && isTitleFrom true true rest
    else isTitleFrom found false rest

/-- Whether there is an octet and all pass. -/
def allOf (test : UInt8 → Bool) (b : Bytes) : Bool := !b.isEmpty && b.all test

/-- Whether a letter passes and none fails. -/
def allCased (test : UInt8 → Bool) (b : Bytes) : Bool := b.any test && b.all fun o => !isLetter o || test o

def lineEnds : Row.LineEnds UInt8 := ⟨fun o => o == 10 || o == 13, (· == 13), (· == 10)⟩

/-- The digits of groups, the last group of the full size. -/
def groupedFrom (size : Nat) (separator : Text) : Nat → List Text → Text
  | _, [] => []
  | 0, d :: rest => separator ++ d ++ groupedFrom size separator (size - 1) rest
  | n + 1, d :: rest => d ++ groupedFrom size separator n rest

/-- Two hexadecimal digits for each octet, with a separator between groups of so many; a negative size counts groups
from the front, a positive one from the end, and zero makes none. -/
def hexText (separator : Text) (size : Int) (b : Bytes) : Text :=
  let digits := b.map fun o => Text.hex 2 o.toNat
  let n := size.natAbs
  if n == 0 || separator.isEmpty then digits.flatten
  else
    let first := if size < 0 || b.length % n == 0 then n else b.length % n
    groupedFrom n separator first digits

/-- Reads pairs of hexadecimal digits with blanks between them; the place of what is none. -/
def ofHex (size : Nat) : Text → Except Nat Bytes
  | [] => .ok []
  | p :: rest =>
    if p.val < 128 && isBlank (UInt8.ofNat p.val) then ofHex size rest
    else match p.asciiDigit?, rest with
      | some high, q :: rest =>
        match q.asciiDigit? with
        | some low =>
          if high < 16 && low < 16 then do return UInt8.ofNat (high * 16 + low) :: (← ofHex size rest)
          else .error (if high < 16 then size - rest.length - 1 else size - rest.length - 2)
        | none => .error (if high < 16 then size - rest.length - 1 else size - rest.length - 2)
      | some high, [] => .error (if high < 16 then size else size - 1)
      | none, _ => .error (size - rest.length - 1)

end PhaseScript.Bytes
