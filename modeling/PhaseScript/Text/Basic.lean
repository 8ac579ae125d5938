/-
Text as a sequence of code points. A point may be a lone surrogate, since a message may carry one in an
escape; every other kind of text in the library is made from this one.
-/
set_option autoImplicit false

namespace PhaseScript

/-- A code point, surrogates included. -/
abbrev Point := Fin 0x110000

/-- A text is its code points in order. -/
abbrev Text := List Point

/-- Octets, as they travel. -/
abbrev Bytes := List UInt8

theorem Point.char_lt (c : Char) : c.toNat < 0x110000 := by
  rcases c.valid with h | h
  · exact Nat.lt_trans h (by decide)
  · exact h.2

/-- The code point of a character. -/
def Point.ofChar (c : Char) : Point := ⟨c.toNat, Point.char_lt c⟩

/-- A number as a code point; a number past the last point becomes the replacement character. -/
def Point.ofNat (n : Nat) : Point := if h : n < 0x110000 then ⟨n, h⟩ else ⟨0xFFFD, by decide⟩

@[simp] theorem Point.val_ofNat (n : Nat) (h : n < 0x110000) : (Point.ofNat n).val = n := by
  simp [Point.ofNat, h]

instance : Inhabited Point := ⟨Point.ofNat 0⟩

/-- The first half of a surrogate pair. -/
def Point.isHigh (p : Point) : Bool := 0xD800 ≤ p.val && p.val < 0xDC00

/-- The second half of a surrogate pair. -/
def Point.isLow (p : Point) : Bool := 0xDC00 ≤ p.val && p.val < 0xE000

/-- A half of a surrogate pair, which stands for no character. -/
def Point.isSurrogate (p : Point) : Bool := 0xD800 ≤ p.val && p.val < 0xE000

/-- The character of a point; a surrogate shows as the replacement character. -/
def Point.toChar (p : Point) : Char := if p.isSurrogate then Char.ofNat 0xFFFD else Char.ofNat p.val

/-- Whether the point is this character. -/
def Point.is (p : Point) (c : Char) : Bool := p.val == c.toNat

/-- Whether the point is an ASCII digit. -/
def Point.isAsciiDigit (p : Point) : Bool := 48 ≤ p.val && p.val ≤ 57

/-- Whether the point is an ASCII letter. -/
def Point.isAsciiLetter (p : Point) : Bool :=
  (65 ≤ p.val && p.val ≤ 90) || (97 ≤ p.val && p.val ≤ 122)

/-- The value of a digit in a base up to thirty-six, letters of either case counting from ten. -/
def Point.asciiDigit? (p : Point) : Option Nat :=
  if 48 ≤ p.val && p.val ≤ 57 then some (p.val - 48)
  else if 97 ≤ p.val && p.val ≤ 122 then some (p.val - 87)
  else if 65 ≤ p.val && p.val ≤ 90 then some (p.val - 55)
  else none

namespace Text

/-- The text of a string. -/
def ofString (s : String) : Text := s.toList.map Point.ofChar

instance : Coe String Text := ⟨ofString⟩

/-- The string that shows a text; lone surrogates show as the replacement character. -/
def toString (t : Text) : String := String.ofList (t.map Point.toChar)

/-- Whether the text is this string. -/
def is (t : Text) (s : String) : Bool := t == ofString s

/-- The decimal digits of a number. -/
def ofNat (n : Nat) : Text := (Nat.toDigits 10 n).map Point.ofChar

/-- The decimal digits of a number after its sign, if it is negative. -/
def ofInt : Int → Text
  | .ofNat n => ofNat n
  | .negSucc n => Point.ofChar '-' :: ofNat (n + 1)

/-- The digits of a number in a base up to sixteen, small letters. -/
def ofNatBase (base n : Nat) : Text := (Nat.toDigits base n).map Point.ofChar

/-- The text `width` times `fill` long at least, filled on the left. -/
def padLeft (width : Nat) (fill : Char) (t : Text) : Text :=
  List.replicate (width - t.length) (Point.ofChar fill) ++ t

/-- The text filled on the right up to a width. -/
def padRight (width : Nat) (fill : Char) (t : Text) : Text :=
  t ++ List.replicate (width - t.length) (Point.ofChar fill)

/-- Hexadecimal digits, at least `width` of them. -/
def hex (width n : Nat) : Text := padLeft width '0' (ofNatBase 16 n)

/-- The texts with a separator between each two. -/
def join (separator : Text) : List Text → Text
  | [] => []
  | [t] => t
  | t :: rest => t ++ separator ++ join separator rest

/-- Whether the text begins with another. -/
def startsWith (t start : Text) : Bool := start.isPrefixOf t

/-- Whether the text ends with another. -/
def endsWith (t tail : Text) : Bool := tail.isSuffixOf t

/-- The place of the first occurrence at or after the start. -/
def indexOf? (needle : Text) : Text → Option Nat
  | [] => if needle.isEmpty then some 0 else none
  | p :: rest =>
    if needle.isPrefixOf (p :: rest) then some 0 else (indexOf? needle rest).map (· + 1)

/-- Whether a text occurs in another. -/
def occursIn (needle t : Text) : Bool := (indexOf? needle t).isSome

/-- The pieces between the occurrences of one point. -/
def splitAtPoint (c : Char) (t : Text) : List Text :=
  t.foldr (fun p pieces =>
    if p.is c then [] :: pieces
    else match pieces with
      | [] => [[p]]
      | piece :: rest => (p :: piece) :: rest) [[]]

/-- The text without the points of a class at its end. -/
def dropEndWhile (test : Point → Bool) (t : Text) : Text := (t.reverse.dropWhile test).reverse

/-- The text without the points of a class at either end. -/
def stripBy (test : Point → Bool) (t : Text) : Text := dropEndWhile test (t.dropWhile test)

/-- The order of texts: by code point, a beginning before what continues it. -/
def compare : Text → Text → Ordering
  | [], [] => .eq
  | [], _ :: _ => .lt
  | _ :: _, [] => .gt
  | p :: s, q :: t => if p.val < q.val then .lt else if q.val < p.val then .gt else compare s t

/-- Whether a text comes before another or is the same. -/
def le (s t : Text) : Bool := compare s t != .gt

/-- Whether every point stands for a character. -/
def isScalar (t : Text) : Bool := t.all fun p => !p.isSurrogate

/-- Small letters for the ASCII capitals, all else as it is. -/
def asciiLower (t : Text) : Text :=
  t.map fun p => if 65 ≤ p.val && p.val ≤ 90 then Point.ofNat (p.val + 32) else p

/-- Capitals for the ASCII small letters, all else as it is. -/
def asciiUpper (t : Text) : Text :=
  t.map fun p => if 97 ≤ p.val && p.val ≤ 122 then Point.ofNat (p.val - 32) else p

end Text

end PhaseScript
