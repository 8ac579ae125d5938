import PhaseScript.Codec.Multibyte
import PhaseScript.Codec.Table
import PhaseScript.Codec.BigFiveData
/-
Codecs of Chinese texts after Big 5: the set itself, a code page, and a supplementary set, which has four places of two
characters.
-/
set_option autoImplicit false

namespace PhaseScript.Codec.BigFive

/-- Pairs that are read, while others are written for their characters. -/
def doubled : List (Nat × Nat) := [(0xA1FE, 0xFF0F), (0xA240, 0xFF3C), (0xA2CC, 0x5341), (0xA2CE, 0x5345)]

/-- The entries of a list whose pairs are not read alone. -/
def written (entries read : List (Nat × Nat)) : List (Nat × Nat) :=
  entries.filter fun entry => !read.any fun other => other.1 == entry.1

/-- The characters of Big 5. -/
def basic : Thunk PairTable := .mk fun _ =>
  (PairTable.ofEntries (written (PairTable.entries Data.bigFive) doubled)).readOnly doubled

/-- The codec of a table. -/
def ofTable (name : String) (table : Thunk PairTable) : Multibyte Unit :=
  .plain name
    (Multibyte.putLow fun p => (table.get.number? p).map PairTable.octets)
    (Multibyte.takeLow (Multibyte.takePair fun a b => table.get.point? (PairTable.number a b)))

/-- Big 5. -/
def codec : Multibyte Unit := ofTable "big5" basic

/-- Signs that the code page writes where Big 5 has them, and reads as others. -/
def pageSigns : List (Nat × Nat) :=
  [(0xA246, 0xA2), (0xA247, 0xA3), (0xA244, 0xA5), (0xA145, 0x2022), (0xA1C2, 0x203E), (0xA1E3, 0x223C),
    (0xA1F3, 0x2609), (0xA1F2, 0x2641), (0xA14E, 0xFF64)]

/-- Pairs that the code page reads, while others are written for their characters. -/
def pageDoubled : List (Nat × Nat) :=
  [(0xA2CC, 0x5341), (0xA2CE, 0x5345), (0xF9E9, 0x255E), (0xF9EA, 0x256A), (0xF9EB, 0x2561), (0xF9F9, 0x2550),
    (0xF9FA, 0x256D), (0xF9FB, 0x256E), (0xF9FC, 0x2570), (0xF9FD, 0x256F)]

/-- The characters of code page 950. -/
def page950 : Thunk PairTable := .mk fun _ =>
  let changed := PairTable.entries Data.codePage950
  ((PairTable.ofEntries (written (changed ++ written (PairTable.entries Data.bigFive) changed) pageDoubled)).readOnly
    pageDoubled).writeOnly pageSigns

/-- Code page 950. -/
def codePage950 : Multibyte Unit := ofTable "cp950" page950

/-- Pairs that the supplementary set reads, while others are written for their characters. -/
def supplementDoubled : List (Nat × Nat) :=
  [(0xA1FE, 0xFF0F), (0xA240, 0xFF3C), (0xA27E, 0x256D), (0xA2A1, 0x256E), (0xA2A2, 0x2570), (0xA2A3, 0x256F),
    (0xA2A4, 0x2550), (0xA2A5, 0x255E), (0xA2A6, 0x256A), (0xA2A7, 0x2561), (0xA2CC, 0x5341), (0xA2CE, 0x5345)]

/-- Whether the supplementary set has all characters of a pair's row itself. -/
def isReplaced (n : Nat) : Bool := 0xC6A1 ≤ n && n ≤ 0xC8FF

/-- The characters of Big 5 and the supplementary set. -/
def supplemented : Thunk PairTable := .mk fun _ =>
  let kept := (PairTable.entries Data.bigFive).filter fun entry => !isReplaced entry.1
  (PairTable.ofEntries (written (kept ++ PairTable.entries Data.hongKong) supplementDoubled)).readOnly supplementDoubled

/-- The places of two characters. -/
def bothEntries : List (Nat × String) := [(0x8862, "Ê\u0304"), (0x8864, "Ê\u030c"), (0x88A3, "ê\u0304"), (0x88A5, "ê\u030c")]

/-- The octets that a text begins with, which may be those of two characters. -/
def putSupplemented (_ : Unit) : Text → Option (Bytes × Nat × Unit)
  | [] => none
  | p :: rest =>
    match bothEntries.find? fun entry => Text.ofString entry.2 == (p :: rest).take 2 with
    | some (n, _) => some (PairTable.octets n, 2, ())
    | none => (Multibyte.putLow (fun p => (supplemented.get.number? p).map PairTable.octets) p).map fun octets =>
      (octets, 1, ())

/-- The text of a pair. -/
def supplementedText? (n : Nat) : Option Text :=
  match bothEntries.find? fun entry => entry.1 == n with
  | some (_, t) => some (Text.ofString t)
  | none => (supplemented.get.point? n).map fun p => [p]

/-- Big 5 with the supplementary set of Hong Kong. -/
def hongKong : Multibyte Unit where
  name := "big5hkscs"
  start := ()
  put? := putSupplemented
  finish _ := []
  take _ := Multibyte.takeLow fun a rest =>
    match rest with
    | [] => .incomplete
    | b :: _ => match supplementedText? (PairTable.number a b.toNat) with
      | some t => .text t 2 ()
      | none => .illegal 1

end PhaseScript.Codec.BigFive
