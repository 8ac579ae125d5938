import Std.Data.HashMap.Basic
import PhaseScript.Codec.Basic
import PhaseScript.Codec.TableData
import PhaseScript.Text.Category
import PhaseScript.Text.Basic
/-
The codecs of one octet to a character, each with a table of the 256 characters; of two octets for one character the
higher one is written. Then sets of characters that are written with two octets: a pair of octets is a number, the
first octet being the higher one.
-/
set_option autoImplicit false

namespace PhaseScript.Codec

/-- The numbers of the runs of a packed table, given the number that is due. -/
def tableRuns : Nat → List Nat → Int → List Nat
  | fuel + 1, more :: distance :: rest, due =>
    let first := (due + Category.unfoldSign distance).toNat
    (List.range (more + 1)).map (first + ·) ++ tableRuns fuel rest (Int.ofNat (first + more + 1))
  | _, _, _ => []

/-- The characters of a packed table, by their octets. -/
def unpackTable (packed : String) : Array (Option Point) :=
  let numbers := (Category.unpack packed).toList
  ((tableRuns numbers.length numbers 0).map fun n => if n == 0xFFFE then none else some (Point.ofNat n)).toArray

/-- The codec of a table. -/
def ofTable (table : Array (Option Point)) : Codec where
  encode := CharacterSet.encode {
    name := "charmap", reason := "character maps to <undefined>", hasRuns := true, splitsRuns := false, hasNames := true
    unit := 1
    put? := fun p =>
      (table.toList.reverse.idxOf? (some p)).map fun place => [UInt8.ofNat (table.size - 1 - place)] }
  decode errors octets :=
    let next (octets : Bytes) : Reading :=
      match octets with
      | [] => .done
      | o :: _ => match table.getD o.toNat none with
        | some p => .text [p] 1
        | none => .fault [] 1 "character maps to <undefined>"
    OctetReader.decode ⟨"charmap", octets, next⟩ errors 0

/-- The table with a name. -/
def table? (name : String) : Option (Array (Option Point)) :=
  (Data.tables.find? fun entry => entry.1 == name).map fun entry => unpackTable entry.2

/-- The codec of the table with a name. -/
def tabled? (name : String) : Option Codec := (table? name).map ofTable

/-- The characters of pairs, and the pairs of characters. -/
structure PairTable where
  /-- The characters by the numbers of their pairs; zero where there is none. -/
  points : Array Nat
  numbers : Std.HashMap Nat Nat

namespace PairTable

/-- Pairs in a row, each with its character. -/
def entries (runs : List (Nat × String)) : List (Nat × Nat) :=
  runs.flatMap fun (first, characters) =>
    characters.toList.zipIdx.map fun (c, place) => (first + place, c.toNat)

/-- The table of pairs and characters. Of several characters for a pair the last is read, and of several pairs for a
character the first is written. -/
def ofEntries (entries : List (Nat × Nat)) : PairTable where
  points := entries.foldl (fun points (number, point) => points.setIfInBounds number point) (Array.replicate 0x10000 0)
  numbers := entries.foldl (fun numbers (number, point) => numbers.insertIfNew point number) ∅

/-- The table of pairs in runs. -/
def ofRuns (runs : List (Nat × String)) : PairTable := ofEntries (entries runs)

/-- The table in which these pairs are read and others written for their characters. -/
def readOnly (table : PairTable) (read : List (Nat × Nat)) : PairTable :=
  { table with points := read.foldl (fun points (number, point) => points.setIfInBounds number point) table.points }

/-- The table in which these characters are written with pairs that are read as others. -/
def writeOnly (table : PairTable) (written : List (Nat × Nat)) : PairTable :=
  { table with numbers := written.foldl (fun numbers (number, point) => numbers.insert point number) table.numbers }

/-- The number of a pair. -/
def number (a b : Nat) : Nat := 256 * a + b

/-- The octets of a pair. -/
def octets (n : Nat) : Bytes := [UInt8.ofNat (n / 256), UInt8.ofNat (n % 256)]

/-- The character of a pair. -/
def point? (table : PairTable) (n : Nat) : Option Point :=
  match table.points.getD n 0 with
  | 0 => none
  | point => some (Point.ofNat point)

/-- The pair of a character. -/
def number? (table : PairTable) (p : Point) : Option Nat := table.numbers.get? p.val

end PairTable

end PhaseScript.Codec
