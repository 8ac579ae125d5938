import PhaseScript.Text.Category
/-
Characters that are made of a base and marks: taken apart, put in order, and put together again. Two texts that look
the same have the same composed form. Hangul syllables are computed, all others come from a table that is packed as
the other tables are.
-/
set_option autoImplicit false

namespace PhaseScript.Composed.Data

/-- Packed table: the characters that are made of two, Hangul apart. -/
def parts : String :=
  "gHC9HgiBBC-HgiBBChIgiBBCjIgiBBClIoiBBCnIqiBCCnIgkBBClIwhBBCnIwhBBCpIwhBBCrI6hBBClIohBBCnIohBBCpIohBB" ++
    "CrIyhBCClIkhBBClI8gBBCnI8gBBCpI8gBBCrI8gBBCtIkhBDCnIugBBCpIugBBCrIugBBCtI4gBBCnIogBCCrIygBCC-JmgBCCj" ++
    "KmgBCCnKmiBCCnK0fCCrKyfCCvK4fCCzK+fCC1K6fEC7KifCC-KifCCjLgfCCnL+gBCCrLifCCrLqeCCvLueCCzLseCC3LogBCC5" ++
    "L6dEC-L0dCCjMydCCnMydCCrMyfGC1M6cCC3MgfDC7MucCC-M2eCCjN8cGCrN6bCCvNieCCzNocFC7NubCC-NubCCjO0bEClO4aC" ++
    "CpOgdCCtOmbCCvOsaCCzOqaCC3OwcCC7O2aCC9OocCChPuaECnP0ZCCrPyZCCvPyZCCzP2ZCC3P0ZCC7PqbCC7P6YCC7P2YDC-Pu" ++
    "YCCjQ2YCCnQ8YjBCjT0XPC1T2WeC5W8TCCtW4TCClW0TCC9VwTCCzN8SCC3NySCC7NkTCC-NoSDC1PqSCCsEmSCC5PiSEC-XqSCC" ++
    "7XmSCC3X6TCCDuRCCmK6RBCrY4RFC7Y4QEC1YuQCCrRsQCCtRoQCCtQkQCC-Z8QCCja8QCC-Z0QCCja0QCC-ZsQCCjasQCC7ZkQC" ++
    "C-ZkQCC9Z8PCCha8PCC-Z0PCCja0PCCra6QCCta2QECtb6OICrcgOCCnc8PCCpTyNCCvTuNCC-bwNCCDmNCCzbiN9KC0D9IcCK1K" ++
    "BCQ3KBCS5KBCU7KBC2B9KaChBjMBCLlMBCZ1MBCP3MBCJ5MrDCBlTXC1B-UBC3BxUCC-BjVECB9UFCjC1VBCpC5VBC1BvVZCDvWr" ++
    "CC3I3bPChK1cCClK1cECjKhdECDldCCtKpdCCvKtdEC1K9dCC5K5dCCxK9dECDleCC-JpeCC3K1eCC7KxeCC-KveCC7K5eEC7Khf" ++
    "pJCKiDBCIiDBCoCgDBCEgDBCoC8C6ECqB3GCCB7GRCB9H2SCBmBICBWDCBQ3ECHZBCJW8LCBcDCHZBCJWoCCDmE2BCHXBCHZBCLW" ++
    "8DCDc4DCBqBHCBcBCDcCCHPBCBU-DCHXBCHZBCLWuECBfCCFZBCBlBBCJCoSCBQg3CCB+CCCB6CCCB2CCCByCCCBuCECBmCpBCBL" ++
    "CCBPDCDVBCDXCCBb+VC-5O3tNCCh6O3vNCCl6OjuNCCp6OrtNCCjyOvwNCCt6OnwNCCx6OzuNCC16O7tNCC56OzuNCC96OruNCCj" ++
    "wOpxNCCnwOrxNCCn7O3uNCCr7O1uNCCn-NtxNCCx7OvxNCCz7O5xNCC17O3xNCC57OjwNCC97O9xNCCh8OjwNCCl8O5vNCCn8O5v" ++
    "NCC-zO7yNCCr8O-yNCCv8O-wNCCz8OnwNCC18OnxNCCDpzNCC98OzwNCCh9O-wNCCj9O7zNCCn9OzzNCCr9O-xNCCt9O7zNCCx9O" ++
    "nyNCC19OvxNCC59O7xNCCv1O30NCCz1Ot0NCCnwOh1NCCrwOj1NCCp+On1NCCt+O-0NCCt+Oj1NCCx+OvzNCCDx1NCC5+O7yNCC7" ++
    "+Oz1NCC-+O-zNCCzwO71NCCrwO-1NCCLj2NCCt-On2NCCx-Oz0NCC1-O7zNCC5-On0NCC7-O90NCC--Op0NCCjgPz0NCC-wOv3NC" ++
    "C-wOl3NCCtgPz3NCCxgP31NCCzgPh4NCC3gPj4NCC7gP53NCC-gP-3NCCjhPr2NCClhPn4NCCphPp4NCCrhPv4NCCthP94NCCxhP" ++
    "-2NCC1hPn2NBC7iPp2NBCliP94NBChiP74NBC-hP94NIC-jP73NCCjkPz5NCCl8On6NCCp8Ot6NCCt8O-5NCCx8Ov6NCCX16NCC3" ++
    "6O76NCC76Oh7NCC-6Oz6NCCj7Oj7NCCrBh7NCCnlPr5NCCrlPj7NCCvlPz7NCCp9O77NCCt9Oh8NCCx9Oz7NCC19Oj8NCCbp8NCC" ++
    "-lP-7NCCjmPv6NCC7lPz6NCC-lPr8NCC59O-8NCC99Ol9NCCh+O38NCCl+On9NCCXt9NCCzzOz9NCC3zO59NCC7zOr9NCC-zO79N" ++
    "CCj0O-7NCC-mPj8NCCjnP79NCCxzOv+NCC1zO1+NCC5zOn+NCC9zO3+NCCh0O78NCCznPl-NCC3nPj9NCC7nP7+NCC-nPr-NHC90" ++
    "N5+NBC-0N5+NBCDjgOBCDlgOBCHlgOBCHngOBCLn8NBCLp8NJC11N5-NBC31N5-NBCDjhOBCDlhOBCHlhOBCHnhOLCx2N5gOBCz2" ++
    "N5gOBCDjiOBCDliOBCHliOBCHniOBCLn+NBCLp+NJCt3N5hOBCv3N5hOBCDjjOBCDljOBCHljOBCHnjOBCLn-NBCLp-NJCh4N5iO" ++
    "BCj4N5iOBCDjkOBCDlkOBCHlkOBCHnkOLC14N5jOBC34N5jOBCDjlOBCDllOBCHllOBCHnlOBCLnhOBCLphOJCt5N5kOBCv5N5kO" ++
    "BCDjmOBCDlmOBCHlmOBCHnmOBCLniOBCLpiOJC97N-mOCC57NjnOCC57NnnOCC57NrnOCCx7NvnOCCp7NznOCCl7N3nO0BC9-Nzq" ++
    "OBC--N5qOFCpgOnnOQC9gOnoOKCthOzsOBCvhO5sOBCvgOjtOEC5hOnpOBC5gOppOJC1hOztOBC3hO5tOBCthOjuOCCliOhtOBCn" ++
    "iOhtOBChiOnqOBC3hOpqOPC5iOnrOkNCTjmPBCRlmPTCzBrnPfCGppPBCMrpPBCGtpP1BCB3sPFCBhtPDCBntPYCB3uPCCB7uPbC" ++
    "JxwPDCB3wPDCD9wPCCBhxPXCliRvyPCCBzyPLC-BpzPBCjjRrzPBChjRtzPBCXvzPBCXxzPDCD3zPBCD5zPDCD-zPBCDh0PHCLv0" ++
    "PBCLx0PDCD30PBCD50PDCD-0PBCDh1PjBCTn3PBCJp3PBCJr3PBCHt3PxBCnGv6PBCnGx6PBChFz6PBChF16PHCvDj7PBCvDl7PB" ++
    "CvDn7PBCvDp7P-qDCB6ECCB2ECCByECCBuECCBqECCBmECCBiECCB+DCCB6DCCB2DCCByDCCBuDDCBoDCCBkDCCBgDHCByCBCDyC" ++
    "CCBsCBCDsCCCBmCBCDmCCCBgCBCDgCCCB6BBCD6BXC7EKKCBJOCBlBCCBpBCCBtBCCBxBCCB1BCCB5BCCB9BCCBhCCCBlCCCBpCC" ++
    "CBtCCCBxCDCB3CCCB7CCCB-CHCBtDBCDtDCCBzDBCDzDCCB5DBCD5DCCB-DBCD-DCCBlEBCDlEXC7E1FDCP7FBCP9FBCP-FBCPhG" ++
    "ECBpG883BCBgCCCB8BPCLejECGNBCGP8QCHZBCJWvLCDBBCFXCCJB8HCDVBCDX9bCFP"

/-- Packed table: the classes by which marks on one base are put in order. -/
def markClasses : String :=
  "gYVmHABoHAE8GABoHAB4GAF8GACqGAE8GACqGAL8GAFBAE8GADmHCBmHDBmHAD8GADmHAC8GBDmHAE8GABmHABoHAC8GABmHABpH" ++
    "ACqHABpHACqHABpHANmHzIFmHpIB8GAEmHAB8GADmHAB+GAB8GAGmHAG8GACmHAB8GACmHAB+GABkHABmHABKABLABMABNABOABP" ++
    "ABQABRABSACTABUABVABWBBXBBYABZBBmHAB8GBBSoCImHABeABfABgBwBBbABcABdABeABfABgBABhBABiBACmHAC8GAFmHAB8G" ++
    "ACmHAB8GQBjBlDHmHCEmHAB8GABmHCCmHBB8GACmHAB8GjBBkBeBmHAB8GACmHAB8GACmHAD8GABmHAC8GABmHAB8GADmHAB8GAB" ++
    "mHAB8GABmHAB8GABmHAB8GACmHgFHmHAB8GABmHJB8GYEmHBJmHBDmHBFmHrBD8G8BBmHAD8GAEmHqBFmHAF8GAOmHBB8GACmHAB" ++
    "8GACmHAB8GADmHAD8GABbABcABdADmHAB8GACmHAC8GAFmH8BBHQBJDBmHAB8GACmHnDBHQBJwBBmH9BBHQBJuDBHQBJuDBHQBJ-" ++
    "DBJuDBHQBJHB0CAB7ClDBHQBJtDCJQBJ8DBJtDCnDABJNErDsDC2DABJNE6DsCC8GbB8GBB8GBB4G3BBhEABiEBBkEFEiECBiEBC" ++
    "mHABJBCmH+BB8GwDBHBCJyCB8GvWDmH0dCJeBJ9EBJKBmHrGBkHvEB+GABmHAB8G7GBmHAB8GnCBJUImHCB8GwBFmHAG8GACmHAB" ++
    "8GBC8GACmHAC8GAFmHAB8GAEmHlDBHPBJmBBmHAB8GAHmH2BCJ6BBHLCJjCBH4EDmHBBBAF8GACmHAE8GABmHBHBEB8GGBmHDCmH" ++
    "mGCmHAB8GAHmHAB8GACmHABqHAB2GAB8GABqGAlBmHABoHACkHAB8GAB6GABmHABpHAB8GABmHAB8GwWCmHACBAEmHADBACmHEBm" ++
    "HDCBABmHAB8GABmHACBAE8GABmH+-CDmHtEBJgDgBmHqRB6GABkHABoHAB+GACgHpDCI0udBmHEKmHgBCmHwCCmH0IBJlBBJ3EBJ" ++
    "bSmH5BD8GlBBJ-CBHMBJvHBmHBCmHAB8GCCmHFCmHBBmH0BBJ2HBJw5TBahYHmHAH8GACmHteB8GiHB8G1EFmHy0BB8GBBmHoBBm" ++
    "HABBAB8GEBJlFBmHAB8G9REmHjMCmHwCD8GmCC8GADmHAB8GABmHAE8GxBBmHAB8GABmHAB8GgGBJpBBJOBJ5BBJABHlCDmHwBCJ" ++
    "+BBHsCBJJBHqDBJABHyFBHABJwCCHQBJYHmHDFmHtGBJDBHXBmHjDBJABH7HBJABH+DBJ2DBJABHzDBJtIBJABHiICJEBH8EBJzC" ++
    "BJSBJxCBJlNBJiIBHBCJxCBJpNCJt9SFB7BHmH5lBCGslTBBmmFC4GADBDBiHAF4GII8GCFmHAC8GeEmH0EDmH7tDHmHBRmHCHmH" ++
    "BCmHBFmHkDBmHgFHmH3LBmH9BEmH8PCoHAB8GABmHgfH8GtDGmHABH"

end PhaseScript.Composed.Data

namespace PhaseScript.Composed

/-- The base and the mark of each character that is made of two. -/
def pairs : Category.CaseTable := .ofPacked Data.parts

/-- The classes of marks; marks of one class keep their order, and a base is of class zero. -/
def markClasses : Category.ClassTable := .ofPacked Data.markClasses

/-- The class of a mark, or zero. -/
def markClass (p : Point) : Nat := markClasses.classOf p.val

/-- Whether a number is that of a Hangul syllable. -/
def isSyllable (n : Nat) : Bool := 0xAC00 ≤ n && n < 0xAC00 + 11172

/-- A syllable as its two or three letters. -/
def letters (n : Nat) : Text :=
  let place := n - 0xAC00
  let final := place % 28
  [Point.ofNat (0x1100 + place / 588), Point.ofNat (0x1161 + place % 588 / 28)]
    ++ if final == 0 then [] else [Point.ofNat (0x11A7 + final)]

/-- A syllable from a letter and a vowel, or from a syllable without a final letter and such a letter. -/
def syllable? (a b : Nat) : Option Point :=
  if 0x1100 ≤ a && a < 0x1113 && 0x1161 ≤ b && b < 0x1176 then
    some (Point.ofNat (0xAC00 + ((a - 0x1100) * 21 + (b - 0x1161)) * 28))
  else if isSyllable a && (a - 0xAC00) % 28 == 0 && 0x11A7 < b && b < 0x11C3 then
    some (Point.ofNat (a + (b - 0x11A7)))
  else none

/-- The two parts of a character, which may have parts themselves; of any other the character. -/
def split (p : Point) : Text := if isSyllable p.val then letters p.val else (pairs.form? p.val).getD [p]

/-- A text taken apart as far as it goes; no character is made in more than four steps. -/
def apart (t : Text) : Text := (((t.flatMap split).flatMap split).flatMap split).flatMap split

/-- Puts a mark before marks in order. -/
def insertMark (p : Point) : Text → Text
  | q :: rest =>
    if markClass q != 0 && markClass q < markClass p then q :: insertMark p rest else p :: q :: rest
  | [] => [p]

/-- The marks on each base in the order of their classes. -/
def inOrder (t : Text) : Text := t.foldr insertMark []

/-- The character that is made of two. -/
def join? (a b : Point) : Option Point :=
  match syllable? a.val b.val with
  | some p => some p
  | none => (pairs.forms.findIdx? (· == [a, b])).bind fun place => pairs.points[place]?.map Point.ofNat

/-- A base on which marks are being put: those that could not be, the last first, and what stands before it. -/
structure Joining where
  done : Text
  base : Option Point
  marks : Text

/-- Goes past one character. A mark is joined to the base unless another of its class or a higher one is between. -/
def Joining.next (s : Joining) (p : Point) : Joining :=
  let isFree := match s.marks with
    | [] => true
    | mark :: _ => markClass mark < markClass p
  match (if isFree then s.base.bind (join? · p) else none) with
  | some joined => { s with base := some joined }
  | none =>
    if markClass p == 0 then ⟨s.done ++ s.base.toList ++ s.marks.reverse, some p, []⟩
    else { s with marks := p :: s.marks }

/-- A text with each base and its marks as one character, as far as there is one. -/
def ofText (t : Text) : Text :=
  if t.all (·.val < 0x300) then t
  else
    let s := (inOrder (apart t)).foldl Joining.next ⟨[], none, []⟩
    s.done ++ s.base.toList ++ s.marks.reverse

end PhaseScript.Composed
