import PhaseScript.Text.Category
import PhaseScript.Text.NameData
/-
The names of characters. Most are words from a table; ideographs and the like are named by a kind and their number, and
Hangul syllables by how they sound. The table also has other names, by which characters are found and not called.
-/
set_option autoImplicit false

namespace PhaseScript.CharacterName

/-- Reading packed names: the names so far, each as the places of its words; the words of the one being read, the last
first; and how many words of it are due. -/
structure Unpacking where
  names : Array (List Nat)
  reading : List Nat
  due : Nat

/-- Takes the next number: a word that is due, or the head of a name, which keeps the first words of the one before. -/
def Unpacking.next (s : Unpacking) (n : Nat) : Unpacking :=
  match s.due with
  | 0 => { s with reading := ((s.names.back?.getD []).take (n % 16)).reverse, due := n / 16 + 1 }
  | 1 => ⟨s.names.push (n :: s.reading).reverse, [], 0⟩
  | due + 2 => { s with reading := n :: s.reading, due := due + 1 }

/-- The names of a packed table, each as the places of its words. -/
def unpackNames (numbers : Array Nat) : Array (List Nat) := (numbers.foldl Unpacking.next ⟨#[], [], 0⟩).names

/-- The numbers of runs, given by their boundaries. -/
def members : List Nat → List Nat
  | first :: stop :: rest => List.range' first (stop - first) ++ members rest
  | _ => []

/-- The names that are words, and with each place the number of the character. -/
structure Table where
  words : Array String
  names : Array (List Nat)
  points : Array Nat
  otherNames : Array (List Nat)
  otherPoints : Array Nat

/-- Reads the packed table. -/
def Table.ofPacked (words names : List String) (runs others gaps : String) : Table where
  words := (words.flatMap fun part => (part.splitOn " ").filter fun word => !word.isEmpty).toArray
  names := unpackNames (Category.unpack (String.join names))
  points := (members (Category.boundaries runs).toList).toArray
  otherNames := unpackNames (Category.unpack others)
  otherPoints := Category.boundaries gaps

/-- The table of names. It is read when it is first needed. -/
def table : Thunk Table := .mk fun _ =>
  .ofPacked Data.words Data.names Data.namedRuns Data.otherNames Data.otherGaps

/-- A name of words as the places of its words, if all of them are in the table. -/
def Table.places? (table : Table) (name : String) : Option (List Nat) :=
  (name.splitOn " ").mapM fun word => table.words.idxOf? word

/-- The words at their places, with blanks between. -/
def Table.written (table : Table) (places : List Nat) : Text :=
  Text.join [Point.ofChar ' '] (places.map fun place => Text.ofString (table.words.getD place ""))

/-- The number of the character with a name of words. -/
def Table.find? (table : Table) (name : String) : Option Nat :=
  (table.places? name).bind fun places =>
    ((table.names.idxOf? places).bind fun place => table.points[place]?).or
      ((table.otherNames.idxOf? places).bind fun place => table.otherPoints[place]?)

/-- The name of words that a character has. -/
def Table.nameOf? (table : Table) (n : Nat) : Option Text :=
  let count := Category.countAtMost table.points n 0 table.points.size
  if count == 0 || table.points.getD (count - 1) 0 != n then none
  else (table.names[count - 1]?).map table.written

/-- How the first consonants of Hangul syllables are spelled. -/
def firsts : List String :=
  ["G", "GG", "N", "D", "DD", "R", "M", "B", "BB", "S", "SS", "", "J", "JJ", "C", "K", "T", "P", "H"]

/-- How their vowels are spelled. -/
def vowels : List String :=
  ["A", "AE", "YA", "YAE", "EO", "E", "YEO", "YE", "O", "WA", "WAE", "OE", "YO", "U", "WEO", "WE", "WI", "YU", "EU",
    "YI", "I"]

/-- How their last consonants are spelled. -/
def lasts : List String :=
  ["", "G", "GG", "GS", "N", "NJ", "NH", "D", "L", "LG", "LM", "LB", "LS", "LT", "LP", "LH", "M", "B", "BS", "S", "SS",
    "NG", "J", "C", "K", "T", "P", "H"]

/-- The longest spelling that a text begins with: its place, and what follows it. -/
def spelled? (spellings : List String) (t : Text) : Option (Nat × Text) :=
  (spellings.zipIdx.foldl (fun (best : Option (Nat × Nat)) (spelling, place) =>
    let isBetter := match best with
      | some (_, size) => size < spelling.length
      | none => true
    if isBetter && t.startsWith (Text.ofString spelling) then some (place, spelling.length) else best) none).map
      fun (place, size) => (place, t.drop size)

/-- The number of the Hangul syllable that is spelled so. -/
def syllable? (t : Text) : Option Nat := do
  let (first, t) ← spelled? firsts t
  let (vowel, t) ← spelled? vowels t
  let (last, t) ← spelled? lasts t
  if t.isEmpty then some (0xAC00 + (first * vowels.length + vowel) * lasts.length + last) else none

/-- How a Hangul syllable is spelled. -/
def spelling (n : Nat) : Text :=
  let place := n - 0xAC00
  let last := place % lasts.length
  let vowel := place / lasts.length % vowels.length
  let first := place / lasts.length / vowels.length
  Text.ofString (firsts.getD first "" ++ vowels.getD vowel "" ++ lasts.getD last "")

/-- How the names of syllables begin. -/
def syllables : Text := "HANGUL SYLLABLE "

/-- How the names of unified ideographs begin. -/
def ideographs : Text := "CJK UNIFIED IDEOGRAPH-"

/-- Whether a number has a name that begins so and goes on with the number. -/
def isNumbered (kind : Text) (n : Nat) : Bool :=
  Data.numbered.any fun (name, runs) => kind.is name && Category.inRuns (Category.boundaries runs) n

/-- The number that capital hexadecimal digits stand for. -/
def hexNumber? (digits : Text) : Option Nat :=
  digits.foldl (fun (n : Option Nat) p =>
    let digit := if 65 ≤ p.val && p.val ≤ 70 || p.isAsciiDigit then p.asciiDigit? else none
    n.bind fun n => digit.map fun digit => 16 * n + digit) (some 0)

/-- The character with a name that ends in its number, which is written in the fewest digits. -/
def numbered? (name : Text) : Option Nat :=
  Data.numbered.findSome? fun (kind, runs) =>
    let digits := name.drop kind.length
    if kind == "CJK UNIFIED IDEOGRAPH-" || !name.startsWith (Text.ofString kind) then none
    else (hexNumber? digits).filter fun n =>
      Category.inRuns (Category.boundaries runs) n && Text.hex 0 n == Text.asciiLower digits

/-- The character with a name. Only names of words, and those of the smaller kinds, may be in small letters; the number
of a unified ideograph has four or five digits. -/
def pointOf? (name : Text) : Option Point :=
  let found :=
    if name.startsWith syllables then syllable? (name.drop syllables.length)
    else if name.startsWith ideographs then
      let digits := name.drop ideographs.length
      if digits.length != 4 && digits.length != 5 then none
      else (hexNumber? digits).filter (isNumbered ideographs)
    else if name.any fun p => p.val ≥ 128 then none
    else
      let name := Text.asciiUpper name
      (numbered? name).or (table.get.find? (Text.toString name))
  found.map Point.ofNat

/-- The name of a character. -/
def ofPoint? (p : Point) : Option Text :=
  let n := p.val
  if 0xAC00 ≤ n && n < 0xAC00 + 11172 then some (syllables ++ spelling n)
  else match Data.numbered.find? fun (_, runs) => Category.inRuns (Category.boundaries runs) n with
    | some (kind, _) => some (Text.ofString kind ++ Text.asciiUpper (Text.ofNatBase 16 n))
    | none =>
      let table := table.get
      if 0xF0000 ≤ n && n < 0xF0000 + table.otherNames.size then
        table.otherNames[n - 0xF0000]?.map table.written
      else table.nameOf? n

end PhaseScript.CharacterName
