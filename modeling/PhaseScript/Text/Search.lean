import PhaseScript.Text.Category
/-
Searching and taking texts apart. Most of it holds for rows of anything, and is written for them.
-/
set_option autoImplicit false

namespace PhaseScript.Row

variable {α : Type} [BEq α]

/-- The place of the first occurrence at or after the start. -/
def find? (needle : List α) : List α → Option Nat
  | [] => if needle.isEmpty then some 0 else none
  | a :: rest => if needle.isPrefixOf (a :: rest) then some 0 else (find? needle rest).map (· + 1)

/-- The place of the last occurrence. -/
def findLast? (needle row : List α) : Option Nat :=
  (find? needle.reverse row.reverse).map fun n => row.length - n - needle.length

/-- What stands before the first occurrence, and what after it. -/
def cut? (needle row : List α) : Option (List α × List α) :=
  (find? needle row).map fun n => (row.take n, row.drop (n + needle.length))

/-- What stands before the last occurrence, and what after it. -/
def cutLast? (needle row : List α) : Option (List α × List α) :=
  (findLast? needle row).map fun n => (row.take n, row.drop (n + needle.length))

/-- The pieces between occurrences that do not overlap, with at most so many cuts. The needle is not empty; the fuel
is the length of the row. -/
def splitFrom (needle : List α) : Nat → Option Nat → List α → List (List α)
  | 0, _, row => [row]
  | _, some 0, row => [row]
  | fuel + 1, most, row =>
    match cut? needle row with
    | none => [row]
    | some (before, after) => before :: splitFrom needle fuel (most.map (· - 1)) after

def split (needle : List α) (most : Option Nat) (row : List α) : List (List α) :=
  splitFrom needle (row.length + 1) most row

/-- The same with cuts counted from the end. -/
def splitLast (needle : List α) (most : Option Nat) (row : List α) : List (List α) :=
  ((split needle.reverse most row.reverse).map List.reverse).reverse

def join (separator : List α) : List (List α) → List α
  | [] => []
  | [a] => a
  | a :: rest => a ++ separator ++ join separator rest

/-- How often a needle occurs, occurrences not overlapping. An empty one occurs at each place. -/
def count (needle row : List α) : Nat :=
  if needle.isEmpty then row.length + 1 else (split needle none row).length - 1

/-- Something put between the items and at both ends, so many times from the front. -/
def interleave (new : List α) : Option Nat → List α → List α
  | some 0, row => row
  | _, [] => new
  | most, a :: rest => new ++ a :: interleave new (most.map (· - 1)) rest

/-- The row with occurrences replaced, at most so many from the front. -/
def replace (old new : List α) (most : Option Nat) (row : List α) : List α :=
  if old.isEmpty then interleave new most row else join new (split old most row)

/-- The words of a row, with at most so many cuts; the last piece then keeps its inner blanks. The fuel is the length
of the row. -/
def wordsFrom (blank : α → Bool) : Nat → Option Nat → List α → List (List α)
  | 0, _, _ => []
  | fuel + 1, most, row =>
    let row := row.dropWhile blank
    if row.isEmpty then []
    else match most with
      | some 0 => [row]
      | _ =>
        let word := row.takeWhile fun a => !blank a
        word :: wordsFrom blank fuel (most.map (· - 1)) (row.drop word.length)

def words (blank : α → Bool) (most : Option Nat) (row : List α) : List (List α) :=
  wordsFrom blank (row.length + 1) most row

/-- The words with cuts counted from the end. -/
def wordsLast (blank : α → Bool) (most : Option Nat) (row : List α) : List (List α) :=
  ((words blank most row.reverse).map List.reverse).reverse

/-- How the lines of a row end: by one of some items, two of which together are one end. -/
structure LineEnds (α : Type) where
  ends : α → Bool
  isReturn : α → Bool
  isFeed : α → Bool

/-- The lines of a row. `keep` leaves the ends of the lines on them. The fuel is the length of the row. -/
def linesFrom (e : LineEnds α) (keep : Bool) : Nat → List α → List (List α)
  | 0, _ => []
  | fuel + 1, row =>
    if row.isEmpty then []
    else
      let line := row.takeWhile fun a => !e.ends a
      match row.drop line.length with
      | a :: b :: rest =>
        if e.isReturn a && e.isFeed b then
          (if keep then line ++ [a, b] else line) :: linesFrom e keep fuel rest
        else (if keep then line ++ [a] else line) :: linesFrom e keep fuel (b :: rest)
      | [a] => [if keep then line ++ [a] else line]
      | [] => [line]

def lines (e : LineEnds α) (keep : Bool) (row : List α) : List (List α) := linesFrom e keep (row.length + 1) row

/-- The row without what stands for a class at its ends. -/
def strip (test : α → Bool) (row : List α) : List α := ((row.dropWhile test).reverse.dropWhile test).reverse

def stripEnd (test : α → Bool) (row : List α) : List α := (row.reverse.dropWhile test).reverse

end PhaseScript.Row

namespace PhaseScript.Text

def words (most : Option Nat) (t : Text) : List Text := Row.words Point.isBlank most t

def wordsLast (most : Option Nat) (t : Text) : List Text := Row.wordsLast Point.isBlank most t

def lines (keep : Bool) (t : Text) : List Text :=
  Row.lines ⟨Point.endsLine, fun p => p.is '\r', fun p => p.is '\n'⟩ keep t

/-- Tabs made into blanks up to the next stop; a line end begins the columns anew. -/
def expandTabs (size : Nat) : Nat → Text → Text
  | _, [] => []
  | column, p :: rest =>
    if p.is '\t' then
      let width := if size == 0 then 0 else size - column % size
      List.replicate width (Point.ofChar ' ') ++ expandTabs size (column + width) rest
    else p :: expandTabs size (if p.is '\n' || p.is '\r' then 0 else column + 1) rest

/-- The text with zeros after its sign up to a width. -/
def zeroFill (width : Nat) : Text → Text
  | [] => padLeft width '0' []
  | p :: rest =>
    if p.is '+' || p.is '-' then p :: padLeft (width - 1) '0' rest else padLeft width '0' (p :: rest)

/-- The text in the middle of a width; the left side gets the odd place where text and width are both odd or the
width is. -/
def center (width : Nat) (fill : Point) (t : Text) : Text :=
  let free := width - t.length
  let before := free / 2 + (free % 2) * (width % 2)
  List.replicate before fill ++ t ++ List.replicate (free - before) fill

/-- Whether there is a cased point and every one passes. -/
def allCased (test : Point → Bool) (t : Text) : Bool :=
  t.any Point.isCased && t.all fun p => !p.isCased || test p

/-- Whether each word begins with a capital and goes on in small letters. -/
def isTitleFrom : Bool → Bool → Text → Bool
  | found, _, [] => found
  | found, inWord, p :: rest =>
    if p.isUpper || p.isTitle then !inWord && isTitleFrom true true rest
    else if p.isLower then inWord && isTitleFrom true true rest
    else isTitleFrom found false rest

def isTitle (t : Text) : Bool := isTitleFrom false false t

/-- Whether there is a point and all pass. -/
def allOf (test : Point → Bool) (t : Text) : Bool := !t.isEmpty && t.all test

end PhaseScript.Text
