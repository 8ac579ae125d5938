import PhaseScript.Number.Bits
/-
A table of items with their hashes, in which an item is found from its hash. The table has a power of two of places.
An item is put into the first free place of a walk that begins where the hash points, looks at a few places in a row
and then jumps on, the bits of the hash being used up on the way. The items are given out in the order of their places.
-/
set_option autoImplicit false

namespace PhaseScript.Machine

/-- A place of the table. -/
inductive Slot (α : Type) where
  | free
  /-- An item was here; a walk goes on past it. -/
  | removed
  | taken (hash : Nat) (item : α)
  deriving Repr, Inhabited

/-- Places for items, a power of two of them. -/
structure ItemTable (α : Type) where
  slots : Array (Slot α)
  /-- How many places are not free. -/
  fill : Nat
  /-- How many items there are. -/
  size : Nat
  /-- Where to look for the item that is taken out next. -/
  finger : Nat
  deriving Repr, Inhabited

namespace Slot

variable {α : Type}

def item? : Slot α → Option α
  | .taken _ a => some a
  | _ => none

def isFree : Slot α → Bool
  | .free => true
  | _ => false

def isRemoved : Slot α → Bool
  | .removed => true
  | _ => false

/-- Whether a place holds an item, by its hash and by what says which one it is. -/
def holds (same : α → Bool) (hash : Nat) : Slot α → Bool
  | .taken h a => h == hash && same a
  | _ => false

end Slot

namespace ItemTable

variable {α : Type}

def leastPlaces : Nat := 8

/-- A table without items. -/
def empty : ItemTable α := ⟨Array.replicate leastPlaces .free, 0, 0, 0⟩

/-- The items in the order of their places. -/
def items (t : ItemTable α) : Array α := t.slots.filterMap Slot.item?

/-- How many places in a row a walk looks at after the one it has come to. -/
def rowLength : Nat := 9

/-- Where a walk has ended, if it has, and the last place on its way from which an item was removed. -/
abbrev Way := Option Nat × Option Nat

/-- Goes along some places in a row up to one at which the walk ends. -/
def goAlong (ends : Slot α → Bool) (slots : Array (Slot α)) (place : Nat) (vacant : Option Nat) : Nat → Way
  | 0 => (none, vacant)
  | n + 1 =>
    if (slots[place]?).any ends then (some place, vacant)
    else goAlong ends slots (place + 1) (if (slots[place]?).any Slot.isRemoved then some place else vacant) n

/-- A walk from a place on; the fuel bounds the number of jumps. -/
def walk (ends : Slot α → Bool) (slots : Array (Slot α)) : Nat → Nat → Nat → Option Nat → Way
  | 0, _, _, vacant => (none, vacant)
  | fuel + 1, place, rest, vacant =>
    let row := if place + rowLength < slots.size then rowLength + 1 else 1
    match goAlong ends slots place vacant row with
    | (some found, vacant) => (some found, vacant)
    | (none, vacant) =>
      let rest := rest / 2 ^ 5
      walk ends slots fuel ((place * 5 + 1 + rest) % slots.size) rest vacant

/-- The walk from the place at which a hash points. -/
def walkFrom (ends : Slot α → Bool) (slots : Array (Slot α)) (hash : Nat) : Way :=
  walk ends slots (slots.size + 16) (hash % slots.size) hash none

/-- Puts an item into the first free place of its walk. -/
def settle (slots : Array (Slot α)) (hash : Nat) (a : α) : Array (Slot α) :=
  match (walkFrom Slot.isFree slots hash).1 with
  | some place => slots.setIfInBounds place (.taken hash a)
  | none => slots

/-- The smallest power of two from `places` on that is greater than a number. -/
def placesAbove (least : Nat) : Nat → Nat → Nat
  | 0, places => places
  | fuel + 1, places => if places ≤ least then placesAbove least fuel (2 * places) else places

/-- The items put in turn into so many free places. -/
def rebuilt (places : Nat) (slots : Array (Slot α)) : Array (Slot α) :=
  slots.foldl (fun found slot => match slot with
    | .taken hash a => settle found hash a
    | _ => found) (Array.replicate places .free)

/-- The table with room for more than so many items. The smallest table stays as it is if nothing was removed. -/
def resize (t : ItemTable α) (least : Nat) : ItemTable α :=
  let places := placesAbove least least leastPlaces
  if places == leastPlaces && t.slots.size == leastPlaces && t.fill == t.size then t
  else { t with slots := rebuilt places t.slots, fill := t.size }

/-- Room for growth. -/
def grown (t : ItemTable α) : ItemTable α := t.resize (if t.size > 50000 then t.size * 2 else t.size * 4)

/-- Whether so many places are too many of those there are to be filled. -/
def isCrowded (t : ItemTable α) (fill : Nat) : Bool := (t.slots.size - 1) * 3 ≤ fill * 5

/-- The place of an item, if it is there; `same` says which one it is. -/
def place? (t : ItemTable α) (same : α → Bool) (hash : Nat) : Option Nat := do
  let place ← (walkFrom (fun slot => slot.isFree || slot.holds same hash) t.slots hash).1
  if (t.slots[place]?).any Slot.isFree then none else some place

def contains (t : ItemTable α) (same : α → Bool) (hash : Nat) : Bool := (t.place? same hash).isSome

/-- The table with one more item; `same` says of an item whether it is that one. A place from which an item was removed
is used again. -/
def insert (t : ItemTable α) (same : α → Bool) (hash : Nat) (a : α) : ItemTable α :=
  match walkFrom (fun slot => slot.isFree || slot.holds same hash) t.slots hash with
  | (none, _) => t
  | (some place, vacant) =>
    if !(t.slots[place]?).any Slot.isFree then t
    else match vacant with
      | some place => { t with slots := t.slots.setIfInBounds place (.taken hash a), size := t.size + 1 }
      | none =>
        let more := { t with
          slots := t.slots.setIfInBounds place (.taken hash a), fill := t.fill + 1, size := t.size + 1 }
        if more.isCrowded more.fill then more.grown else more

/-- The table without the item at a place. -/
def clearPlace (t : ItemTable α) (place : Nat) : ItemTable α :=
  { t with slots := t.slots.setIfInBounds place .removed, size := t.size - 1 }

/-- The table without an item, if it was there. -/
def erase? (t : ItemTable α) (same : α → Bool) (hash : Nat) : Option (ItemTable α) := (t.place? same hash).map t.clearPlace

/-- The table without the places of removed items, if they are more than a quarter. -/
def tidied (t : ItemTable α) : ItemTable α := if t.fill - t.size ≤ (t.slots.size - 1) / 4 then t else t.grown

/-- The first item among so many places, with its place. -/
def nextAmong? (slots : Array (Slot α)) (place : Nat) : Nat → Option (α × Nat)
  | 0 => none
  | n + 1 => match (slots[place]?).bind Slot.item? with
    | some a => some (a, place)
    | none => nextAmong? slots (place + 1) n

/-- The first item from a place on, with its place. -/
def next? (t : ItemTable α) (place : Nat) : Option (α × Nat) := nextAmong? t.slots place (t.slots.size - place)

/-- Takes an item out: the first one from the finger on, or from the beginning. -/
def pop? (t : ItemTable α) : Option (α × ItemTable α) := do
  let (a, place) ← (t.next? (t.finger % t.slots.size)).or (t.next? 0)
  return (a, { t.clearPlace place with finger := place + 1 })

/-- The items of another table put into this one. The room for all of them is made first. -/
def merge (t other : ItemTable α) (same : α → α → Bool) : ItemTable α :=
  if other.size == 0 then t
  else
    let t := if t.isCrowded (t.fill + other.size) then t.resize ((t.size + other.size) * 2) else t
    if t.fill == 0 then
      if t.slots.size == other.slots.size && other.fill == other.size then
        { t with slots := other.slots, fill := other.fill, size := other.size }
      else { t with slots := rebuilt t.slots.size other.slots, fill := other.size, size := other.size }
    else other.slots.foldl (fun t slot => match slot with
      | .taken hash a => t.insert (same a) hash a
      | _ => t) t

/-- The same items in a table of their own. -/
def copied (t : ItemTable α) (same : α → α → Bool) : ItemTable α := empty.merge t same

end ItemTable

end PhaseScript.Machine
