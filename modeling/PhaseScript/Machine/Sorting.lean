import PhaseScript.Machine.Compare
/-
Sorting by merging runs that already stand in order. The order of equal items is kept. A comparison may raise; the
items then stay in the arrangement that had been reached, which the failure carries.
-/
set_option autoImplicit false

namespace PhaseScript.Machine

namespace Sorting

variable {α : Type}

/-- A step of sorting that may fail with an arrangement of the items and what was raised. -/
abbrev Attempt (α β : Type) := ExceptT (Array α × Value) Run β

/-- Runs a comparison; if it raises, the items stay in an arrangement. -/
def asking {β : Type} (arrangement : Unit → Array α) (comparison : Run β) : Attempt α β := do
  match ← Run.catching comparison with
  | .ok b => return b
  | .error e => throw (arrangement (), e)

/-- Runs a step on some of the items, of which all are arranged by `whole` once these are. -/
def inside {β : Type} (whole : Array α → Array α) (step : Attempt α β) : Attempt α β :=
  ExceptT.mk do
    match ← step.run with
    | .ok b => return .ok b
    | .error (part, e) => return .error (whole part, e)

/-- Asks of an item, if there is one. -/
def ofItem (item : Option α) (test : α → Run Bool) : Run Bool :=
  match item with
  | some a => test a
  | none => return false

/-- Takes steps that double while a test holds of them: the last step of which it held, and the first of which it did
not, or the limit. -/
def stride (test : Nat → Run Bool) (limit : Nat) : Nat → Nat → Nat → Run (Nat × Nat)
  | 0, last, step => return (last, min step limit)
  | fuel + 1, last, step => do
    if step < limit then
      if ← test step then stride test limit fuel step (2 * step + 1) else return (last, step)
    else return (last, limit)

/-- The first place between two at which a test fails, found by halving. -/
def halve (test : Nat → Run Bool) : Nat → Nat → Nat → Run Nat
  | 0, low, _ => return low
  | fuel + 1, low, high => do
    if low < high then
      let middle := low + (high - low) / 2
      if ← test middle then halve test fuel (middle + 1) high else halve test fuel low middle
    else return low

/-- The place for an item before all that are equal to it, looked for from a hint on. -/
def placeBefore (less : α → α → Run Bool) (items : Nat → Option α) (size hint : Nat) (a : α) :
    Run Nat := do
  let isLess (k : Nat) : Run Bool := ofItem (items k) fun b => less b a
  if ← isLess hint then
    let (last, step) ← stride (fun k => isLess (hint + k)) (size - hint) size 0 1
    halve isLess size (hint + last + 1) (hint + step)
  else
    let (last, step) ← stride (fun k => return !(← isLess (hint - k))) (hint + 1) size 0 1
    halve isLess size (hint + 1 - step) (hint - last)

/-- The place for an item behind all that are equal to it, looked for from a hint on. -/
def placeBehind (less : α → α → Run Bool) (items : Nat → Option α) (size hint : Nat) (a : α) :
    Run Nat := do
  let isMore (k : Nat) : Run Bool := ofItem (items k) fun b => less a b
  let isLeft (k : Nat) : Run Bool := return !(← isMore k)
  if ← isMore hint then
    let (last, step) ← stride (fun k => isMore (hint - k)) (hint + 1) size 0 1
    halve isLeft size (hint + 1 - step) (hint - last)
  else
    let (last, step) ← stride (fun k => isLeft (hint + k)) (size - hint) size 0 1
    halve isLeft size (hint + last + 1) (hint + step)

/-- How often in a row one of two runs must win before its items are taken by strides. -/
def leastPatience : Nat := 7

/-- Two runs and how many items of each have been merged in front of the rest. -/
structure Front (α : Type) where
  left : Array α
  leftTaken : Nat
  right : Array α
  rightTaken : Nat
  merged : Array α
  deriving Inhabited

namespace Front

def left? (f : Front α) (k : Nat) : Option α := f.left[f.leftTaken + k]?

def right? (f : Front α) (k : Nat) : Option α := f.right[f.rightTaken + k]?

/-- How many items are left in the left run. -/
def leftSize (f : Front α) : Nat := f.left.size - f.leftTaken

def rightSize (f : Front α) : Nat := f.right.size - f.rightTaken

def leftRest (f : Front α) : Array α := f.left.drop f.leftTaken

def rightRest (f : Front α) : Array α := f.right.drop f.rightTaken

def whole (f : Front α) : Array α := f.merged ++ f.leftRest ++ f.rightRest

def takeLeft (f : Front α) (n : Nat) : Front α :=
  { f with merged := f.merged ++ f.left.extract f.leftTaken (f.leftTaken + n), leftTaken := f.leftTaken + n }

def takeRight (f : Front α) (n : Nat) : Front α :=
  { f with merged := f.merged ++ f.right.extract f.rightTaken (f.rightTaken + n), rightTaken := f.rightTaken + n }

/-- What is left is in order but for the only item of the left run, which comes last. -/
def lastLeft (f : Front α) : Array α := f.merged ++ f.rightRest ++ f.leftRest

end Front

mutual

/-- Merges item by item from the front, until one run has won often enough. -/
def frontByItems (less : α → α → Run Bool) : Nat → Front α → Nat → Nat → Nat → Attempt α (Array α × Nat)
  | 0, f, _, _, patience => return (f.whole, patience)
  | fuel + 1, f, leftWins, rightWins, patience => do
    match f.left? 0, f.right? 0 with
    | some a, some b =>
      if ← asking (fun _ => f.whole) (less b a) then
        let f := f.takeRight 1
        if f.rightSize == 0 then return (f.whole, patience)
        if patience ≤ rightWins + 1 then frontByStrides less fuel f (patience + 1)
        else frontByItems less fuel f 0 (rightWins + 1) patience
      else
        let f := f.takeLeft 1
        if f.leftSize == 1 then return (f.lastLeft, patience)
        if patience ≤ leftWins + 1 then frontByStrides less fuel f (patience + 1)
        else frontByItems less fuel f (leftWins + 1) 0 patience
    | _, _ => return (f.whole, patience)

/-- Merges by strides from the front, while they are long. -/
def frontByStrides (less : α → α → Run Bool) : Nat → Front α → Nat → Attempt α (Array α × Nat)
  | 0, f, patience => return (f.whole, patience)
  | fuel + 1, f, patience => do
    let patience := if 1 < patience then patience - 1 else patience
    match f.right? 0 with
    | none => return (f.whole, patience)
    | some b =>
      let fromLeft ← asking (fun _ => f.whole) (placeBehind less f.left? f.leftSize 0 b)
      let f := f.takeLeft fromLeft
      if 0 < fromLeft && f.leftSize == 1 then return (f.lastLeft, patience)
      if f.leftSize == 0 then return (f.whole, patience)
      let f := f.takeRight 1
      if f.rightSize == 0 then return (f.whole, patience)
      match f.left? 0 with
      | none => return (f.whole, patience)
      | some a =>
        let fromRight ← asking (fun _ => f.whole) (placeBefore less f.right? f.rightSize 0 a)
        let f := f.takeRight fromRight
        if f.rightSize == 0 then return (f.whole, patience)
        let f := f.takeLeft 1
        if f.leftSize == 1 then return (f.lastLeft, patience)
        if leastPatience ≤ fromLeft || leastPatience ≤ fromRight then frontByStrides less fuel f patience
        else frontByItems less fuel f 0 0 (patience + 1)

end

/-- Two runs, of which so many items of each are left, and the items behind them that have been merged. -/
structure Rear (α : Type) where
  left : Array α
  leftSize : Nat
  right : Array α
  rightSize : Nat
  merged : List α
  deriving Inhabited

namespace Rear

def left? (r : Rear α) (k : Nat) : Option α := r.left[k]?

def right? (r : Rear α) (k : Nat) : Option α := r.right[k]?

def leftRest (r : Rear α) : Array α := r.left.take r.leftSize

def rightRest (r : Rear α) : Array α := r.right.take r.rightSize

def whole (r : Rear α) : Array α := r.leftRest ++ r.rightRest ++ r.merged.toArray

def takeLeft (r : Rear α) (n : Nat) : Rear α :=
  { r with merged := (r.left.extract (r.leftSize - n) r.leftSize).toList ++ r.merged, leftSize := r.leftSize - n }

def takeRight (r : Rear α) (n : Nat) : Rear α :=
  { r with merged := (r.right.extract (r.rightSize - n) r.rightSize).toList ++ r.merged, rightSize := r.rightSize - n }

/-- What is left is in order but for the only item of the right run, which comes first. -/
def firstRight (r : Rear α) : Array α := r.rightRest ++ r.leftRest ++ r.merged.toArray

end Rear

mutual

/-- Merges item by item from the rear, until one run has won often enough. -/
def rearByItems (less : α → α → Run Bool) : Nat → Rear α → Nat → Nat → Nat → Attempt α (Array α × Nat)
  | 0, r, _, _, patience => return (r.whole, patience)
  | fuel + 1, r, leftWins, rightWins, patience => do
    match r.left? (r.leftSize - 1), r.right? (r.rightSize - 1) with
    | some a, some b =>
      if ← asking (fun _ => r.whole) (less b a) then
        let r := r.takeLeft 1
        if r.leftSize == 0 then return (r.whole, patience)
        if patience ≤ leftWins + 1 then rearByStrides less fuel r (patience + 1)
        else rearByItems less fuel r (leftWins + 1) 0 patience
      else
        let r := r.takeRight 1
        if r.rightSize == 1 then return (r.firstRight, patience)
        if patience ≤ rightWins + 1 then rearByStrides less fuel r (patience + 1)
        else rearByItems less fuel r 0 (rightWins + 1) patience
    | _, _ => return (r.whole, patience)

/-- Merges by strides from the rear, while they are long. -/
def rearByStrides (less : α → α → Run Bool) : Nat → Rear α → Nat → Attempt α (Array α × Nat)
  | 0, r, patience => return (r.whole, patience)
  | fuel + 1, r, patience => do
    let patience := if 1 < patience then patience - 1 else patience
    match r.right? (r.rightSize - 1) with
    | none => return (r.whole, patience)
    | some b =>
      let size := r.leftSize
      let fromLeft := size - (← asking (fun _ => r.whole) (placeBehind less r.left? size (size - 1) b))
      let r := r.takeLeft fromLeft
      if r.leftSize == 0 then return (r.whole, patience)
      let r := r.takeRight 1
      if r.rightSize == 1 then return (r.firstRight, patience)
      match r.left? (r.leftSize - 1) with
      | none => return (r.whole, patience)
      | some a =>
        let size := r.rightSize
        let fromRight := size - (← asking (fun _ => r.whole) (placeBefore less r.right? size (size - 1) a))
        let r := r.takeRight fromRight
        if 0 < fromRight && r.rightSize == 1 then return (r.firstRight, patience)
        if r.rightSize == 0 then return (r.whole, patience)
        let r := r.takeLeft 1
        if r.leftSize == 0 then return (r.whole, patience)
        if leastPatience ≤ fromLeft || leastPatience ≤ fromRight then rearByStrides less fuel r patience
        else rearByItems less fuel r 0 0 (patience + 1)

end

/-- Merges two runs, beginning at the end of the shorter one. -/
def mergeFrom (less : α → α → Run Bool) (left right : Array α) (patience : Nat) : Attempt α (Array α × Nat) := do
  let fuel := left.size + right.size + 1
  if left.size ≤ right.size then
    let f : Front α := (Front.mk left 0 right 0 #[]).takeRight 1
    if f.rightSize == 0 then return (f.whole, patience)
    if f.leftSize == 1 then return (f.lastLeft, patience)
    frontByItems less fuel f 0 0 patience
  else
    let r : Rear α := (Rear.mk left left.size right right.size []).takeLeft 1
    if r.leftSize == 0 then return (r.whole, patience)
    if r.rightSize == 1 then return (r.firstRight, patience)
    rearByItems less fuel r 0 0 patience

/-- Merges two neighbouring runs. What stands in its place at either end is left alone. -/
def mergeRuns (less : α → α → Run Bool) (left right : Array α) (patience : Nat) : Attempt α (Array α × Nat) := do
  let whole := fun (_ : Unit) => left ++ right
  match right[0]? with
  | none => return (left, patience)
  | some b =>
    let kept ← asking whole (placeBehind less (left[·]?) left.size 0 b)
    match (left.drop kept).back? with
    | none => return (whole (), patience)
    | some a =>
      let moved ← asking whole (placeBefore less (right[·]?) right.size (right.size - 1) a)
      if moved == 0 then return (whole (), patience)
      let (merged, patience) ← inside (fun part => left.take kept ++ part ++ right.drop moved)
        (mergeFrom less (left.drop kept) (right.take moved) patience)
      return (left.take kept ++ merged ++ right.drop moved, patience)

/-- The number of items in front that stand in order, or each before the one in front of it; `falling` says which. -/
def runLength (less : α → α → Run Bool) (falling : Bool) (items : Array α) : Nat → Nat → Run Nat
  | 0, n => return n
  | fuel + 1, n => do
    match items[n - 1]?, items[n]? with
    | some a, some b => if (← less b a) == falling then runLength less falling items fuel (n + 1) else return n
    | _, _ => return n

/-- Puts items one by one into the run in front of them. -/
def insertEach (less : α → α → Run Bool) : Array α → List α → Attempt α (Array α)
  | sorted, [] => return sorted
  | sorted, a :: rest => do
    let place ← asking (fun _ => sorted ++ (a :: rest).toArray)
      (halve (fun k => ofItem (sorted[k]?) fun b => return !(← less a b)) (sorted.size + 1) 0 sorted.size)
    insertEach less ((sorted.take place).push a ++ sorted.drop place) rest

/-- The least length of a run: the six highest bits of a size, and one more if any other bit is set. -/
def leastRun (size : Nat) : Nat :=
  let shift := Nat.log2 size - 5
  if size < 64 then size else size / 2 ^ shift + (if size % 2 ^ shift == 0 then 0 else 1)

/-- The run that some items begin with, made at least so long, and the items behind it. -/
def nextRun (less : α → α → Run Bool) (least : Nat) (items : Array α) : Attempt α (Array α × Array α) := do
  let whole := fun (_ : Unit) => items
  let falling ← asking whole (match items[0]?, items[1]? with
    | some a, some b => less b a
    | _, _ => return false)
  let n ← asking whole (runLength less falling items items.size (min 2 items.size))
  let run := if falling then (items.take n).reverse else items.take n
  let length := max n (min least items.size)
  let behind := items.drop length
  let run ← inside (fun part => part ++ behind) (insertEach less run ((items.take length).drop n).toList)
  return (run, behind)

/-- How deep the border between two neighbouring runs lies when all places are halved again and again. -/
def borderDepth (size : Nat) : Nat → Nat → Nat → Nat → Nat
  | 0, _, _, depth => depth
  | fuel + 1, a, b, depth =>
    if size ≤ a then borderDepth size fuel (2 * (a - size)) (2 * (b - size)) (depth + 1)
    else if size ≤ b then depth + 1
    else borderDepth size fuel (2 * a) (2 * b) (depth + 1)

/-- A run that waits to be merged, with the depth of the border behind it. -/
structure Pending (α : Type) where
  items : Array α
  depth : Nat
  deriving Inhabited

/-- The items of runs of which the last comes first. -/
def joined (runs : List (Pending α)) : Array α := runs.foldr (fun run found => found ++ run.items) #[]

/-- Merges the last runs while the border between them lies deeper than the one behind them. -/
def mergeDeeper (less : α → α → Run Bool) (depth : Nat) (behind : Array α) :
    Nat → List (Pending α) → Nat → Attempt α (List (Pending α) × Nat)
  | 0, runs, patience => return (runs, patience)
  | fuel + 1, runs, patience => do
    match runs with
    | last :: before :: rest =>
      if depth < before.depth then
        let (merged, patience) ← inside (fun part => joined rest ++ part ++ behind)
          (mergeRuns less before.items last.items patience)
        mergeDeeper less depth behind fuel (⟨merged, 0⟩ :: rest) patience
      else return (runs, patience)
    | _ => return (runs, patience)

/-- Merges all runs, of three always the middle one with the shorter of its neighbours. -/
def mergeAll (less : α → α → Run Bool) : Nat → List (Pending α) → Nat → Attempt α (Array α)
  | 0, runs, _ => return joined runs
  | fuel + 1, runs, patience => do
    match runs with
    | last :: middle :: first :: rest =>
      if first.items.size < last.items.size then
        let (merged, patience) ← inside (fun part => joined rest ++ part ++ last.items)
          (mergeRuns less first.items middle.items patience)
        mergeAll less fuel (last :: ⟨merged, 0⟩ :: rest) patience
      else
        let (merged, patience) ← inside (fun part => joined (first :: rest) ++ part)
          (mergeRuns less middle.items last.items patience)
        mergeAll less fuel (⟨merged, 0⟩ :: first :: rest) patience
    | [last, first] => return (← mergeRuns less first.items last.items patience).1
    | _ => return joined runs

/-- Finds run after run and merges those that wait. -/
def collect (less : α → α → Run Bool) (size : Nat) : Nat → List (Pending α) → Array α → Nat → Attempt α (Array α)
  | 0, runs, items, _ => return joined runs ++ items
  | fuel + 1, runs, items, patience => do
    if items.isEmpty then mergeAll less (runs.length + 1) runs patience
    else
      let (run, behind) ← inside (fun part => joined runs ++ part) (nextRun less (leastRun size) items)
      match runs with
      | [] => collect less size fuel [⟨run, 0⟩] behind patience
      | last :: before =>
        let start := before.foldl (fun n run => n + run.items.size) 0
        let a := 2 * start + last.items.size
        let depth := borderDepth size 70 a (a + last.items.size + run.size) 0
        let (runs, patience) ← mergeDeeper less depth (run ++ behind) (runs.length + 1) (last :: before) patience
        let runs := match runs with
          | last :: before => { last with depth } :: before
          | [] => []
        collect less size fuel (⟨run, 0⟩ :: runs) behind patience

/-- Sorts some items. What a comparison raises comes with the arrangement reached. -/
def sort (less : α → α → Run Bool) (items : Array α) : Run (Array α × Option Value) := do
  if items.size < 2 then return (items, none)
  match ← (collect less items.size (items.size + 1) [] items leastPatience).run with
  | .ok sorted => return (sorted, none)
  | .error (arrangement, e) => return (arrangement, some e)

end Sorting

end PhaseScript.Machine
