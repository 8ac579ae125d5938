import PhaseScript.Machine.Snapshot
import PhaseScript.Proofs.Datum.JsonText
import PhaseScript.Proofs.Json.Finite
/-
What a script is given of a JSON value, and what it shows of itself. Each array and object gets a
cell of its own behind those of its parts, so as long as these cells stay as they were made the
value shows itself as it came, but for the marks of numbers that are none.
-/
set_option autoImplicit false

namespace PhaseScript

theorem Binary64.marked_not_finite (x : Binary64) (mark : Nat) :
    (x.marked mark).isFinite = false := by
  have small : mark % 2 ^ 51 < 2 ^ 51 := Nat.mod_lt _ (by norm_num)
  rw [isFinite, marked, exponentField, ofParts, bne_eq_false_iff_eq, UInt64.toNat_ofNat']
  split <;> omega

namespace Machine

open Json (nesting nestingAll nestingMembers finite finiteAll finiteMembers)

theorem toDatum_list {heap : Array Cell} {address : Nat} {items : Array Value}
    (cell : heap[address]? = some (.list items)) {path : List Nat} (outside : address ∉ path)
    (fuel : Nat) :
    (Value.ref address).toDatum heap (fuel + 1) path =
      .list (items.toList.map (Value.toDatum heap fuel (address :: path))) := by
  simp only [Value.toDatum, cell, Option.getD_some, List.contains_eq_mem, outside, decide_false,
    Bool.false_eq_true, if_false, Cell.isWatched, if_true]

theorem toDatum_dict {heap : Array Cell} {address : Nat} {entries : Array (Value × Value)}
    {isExports : Bool} (cell : heap[address]? = some (.dict entries isExports)) {path : List Nat}
    (outside : address ∉ path) (fuel : Nat) :
    (Value.ref address).toDatum heap (fuel + 1) path =
      .dict (entries.toList.map fun e => (Value.toDatum heap fuel (address :: path) e.1,
        Value.toDatum heap fuel (address :: path) e.2)) := by
  simp only [Value.toDatum, cell, Option.getD_some, List.contains_eq_mem, outside, decide_false,
    Bool.false_eq_true, if_false, Cell.isWatched, if_true]

/-- The cells of a part of one heap are the same in another. -/
def Keeps (low high : Nat) (heap now : Array Cell) : Prop :=
  ∀ a, low ≤ a → a < high → now[a]? = heap[a]?

theorem Keeps.mono {low low' high high' : Nat} {heap now : Array Cell}
    (keeps : Keeps low high heap now) (above : low ≤ low') (below : high' ≤ high) :
    Keeps low' high' heap now :=
  fun a start stop => keeps a (above.trans start) (stop.trans_le below)

theorem Keeps.trans {low high : Nat} {first second third : Array Cell}
    (keeps : Keeps low high first second) (keeps' : Keeps low high second third) :
    Keeps low high first third :=
  fun a start stop => (keeps' a start stop).trans (keeps a start stop)

theorem keeps_push (heap : Array Cell) (cell : Cell) : Keeps 0 heap.size heap (heap.push cell) := by
  intro a _ inside
  rw [Array.getElem?_push_lt inside, Array.getElem?_eq_getElem inside]

/-- Whether two values are the same scalar or have the same cell. -/
def Value.sameData : Value → Value → Bool
  | .none, .none => true
  | .bool a, .bool b => a == b
  | .int a, .int b => a == b
  | .float a, .float b => a == b
  | .text a, .text b => a == b
  | .ref a, .ref b => a == b
  | _, _ => false

theorem Value.eq_of_sameData {a b : Value} (same : a.sameData b = true) : a = b := by
  unfold sameData at same
  split at same
  · rfl
  · rw [beq_iff_eq.mp same]
  · rw [beq_iff_eq.mp same]
  · rw [beq_iff_eq.mp same]
  · rw [beq_iff_eq.mp same]
  · rw [beq_iff_eq.mp same]
  · cases same

/-- Whether lists are the same item by item. -/
def sameInTurn {α : Type} (same : α → α → Bool) : List α → List α → Bool
  | [], [] => true
  | a :: as, b :: bs => same a b && sameInTurn same as bs
  | _, _ => false

theorem eq_of_sameInTurn {α : Type} {same : α → α → Bool}
    (eq_of_same : ∀ {a b}, same a b = true → a = b) :
    ∀ {as bs : List α}, sameInTurn same as bs = true → as = bs
  | [], [], _ => rfl
  | a :: as, b :: bs, found => by
    rw [sameInTurn, Bool.and_eq_true] at found
    rw [eq_of_same found.1, eq_of_sameInTurn eq_of_same found.2]
  | [], _ :: _, found => nomatch found
  | _ :: _, [], found => nomatch found

/-- Whether two cells are lists or dicts of the same data. -/
def Cell.sameData : Cell → Cell → Bool
  | .list as, .list bs => sameInTurn Value.sameData as.toList bs.toList
  | .dict as isExports, .dict bs isExports' =>
    isExports == isExports' &&
      sameInTurn (fun a b => a.1.sameData b.1 && a.2.sameData b.2) as.toList bs.toList
  | _, _ => false

theorem Cell.eq_of_sameData {a b : Cell} (same : a.sameData b = true) : a = b := by
  unfold sameData at same
  split at same
  · rw [Array.toList_inj.mp (eq_of_sameInTurn Value.eq_of_sameData same)]
  · rw [Bool.and_eq_true, beq_iff_eq] at same
    have entries := eq_of_sameInTurn (fun {a b} found => by
      rw [Bool.and_eq_true] at found
      exact Prod.ext (Value.eq_of_sameData found.1) (Value.eq_of_sameData found.2)) same.2
    rw [same.1, Array.toList_inj.mp entries]
  · cases same

/-- Whether the cells of a part of a heap, all lists and dicts, are the same in another. -/
def keepsData (low high : Nat) (heap now : Array Cell) : Bool :=
  (List.range high).all fun a => decide (a < low) ||
    match now[a]?, heap[a]? with
    | some here, some there => here.sameData there
    | _, _ => false

theorem keeps_of_keepsData {low high : Nat} {heap now : Array Cell}
    (kept : keepsData low high heap now = true) : Keeps low high heap now := by
  intro a start stop
  have here := List.all_eq_true.mp kept a (List.mem_range.mpr stop)
  rw [decide_eq_false (Nat.not_lt.mpr start), Bool.false_or] at here
  split at here
  · next isHere isThere => rw [isHere, isThere, Cell.eq_of_sameData here]
  · cases here

/-- How a value shows itself as long as a part of the heap is kept, whatever containers from behind
that part are around: as a JSON value, but for numbers that are not finite. -/
def Pictures (v : Json) (value : Value) (low high : Nat) (heap : Array Cell) : Prop :=
  ∀ {now path fuel}, Keeps low high heap now → (∀ a ∈ path, high ≤ a) → nesting v < fuel →
    ∃ shown, value.toDatum now fuel path = .ofJson shown ∧ finite shown = finite v

def PicturesAll (items : List Json) (values : List Value) (low high : Nat) (heap : Array Cell) :
    Prop :=
  ∀ {now path fuel}, Keeps low high heap now → (∀ a ∈ path, high ≤ a) → nestingAll items < fuel →
    ∃ shown, values.map (Value.toDatum now fuel path) = Datum.ofJsonItems shown ∧
      finiteAll shown = finiteAll items

def PicturesMembers (members : List (Text × Json)) (entries : List (Value × Value))
    (low high : Nat) (heap : Array Cell) : Prop :=
  ∀ {now path fuel}, Keeps low high heap now → (∀ a ∈ path, high ≤ a) →
    nestingMembers members < fuel →
    ∃ shown, (entries.map fun e => (e.1.toDatum now fuel path, e.2.toDatum now fuel path)) =
        Datum.ofJsonMembers shown ∧ finiteMembers shown = finiteMembers members

/-- What a step comes to that only adds cells. -/
def Adds {α : Type} (step : Run α) (gives : α → Nat → Nat → Array Cell → Prop) : Prop :=
  ∀ before : World, ∃ a after, step before = .ok a after ∧
    before.heap.size ≤ after.heap.size ∧ Keeps 0 before.heap.size before.heap after.heap ∧
    gives a before.heap.size after.heap.size after.heap

/-- A value without parts shows itself as it is. -/
theorem pictures_plain {v shown : Json} {value : Value} (low high : Nat) (heap : Array Cell)
    (same : finite shown = finite v)
    (plain : ∀ now fuel path, value.toDatum now (fuel + 1) path = .ofJson shown) :
    Pictures v value low high heap := by
  intro now path fuel _ _ deep
  obtain ⟨fuel, rfl⟩ := Nat.exists_eq_succ_of_ne_zero (Nat.ne_zero_of_lt deep)
  exact ⟨shown, plain now fuel path, same⟩

/-- A part of a heap that has grown since is kept if the whole is. -/
theorem Keeps.split {low middle high : Nat} {heap between now : Array Cell}
    (keeps : Keeps low high heap now) (grown : Keeps 0 middle between heap) (inside : middle ≤ high)
    : Keeps low middle between now :=
  (grown.mono (Nat.zero_le _) le_rfl).trans (keeps.mono le_rfl inside)

theorem PicturesAll.cons {item : Json} {items : List Json} {value : Value} {values : List Value}
    {low middle high : Nat} {between heap : Array Cell}
    (first : Pictures item value low middle between)
    (others : PicturesAll items values middle high heap) (grown : Keeps 0 middle between heap)
    (start : low ≤ middle) (inside : middle ≤ high) :
    PicturesAll (item :: items) (value :: values) low high heap := by
  intro now path fuel keeps around deep
  rw [nestingAll] at deep
  obtain ⟨shown, is_, same⟩ := first (keeps.split grown inside)
    (fun a among => inside.trans (around a among)) ((le_max_left _ _).trans_lt deep)
  obtain ⟨shownAll, are, sameAll⟩ := others (keeps.mono start le_rfl) around
    ((le_max_right _ _).trans_lt deep)
  refine ⟨shown :: shownAll, ?_, ?_⟩
  · rw [List.map_cons, is_, are, Datum.ofJsonItems]
  · rw [finiteAll, finiteAll, same, sameAll]

theorem PicturesMembers.cons {name : Text} {v : Json} {members : List (Text × Json)} {value : Value}
    {entries : List (Value × Value)} {low middle high : Nat} {between heap : Array Cell}
    (first : Pictures v value low middle between)
    (others : PicturesMembers members entries middle high heap)
    (grown : Keeps 0 middle between heap) (start : low ≤ middle) (inside : middle ≤ high) :
    PicturesMembers ((name, v) :: members) ((.text name, value) :: entries) low high heap := by
  intro now path fuel keeps around deep
  rw [nestingMembers] at deep
  obtain ⟨shown, is_, same⟩ := first (keeps.split grown inside)
    (fun a among => inside.trans (around a among)) ((le_max_left _ _).trans_lt deep)
  obtain ⟨shownAll, are, sameAll⟩ := others (keeps.mono start le_rfl) around
    ((le_max_right _ _).trans_lt deep)
  obtain ⟨fuel, rfl⟩ := Nat.exists_eq_succ_of_ne_zero (Nat.ne_zero_of_lt deep)
  refine ⟨(name, shown) :: shownAll, ?_, ?_⟩
  · rw [List.map_cons, is_, are, Datum.ofJsonMembers]
    rfl
  · rw [finiteMembers, finiteMembers, same, sameAll]

/-- A container whose cell is new, seen from inside. -/
theorem Keeps.container {low : Nat} {heap now : Array Cell} {cell : Cell} {path : List Nat}
    (keeps : Keeps low (heap.size + 1) (heap.push cell) now)
    (around : ∀ a ∈ path, heap.size + 1 ≤ a) (start : low ≤ heap.size) :
    now[heap.size]? = some cell ∧ heap.size ∉ path ∧ Keeps low heap.size heap now ∧
      ∀ a ∈ heap.size :: path, heap.size ≤ a := by
  refine ⟨?_, fun among => Nat.not_succ_le_self _ (around _ among),
    keeps.split (keeps_push heap _) (Nat.le_succ _), fun a among => ?_⟩
  · exact (keeps _ start (Nat.lt_succ_self _)).trans Array.getElem?_push_size
  · rcases List.mem_cons.mp among with rfl | among
    · exact le_rfl
    · exact (Nat.le_succ _).trans (around a among)

/-- A list in a cell behind those of its items. -/
theorem PicturesAll.array {items : List Json} {values : List Value} {low : Nat}
    {heap : Array Cell} (inside : PicturesAll items values low heap.size heap)
    (start : low ≤ heap.size) :
    Pictures (.array items) (.ref heap.size) low (heap.size + 1)
      (heap.push (.list values.toArray)) := by
  intro now path fuel keeps around deep
  rw [nesting] at deep
  obtain ⟨fuel, rfl⟩ := Nat.exists_eq_succ_of_ne_zero (Nat.ne_zero_of_lt deep)
  obtain ⟨cell, outside, kept, behind⟩ := keeps.container around start
  obtain ⟨shown, are, same⟩ := inside kept behind (Nat.lt_of_succ_lt_succ deep)
  refine ⟨.array shown, ?_, ?_⟩
  · rw [toDatum_list cell outside, List.toList_toArray, are, Datum.ofJson]
  · rw [finite, finite, same]

/-- A dict in a cell behind those of its values. -/
theorem PicturesMembers.object {members : List (Text × Json)} {entries : List (Value × Value)}
    {low : Nat} {heap : Array Cell} (inside : PicturesMembers members entries low heap.size heap)
    (start : low ≤ heap.size) :
    Pictures (.object members) (.ref heap.size) low (heap.size + 1)
      (heap.push (.dict entries.toArray false)) := by
  intro now path fuel keeps around deep
  rw [nesting] at deep
  obtain ⟨fuel, rfl⟩ := Nat.exists_eq_succ_of_ne_zero (Nat.ne_zero_of_lt deep)
  obtain ⟨cell, outside, kept, behind⟩ := keeps.container around start
  obtain ⟨shown, are, same⟩ := inside kept behind (Nat.lt_of_succ_lt_succ deep)
  refine ⟨.object shown, ?_, ?_⟩
  · rw [toDatum_dict cell outside, List.toList_toArray, are, Datum.ofJson]
  · rw [finite, finite, same]

namespace Run

theorem adds_pure {α : Type} {a : α} {gives : α → Nat → Nat → Array Cell → Prop}
    (given : ∀ low heap, gives a low low heap) : Adds (pure a) gives :=
  fun before => ⟨a, before, rfl, le_rfl, fun _ _ _ => rfl, given _ _⟩

theorem adds_float (x : Binary64) : Adds (fresh (.float x)) (Pictures (.float x)) := by
  intro before
  cases isNaN : x.isNaN with
  | false =>
    refine ⟨.float x, before, ?_, le_rfl, fun _ _ _ => rfl,
      pictures_plain _ _ _ rfl fun _ _ _ => rfl⟩
    simp only [fresh, isNaN, Bool.false_eq_true, if_false, pure, EStateM.pure]
  | true =>
    have notFinite : x.isFinite = false := by
      simp only [Binary64.isNaN, Bool.and_eq_true, beq_iff_eq] at isNaN
      rw [Binary64.isFinite, isNaN.1]
      rfl
    have same : finite (.float (x.marked (before.marks + 1))) = finite (.float x) := by
      simp only [finite, Binary64.marked_not_finite, notFinite, Bool.false_eq_true, if_false]
    refine ⟨.float (x.marked (before.marks + 1)), { before with marks := before.marks + 1 }, ?_,
      le_rfl, fun _ _ _ => rfl, pictures_plain _ _ _ same fun _ _ _ => rfl⟩
    simp only [fresh, isNaN, if_true, newNumber, newMark, bind, EStateM.bind, pure, EStateM.pure]

mutual

/-- A JSON value shows itself as it came. The cells of its parts come before its own, so what is
kept of the heap behind it is kept of them. -/
theorem adds_ofJson : (v : Json) → Adds (ofDatum (.ofJson v)) (Pictures v)
  | .null => adds_pure fun _ _ => pictures_plain _ _ _ rfl fun _ _ _ => rfl
  | .bool _ => adds_pure fun _ _ => pictures_plain _ _ _ rfl fun _ _ _ => rfl
  | .int _ => adds_pure fun _ _ => pictures_plain _ _ _ rfl fun _ _ _ => rfl
  | .string _ => adds_pure fun _ _ => pictures_plain _ _ _ rfl fun _ _ _ => rfl
  | .float x => adds_float x
  | .array items => fun before => by
    obtain ⟨values, after, ran, grows, kept, inside⟩ := adds_ofJsonItems items before
    refine ⟨.ref after.heap.size, { after with heap := after.heap.push (.list values.toArray) }, ?_,
      ?_, kept.trans ((keeps_push _ _).mono le_rfl grows), ?_⟩
    · simp only [Datum.ofJson, ofDatum, bind, EStateM.bind, ran, newList, alloc]
    · rw [Array.size_push]
      exact grows.trans (Nat.le_succ _)
    · rw [Array.size_push]
      exact inside.array grows
  | .object members => fun before => by
    obtain ⟨entries, after, ran, grows, kept, inside⟩ := adds_ofJsonMembers members before
    refine ⟨.ref after.heap.size,
      { after with heap := after.heap.push (.dict entries.toArray false) }, ?_,
      ?_, kept.trans ((keeps_push _ _).mono le_rfl grows), ?_⟩
    · simp only [Datum.ofJson, ofDatum, bind, EStateM.bind, ran, newDict, alloc]
    · rw [Array.size_push]
      exact grows.trans (Nat.le_succ _)
    · rw [Array.size_push]
      exact inside.object grows

theorem adds_ofJsonItems : (items : List Json) →
    Adds (ofData (Datum.ofJsonItems items)) (PicturesAll items)
  | [] => adds_pure fun _ _ => fun _ _ _ => ⟨[], rfl, rfl⟩
  | item :: items => fun before => by
    obtain ⟨value, between, ran, grows, kept, shown⟩ := adds_ofJson item before
    obtain ⟨values, after, ran', grows', kept', shown'⟩ := adds_ofJsonItems items between
    refine ⟨value :: values, after, ?_, grows.trans grows',
      kept.trans (kept'.mono le_rfl grows), PicturesAll.cons shown shown' kept' grows grows'⟩
    simp only [Datum.ofJsonItems, ofData, bind, EStateM.bind, ran, ran', pure, EStateM.pure]

theorem adds_ofJsonMembers : (members : List (Text × Json)) →
    Adds (ofEntries (Datum.ofJsonMembers members)) (PicturesMembers members)
  | [] => adds_pure fun _ _ => fun _ _ _ => ⟨[], rfl, rfl⟩
  | (name, v) :: members => fun before => by
    obtain ⟨value, between, ran, grows, kept, shown⟩ := adds_ofJson v before
    obtain ⟨entries, after, ran', grows', kept', shown'⟩ := adds_ofJsonMembers members between
    refine ⟨(.text name, value) :: entries, after, ?_, grows.trans grows',
      kept.trans (kept'.mono le_rfl grows), ?_⟩
    · simp only [Datum.ofJsonMembers, ofEntries, ofDatum, bind, EStateM.bind, ran, ran', pure,
        EStateM.pure]
    · exact PicturesMembers.cons shown shown' kept' grows grows'

end

end Run

end Machine

end PhaseScript
