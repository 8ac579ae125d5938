import PhaseScript.Proofs.Machine.Chain
/-
Promises that are gathered. The promise of all items of a list is what a chain through them comes
to from the left to the right: the first item that is rejected, or a promise of a new list of the
values that the items hold, in their order.
-/
set_option autoImplicit false

namespace PhaseScript.Machine

namespace Value

/-- Whether a value is a rejected promise. -/
def isRejected : Value → Bool
  | .promise _ isRejected _ => isRejected
  | _ => false

/-- What an item stands for: what a promise has settled to, and else itself. -/
def worth : Value → Value
  | .promise _ _ payload => payload
  | v => v

/-- What is no promise, but would count as one, is no item. -/
def IsItem (heap : Array Cell) (v : Value) : Prop :=
  (∃ number isRejected payload, v = .promise number isRejected payload) ∨
    v.isThenableIn heap = false

/-- What items come to together: the first rejection among them, or what they hold. -/
def outcome (items : List Value) : Except Value (List Value) :=
  match items.find? isRejected with
  | some rejection => .error rejection
  | .none => .ok (items.map worth)

theorem outcome_cons (item : Value) (rest : List Value) :
    outcome (item :: rest) =
      if item.isRejected then .error item else (outcome rest).map (item.worth :: ·) := by
  rw [outcome, List.find?_cons]
  cases item.isRejected with
  | true => rfl
  | false =>
    rw [outcome, if_neg Bool.false_ne_true]
    cases rest.find? isRejected <;> rfl

theorem isRejected_of_outcome {items : List Value} {rejection : Value}
    (came : outcome items = .error rejection) : rejection.isRejected = true := by
  unfold outcome at came
  split at came
  · next found =>
    cases came
    exact List.find?_some found
  · cases came

end Value

open Value (outcome)

namespace Run

/-- What a step settles to: it gives the rejection itself, or a promise that is resolved with a new
list of the values. -/
def SettlesTo (step : Run Value) (w : World) : Except Value (List Value) → Prop
  | .error rejection => rejection.isRejected = true ∧ ∃ after, step w = .ok rejection after
  | .ok values => ∃ number address after,
    step w = .ok (.promise number false (.ref address)) after ∧ w.heap.size ≤ address ∧
      after.heap[address]? = some (.list values.toArray)

section Listing

variable {list address index : Nat} {items : Array Value} {name : Text} {w : World}

/-- Where the iterator of a list of some size goes on after an item was asked for. -/
def passed (list index size : Nat) : Iteration :=
  if index < size then .listFrom list (index + 1) else .finished

/-- The iterator of a list gives the item at its place, and moves on behind it or comes to its
end. -/
theorem nextAt_list (m : Interp) (cell : w.heap[list]? = some (.list items))
    (place : w.heap[address]? = some (.iterator name (.listFrom list index))) :
    nextAt m address w = .ok items[index]?
      { w with
        heap := w.heap.setIfInBounds address (.iterator name (passed list index items.size)) } := by
  have advanced : advance m (.listFrom list index) w =
      .ok (items[index]?.map fun v => (v, .listFrom list (index + 1))) w := by
    simp only [advance, bind, EStateM.bind, cellAt_eq cell]
    rfl
  simp only [nextAt, nextOfIterator, bind, EStateM.bind, cellAt_eq place, advanced]
  by_cases inside : index < items.size
  · rw [Array.getElem?_eq_getElem inside, passed, if_pos inside]
    rfl
  · rw [Array.getElem?_eq_none (Nat.le_of_not_lt inside), passed, if_neg inside]
    rfl

theorem nextItem_list (depth : Nat) (cell : w.heap[list]? = some (.list items))
    (place : w.heap[address]? = some (.iterator name (.listFrom list index))) :
    ∃ after, nextItem (interp (depth + 1)) (.ref address) w = .ok items[index]? after ∧
      after.heap =
        w.heap.setIfInBounds address (.iterator name (passed list index items.size)) := by
  have next := nextAt_list (interp depth) cell place
  change ∃ after, notedNext (interp depth) address w = _ ∧ _
  rw [notedNext, bind_of_ok next]
  cases items[index]? with
  | none => exact ⟨_, rfl, rfl⟩
  | some v =>
    exact ⟨_, bind_of_ok (noteResult_eq v _), noting_heap _ v⟩

end Listing

/-- A turn ends with a rejection, and puts what any other item stands for before what is found. -/
theorem gatherStep_eq (found : List Value) (item : Value) :
    gatherStep (.ok found) item = pure
      (if item.isRejected then (.error item, true) else (.ok (item.worth :: found), false)) := by
  cases item
  case promise number isRejected payload => cases isRejected <;> rfl
  all_goals rfl

/-- To gather the items of a list from a place on takes a turn for each of them at most, and one for
the end. -/
theorem loop_gather (depth : Nat) {list address : Nat} {items : Array Value} {name : Text} :
    ∀ (fuel index : Nat) (found : List Value) (w : World), w.heap[list]? = some (.list items) →
      w.heap[address]? = some (.iterator name (.listFrom list index)) → index ≤ items.size →
      items.size < index + fuel →
      ∃ after, loop (gatherTurn (interp (depth + 1)) (.ref address)) fuel (.ok found) w =
          .ok ((outcome (items.toList.drop index)).map (·.reverse ++ found)) after ∧
        after.heap.size = w.heap.size := by
  intro fuel
  induction fuel with
  | zero => omega
  | succ fuel ih =>
    intro index found w cell place inside enough
    obtain ⟨between, next, moved⟩ := nextItem_list depth cell place
    have same : between.heap.size = w.heap.size := by rw [moved, Array.size_setIfInBounds]
    by_cases more : index < items.size
    · have split : items.toList.drop index = items[index] :: items.toList.drop (index + 1) := by
        rw [List.drop_eq_getElem_cons (by simpa using more), Array.getElem_toList]
      rw [Array.getElem?_eq_getElem more] at next
      rw [split, Value.outcome_cons]
      simp only [loop, gatherTurn, bind, EStateM.bind, next, gatherStep_eq, pure, EStateM.pure]
      by_cases rejected : items[index].isRejected = true
      · simp only [if_pos rejected]
        exact ⟨between, rfl, same⟩
      · simp only [if_neg rejected, Bool.false_eq_true, if_false]
        rw [passed, if_pos more] at moved
        have other : address ≠ list := by
          rintro rfl
          cases place.symm.trans cell
        have small : address < w.heap.size := (Array.getElem?_eq_some_iff.1 place).1
        have cell' : between.heap[list]? = some (.list items) := by
          rw [moved, Array.getElem?_setIfInBounds_ne other, cell]
        have place' : between.heap[address]? =
            some (.iterator name (.listFrom list (index + 1))) := by
          rw [moved, Array.getElem?_setIfInBounds_self_of_lt small]
        obtain ⟨after, ran, same'⟩ := ih (index + 1) (items[index].worth :: found) between cell'
          place' more (by omega)
        refine ⟨after, ran.trans ?_, same'.trans same⟩
        cases outcome (items.toList.drop (index + 1)) with
        | error rejection => rfl
        | ok values => simp [Except.map]
    · have ended : items.toList.drop index = [] := by
        rw [List.drop_eq_nil_iff, Array.length_toList]
        omega
      rw [Array.getElem?_eq_none (Nat.le_of_not_lt more)] at next
      refine ⟨between, ?_, same⟩
      rw [ended]
      simp only [loop, gatherTurn, bind, EStateM.bind, next, pure, EStateM.pure]
      rfl

/-- To gather a list settles to what its items come to together. -/
theorem settlesTo_allOf (depth : Nat) {list : Nat} {items : Array Value} {w : World}
    (cell : w.heap[list]? = some (.list items)) :
    SettlesTo (allOf (interp (depth + 1)) (.ref list)) w (outcome items.toList) := by
  have inside : list < w.heap.size := (Array.getElem?_eq_some_iff.1 cell).1
  let begun : World := { w with
    heap := w.heap.push (.iterator "list_iterator" (.listFrom list 0)) }
  have begins : iterator (.ref list) w = .ok (.ref w.heap.size) begun := by
    simp only [iterator, bind, EStateM.bind, cellAt_eq cell]
    rfl
  have cell' : begun.heap[list]? = some (.list items) := by
    rw [Array.getElem?_push_lt inside, ← cell, Array.getElem?_eq_getElem inside]
  have place : begun.heap[w.heap.size]? =
      some (.iterator "list_iterator" (.listFrom list 0)) := Array.getElem?_push_size
  have turns : turnsOf (.ref w.heap.size) begun = .ok (repeatedly + items.size) begun := by
    simp only [turnsOf, cell?, bind, EStateM.bind, cellAt_eq place, cellAt_eq cell', pure,
      EStateM.pure]
  obtain ⟨after, ran, same⟩ := loop_gather depth (repeatedly + items.size) 0 [] begun cell' place
    (Nat.zero_le _) (by rw [repeatedly]; omega)
  have gathered : foldItems (interp (depth + 1)) gatherStep (.ref w.heap.size) (.ok []) begun = _ :=
    (foldItems_gather _ _ _ ▸ bind_of_ok turns).trans ran
  rw [List.drop_zero] at gathered
  rw [allOf_eq, SettlesTo.eq_def]
  simp only [bind, EStateM.bind, begins, gathered]
  cases came : outcome items.toList with
  | error rejection => exact ⟨Value.isRejected_of_outcome came, after, rfl⟩
  | ok values =>
    simp only [Except.map, List.append_nil, List.reverse_reverse]
    refine ⟨_, after.heap.size, _, rfl, ?_, Array.getElem?_push_size⟩
    rw [same, Array.size_push]
    exact Nat.le_succ _

theorem SettlesTo.of_eq {step step' : Run Value} {w w' : World}
    {came : Except Value (List Value)} (settles : SettlesTo step' w' came)
    (same : step w = step' w') (grows : w.heap.size ≤ w'.heap.size) : SettlesTo step w came := by
  cases came with
  | error rejection => exact ⟨settles.1, same ▸ settles.2⟩
  | ok values =>
    obtain ⟨number, address, after, ran, new, cell⟩ := settles
    exact ⟨number, address, after, same.trans ran, Nat.le_trans grows new, cell⟩

theorem Value.eq_of_isRejected {v : Value} (rejected : v.isRejected = true) :
    ∃ number error, v = .promise number true error := by
  cases v
  case promise number isRejected payload =>
    cases rejected
    exact ⟨number, payload, rfl⟩
  all_goals cases rejected

/-- What a callback settles to is what its call settles to. -/
theorem SettlesTo.settle {callback : Value → Run Value} {arg : Value} {w : World}
    {came : Except Value (List Value)} (settles : SettlesTo (callback arg) w came) :
    SettlesTo (settle callback arg) w came := by
  refine settles.of_eq (settle_eq_self ?_) (Nat.le_refl _)
  cases came with
  | error rejection =>
    obtain ⟨rejected, after, ran⟩ := settles
    obtain ⟨number, error, rfl⟩ := Value.eq_of_isRejected rejected
    rw [IsSettled, ran]
    rfl
  | ok values =>
    obtain ⟨number, address, after, ran, -⟩ := settles
    rw [IsSettled, ran]
    rfl

/-- A callback that returns a new list settles to its values. -/
theorem settlesTo_newArray {callback : Value → Run Value} {arg : Value} {before between : World}
    {values : List Value} (returns : callback arg before = newArray values.toArray between)
    (grows : before.heap.size ≤ between.heap.size) :
    SettlesTo (settle callback arg) before (.ok values) := by
  let made : World := { between with heap := between.heap.push (.list values.toArray) }
  have cell : made.heap[between.heap.size]? = some (.list values.toArray) :=
    Array.getElem?_push_size
  have plain : (Value.ref between.heap.size).isThenableIn made.heap = false := by
    rw [Value.isThenableIn, cell]
    rfl
  have settled : settle callback arg before = newPromise false (.ref between.heap.size) made :=
    (settle_returned returns).trans (resolve_plain plain)
  exact ⟨_, _, _, settled, grows, cell⟩

/-- Two lists are joined to a new one. -/
theorem binary_add_lists (m : Interp) (get : Value → Value → Run Value) {one other : Nat}
    {s t : Array Value} {w : World} (first : w.heap[one]? = some (.list s))
    (second : w.heap[other]? = some (.list t)) :
    binary m get .add (.ref one) (.ref other) w = newArray (s ++ t) w := by
  have rows : joinedRows (.ref one) (.ref other) w =
      (do return some (← newArray (s ++ t)) : Run (Option Value)) w := by
    simp only [joinedRows, cell?, bind, EStateM.bind, cellAt_eq first, cellAt_eq second, pure,
      EStateM.pure]
  have passes {α : Type} {step : Run (Option α)} {next : Option α → Run Value}
      (givesNone : step w = .ok none w) : (step >>= next) w = next none w := bind_of_ok givesNone
  -- The values are no numbers, the operator none of sets, and neither value tells a time.
  refine (passes rfl).trans ?_
  refine (passes rfl).trans ?_
  refine (passes rfl).trans ?_
  exact (bind_of_ok (rows.trans rfl)).trans rfl

/-- A value put before those of a list. -/
def putBefore (m : Interp) (get : Value → Value → Run Value) (v values : Value) : Run Value := do
  binary m get .add (← newList [v]) values

/-- What follows the first item of a chain that gathers: the rest is gathered, and then a value is
put before what comes of it. -/
def gatherBehind (m : Interp) (get : Value → Value → Run Value) (rest v : Value) : Run Value := do
  chain (some (putBefore m get v)) none (← allOf m rest)

/-- A chain that gathers an item and the rest of a list. -/
def gatherInTurn (m : Interp) (get : Value → Value → Run Value) (item rest : Value) :
    Run Value := do
  chain (some (gatherBehind m get rest)) none (← resolve item)

theorem settlesTo_gatherBehind (depth : Nat) (get : Value → Value → Run Value) (v : Value)
    {rest : Nat} {items : Array Value} {w : World} (cell : w.heap[rest]? = some (.list items)) :
    SettlesTo (gatherBehind (interp (depth + 1)) get (.ref rest) v) w
      ((outcome items.toList).map (v :: ·)) := by
  have gathers := settlesTo_allOf depth cell
  cases came : outcome items.toList with
  | error rejection =>
    rw [came] at gathers
    obtain ⟨rejected, after, ran⟩ := gathers
    obtain ⟨number, error, rfl⟩ := Value.eq_of_isRejected rejected
    exact ⟨rejected, after, bind_of_ok ran⟩
  | ok values =>
    rw [came] at gathers
    obtain ⟨number, address, after, ran, new, found⟩ := gathers
    have inside : address < after.heap.size := (Array.getElem?_eq_some_iff.1 found).1
    let single : World := { after with heap := after.heap.push (.list #[v]) }
    have found' : single.heap[address]? = some (.list values.toArray) := by
      rw [Array.getElem?_push_lt inside, ← found, Array.getElem?_eq_getElem inside]
    have joined : putBefore (interp (depth + 1)) get v (.ref address) after =
        newArray (v :: values).toArray single := by
      have added := binary_add_lists (interp (depth + 1)) get Array.getElem?_push_size found'
      rw [List.append_toArray, List.singleton_append] at added
      exact added
    have behind : gatherBehind (interp (depth + 1)) get (.ref rest) v w =
        settle (putBefore (interp (depth + 1)) get v) (.ref address) after := bind_of_ok ran
    refine (settlesTo_newArray joined ?_).of_eq behind (by omega)
    rw [Array.size_push]
    exact Nat.le_succ _

/-- A chain through an item and the rest settles to what they come to together. -/
theorem settlesTo_gatherInTurn (depth : Nat) (get : Value → Value → Run Value) {item : Value}
    {rest : Nat} {items : Array Value} {w : World} (isItem : item.IsItem w.heap)
    (cell : w.heap[rest]? = some (.list items)) :
    SettlesTo (gatherInTurn (interp (depth + 1)) get item (.ref rest)) w
      (outcome (item :: items.toList)) := by
  have goesOn {promise : Value} {between : World}
      (resolved : resolve item w = .ok promise between) :
      gatherInTurn (interp (depth + 1)) get item (.ref rest) w =
        chain (some (gatherBehind (interp (depth + 1)) get (.ref rest))) none promise between :=
    bind_of_ok resolved
  rw [Value.outcome_cons]
  obtain ⟨number, isRejected, payload, rfl⟩ | plain := isItem
  · have resolved := goesOn (resolve_promise number isRejected payload w)
    cases isRejected with
    | true => exact ⟨rfl, w, resolved⟩
    | false =>
      exact (settlesTo_gatherBehind depth get payload cell).settle.of_eq resolved (Nat.le_refl _)
  · have notRejected : item.isRejected = false := by
      cases item
      case promise => cases plain
      all_goals rfl
    have self : item.worth = item := by
      cases item
      case promise => cases plain
      all_goals rfl
    rw [if_neg (Bool.eq_false_iff.mp notRejected), self]
    let made : World := { w with promises := w.promises + 1 }
    have behind := settlesTo_gatherBehind depth get item (w := made) cell
    exact behind.settle.of_eq (goesOn (resolve_plain plain)) (Nat.le_refl _)

/-- To gather no items comes to an empty list, and to gather an item and others settles like the
chain that goes on from the item to all others and puts what it stands for before them. So of a
list the very first item that is rejected comes back, and without one a promise of a new list of
what the items stand for, in their order. -/
theorem allOf_chains (depth : Nat) (get : Value → Value → Run Value) {list : Nat}
    {items : List Value} {w : World} (cell : w.heap[list]? = some (.list items.toArray))
    (areItems : ∀ item ∈ items, item.IsItem w.heap) :
    let all := allOf (interp (depth + 1)) (.ref list)
    (items = [] → SettlesTo all w (.ok [])) ∧
    (∀ item others rest, items = item :: others →
      w.heap[rest]? = some (.list others.toArray) →
      ∃ came, SettlesTo all w came ∧
        SettlesTo (gatherInTurn (interp (depth + 1)) get item (.ref rest)) w came) ∧
    (∀ before rejection behind, items = before ++ rejection :: behind →
      (∀ item ∈ before, item.isRejected = false) → rejection.isRejected = true →
      ∃ after, all w = .ok rejection after) ∧
    ((∀ item ∈ items, item.isRejected = false) →
      ∃ number address after, all w = .ok (.promise number false (.ref address)) after ∧
        w.heap.size ≤ address ∧
        after.heap[address]? = some (.list (items.map Value.worth).toArray)) := by
  intro all
  have gathers : SettlesTo all w (outcome items) := settlesTo_allOf depth cell
  refine ⟨?empty, ?chain, ?first, ?values⟩
  case empty =>
    rintro rfl
    exact gathers
  case chain =>
    rintro item others rest rfl cell'
    exact ⟨_, gathers, settlesTo_gatherInTurn depth get (areItems item List.mem_cons_self) cell'⟩
  case first =>
    rintro before rejection behind rfl none rejected
    have found : (before ++ rejection :: behind).find? Value.isRejected = some rejection := by
      rw [List.find?_append, List.find?_eq_none.mpr fun item among => by simp [none item among],
        List.find?_cons_of_pos rejected]
      rfl
    rw [Value.outcome, found] at gathers
    exact gathers.2
  case values =>
    intro none
    have missing : items.find? Value.isRejected = .none :=
      List.find?_eq_none.mpr fun item among => by simp [none item among]
    rw [Value.outcome, missing] at gathers
    exact gathers

/-- A resolved promise and a number are gathered. -/
theorem allOf_chains_pair :
    let w : World := { (default : World) with
      heap := #[.list #[.promise 0 false (.int 1), .int 2], .list #[.int 2]] }
    (∃ came, SettlesTo (allOf (interp 1) (.ref 0)) w came ∧
      SettlesTo (gatherInTurn (interp 1) (fun v _ => pure v) (.promise 0 false (.int 1)) (.ref 1)) w
        came) ∧
    ∃ number address after,
      allOf (interp 1) (.ref 0) w = .ok (.promise number false (.ref address)) after ∧
        after.heap[address]? = some (.list #[.int 1, .int 2]) := by
  intro w
  have cell : w.heap[0]? = some (.list [.promise 0 false (.int 1), .int 2].toArray) := rfl
  have areItems :
      ∀ item ∈ ([.promise 0 false (.int 1), .int 2] : List Value), item.IsItem w.heap := by
    rintro item (_ | ⟨_, _ | ⟨_, ⟨⟩⟩⟩)
    · exact .inl ⟨_, _, _, rfl⟩
    · exact .inr rfl
  obtain ⟨-, chains, -, values⟩ := allOf_chains 0 (fun v _ => pure v) cell areItems
  obtain ⟨number, address, after, ran, -, found⟩ := values (by simp [Value.isRejected])
  exact ⟨chains _ _ 1 rfl rfl, number, address, after, ran, found⟩

end Run

end PhaseScript.Machine
