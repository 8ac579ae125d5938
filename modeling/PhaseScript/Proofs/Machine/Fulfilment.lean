import PhaseScript.Proofs.Machine.Gathering
import PhaseScript.Proofs.Machine.Plain
import PhaseScript.Machine.Handlers
/-
No promise is resolved with a promise. However the functions for promises, fetching and responses
are put together, a resolved promise that they make holds a value that counts as none, so that what
a handler's result stands for is reached in one step.
-/
set_option autoImplicit false

namespace PhaseScript.Machine

/-- A value in which no resolved promise holds what counts as a promise: a plain value, or a promise
that holds a plain value if it is resolved, and a value of this kind if it is rejected. -/
inductive Value.IsFlat (heap : Array Cell) : Value → Prop
  | plain {v : Value} (plain : v.IsPlain heap) : IsFlat heap v
  | resolved {number : Nat} {payload : Value} (plain : payload.IsPlain heap) :
      IsFlat heap (.promise number false payload)
  | rejected {number : Nat} {payload : Value} (flat : IsFlat heap payload) :
      IsFlat heap (.promise number true payload)

namespace Value.IsFlat

variable {heap heap' : Array Cell} {v payload : Value} {number : Nat}

theorem mono (keeps : KeepsPlain heap heap') (flat : v.IsFlat heap) : v.IsFlat heap' := by
  induction flat with
  | plain plain => exact .plain (keeps _ plain)
  | resolved plain => exact .resolved (keeps _ plain)
  | rejected flat ih => exact .rejected ih

/-- A promise is not plain, so if it is flat it is so by what it holds. -/
theorem resolved_payload (flat : (Value.promise number false payload).IsFlat heap) :
    payload.IsPlain heap := by
  cases flat with
  | plain plain => cases plain.now
  | resolved plain => exact plain

theorem payload_flat {isRejected : Bool}
    (flat : (Value.promise number isRejected payload).IsFlat heap) : payload.IsFlat heap := by
  cases flat with
  | plain plain => cases plain.now
  | resolved plain => exact .plain plain
  | rejected flat => exact flat

theorem plain_of_not_thenable (flat : v.IsFlat heap) (notThenable : v.isThenableIn heap = false) :
    v.IsPlain heap := by
  cases flat with
  | plain plain => exact plain
  | resolved | rejected => cases notThenable

end Value.IsFlat

namespace Run

variable {before : World}

/-- What a step gives is flat. -/
abbrev Flat (v : Value) (after : World) : Prop := v.IsFlat after.heap

theorem tame_newResolved {payload : Value} (plain : payload.IsPlain before.heap) :
    Tame (newPromise false payload) Flat before :=
  .of_ok rfl (KeepsPlain.refl _) (.resolved plain)

theorem tame_newRejected {payload : Value} (flat : payload.IsFlat before.heap) :
    Tame (newPromise true payload) Flat before :=
  .of_ok rfl (KeepsPlain.refl _) (.rejected flat)

theorem tame_resolve {v : Value} (flat : v.IsFlat before.heap) : Tame (resolve v) Flat before := by
  cases thenable : v.isThenableIn before.heap with
  | true => exact .of_ok (resolve_thenable thenable) (KeepsPlain.refl _) flat
  | false =>
    have plain := flat.plain_of_not_thenable thenable
    exact .of_eq (resolve_plain thenable) rfl (tame_newResolved plain)

/-- A callback that gives what is flat, and raises what is plain, settles so. -/
theorem tame_settle {callback : Value → Run Value} {arg : Value}
    (tame : Tame (callback arg) Flat before) : Tame (settle callback arg) Flat before := by
  refine tame.catching.bind fun outcome between _ given => ?_
  cases outcome with
  | ok v => exact tame_resolve given
  | error error =>
    have asked : Tame (isError error) (fun _ after => after.heap = between.heap) between :=
      .of_ok (isError_eq error between) (KeepsPlain.refl _) rfl
    refine asked.bind fun isError after _ same => ?_
    have plain : error.IsPlain after.heap := same ▸ given
    cases isError with
    | true => exact tame_newRejected (.plain plain)
    | false => exact tame_raiseValue plain

/-- A link gives the promise itself, or what its callback settles to. -/
theorem tame_linked {m : Interp} {link : Link} {number : Nat} {isRejected : Bool} {payload : Value}
    (flat : (Value.promise number isRejected payload).IsFlat before.heap)
    (tame : ∀ f, link.callback? isRejected = some f → Tame (m.apply f [payload]) Flat before) :
    Tame (linked m link number isRejected payload) Flat before := by
  unfold linked
  split
  · next f handed => exact tame_settle (tame f handed)
  · exact .pure flat

/-- What is done with each item in turn, from one state that fits to another. -/
theorem tame_loop {σ α : Type} {step : σ → Run (Except σ α)} {gives : α → World → Prop}
    (fits : σ → World → Prop)
    (turn : ∀ s w, fits s w → Tame (step s) (fun made after => match made with
      | .error s => fits s after
      | .ok a => gives a after) w) :
    ∀ fuel s w, fits s w → Tame (loop step fuel s) gives w := by
  intro fuel
  induction fuel with
  | zero => exact fun s w _ => ⟨nofun, nofun⟩
  | succ fuel ih =>
    intro s w start
    refine (turn s w start).bind fun made after _ given => ?_
    cases made with
    | error s => exact ih s after given
    | ok a => exact .pure given

/-- An iteration goes from one state of its own to another, and gives items as told. -/
structure Iterates (m : Interp) (it : Value) (gives : Value → World → Prop)
    (turns : World → Prop) : Prop where
  next : ∀ {w}, turns w → Tame (nextItem m it) (fun found after =>
    turns after ∧ ∀ item, found = some item → gives item after) w

/-- What an iteration gives may be told by what has been plain since it has begun. -/
theorem Iterates.since {m : Interp} {it : Value} {gives gives' : Value → World → Prop}
    {turns : World → Prop} (iterates : Iterates m it gives turns) (begun : Array Cell)
    (weaker : ∀ item w, KeepsPlain begun w.heap → gives item w → gives' item w) :
    Iterates m it gives' (fun w => turns w ∧ KeepsPlain begun w.heap) where
  next fits := (iterates.next fits.1).mono fun _ after keeps given =>
    have keeps := fits.2.trans keeps
    ⟨⟨given.1, keeps⟩, fun item same => weaker item after keeps (given.2 item same)⟩

theorem gather_error {found : List Value} {item rejection : Value}
    (ends : gather found item = .error rejection) : rejection = item := by
  unfold gather at ends
  split at ends <;> cases ends
  rfl

/-- What ends the gathering of flat items is flat. -/
theorem tame_gathering {m : Interp} {it : Value} {turns : World → Prop}
    (iterates : Iterates m it Flat turns) (start : turns before) :
    Tame (foldItems m gatherStep it (.ok []))
      (fun gathered after => ∀ rejection, gathered = .error rejection → Flat rejection after)
      before := by
  obtain ⟨atMost, told⟩ := reads_turnsOf it before
  refine .of_eq (bind_of_ok told) rfl ?_
  refine tame_loop (fun s w => turns w ∧ ∃ found, s = .ok found) ?turn atMost _ _
    ⟨start, [], rfl⟩
  rintro _ w ⟨fits, found, rfl⟩
  refine (iterates.next fits).bind fun item after _ given => ?_
  obtain ⟨fits, flat⟩ := given
  cases item with
  | none => exact .pure nofun
  | some item =>
    have flat : Flat item after := flat item rfl
    simp only [gatherStep]
    cases gathered : gather found item with
    | error rejection =>
      refine .pure fun other same => ?_
      cases same
      exact gather_error gathered ▸ flat
    | ok more => exact .pure ⟨fits, more, rfl⟩

/-- The promise of all items, from their iterator on. -/
theorem tame_allOf {m : Interp} {items it : Value} {begun : World} {turns : World → Prop}
    (begins : iterator items before = .ok it begun) (keeps : KeepsPlain before.heap begun.heap)
    (iterates : Iterates m it Flat turns) (start : turns begun) :
    Tame (allOf m items) Flat before := by
  rw [allOf_eq]
  have begins : Tame (iterator items) (fun found after => found = it ∧ after = begun) before :=
    .of_ok begins keeps ⟨rfl, rfl⟩
  refine begins.bind fun found after _ same => ?_
  obtain ⟨rfl, rfl⟩ := same
  refine (tame_gathering iterates start).bind fun gathered after _ flat => ?_
  cases gathered with
  | error rejection => exact .pure (flat rejection rfl)
  | ok found => exact (tame_alloc_ordinary rfl).bind fun _ _ _ plain => tame_newResolved plain

/-- How far an iteration over a list has come that nothing else changes. -/
structure Listing (list address : Nat) (items : Array Value) (w : World) : Prop where
  cell : w.heap[list]? = some (.list items)
  place : ∃ name source, w.heap[address]? = some (.iterator name source) ∧
    (source = .finished ∨ ∃ index, source = .listFrom list index)

/-- The iterator moved on. -/
theorem Listing.moved {list address : Nat} {items : Array Value} {w : World} {name : Text}
    {source : Iteration} (listing : Listing list address items w)
    (fits : source = .finished ∨ ∃ index, source = .listFrom list index) :
    Listing list address items
      { w with heap := w.heap.setIfInBounds address (.iterator name source) } := by
  obtain ⟨cell, name', source', found, -⟩ := listing
  have inside : address < w.heap.size := (Array.getElem?_eq_some_iff.1 found).1
  have other : address ≠ list := by
    rintro rfl
    cases found.symm.trans cell
  refine ⟨?_, name, source, ?_, fits⟩
  · rw [Array.getElem?_setIfInBounds_ne other, cell]
  · rw [Array.getElem?_setIfInBounds_self_of_lt inside]

theorem Listing.congr {list address : Nat} {items : Array Value} {w w' : World}
    (listing : Listing list address items w) (same : w'.heap = w.heap) :
    Listing list address items w' :=
  ⟨same ▸ listing.cell, same ▸ listing.place⟩

/-- The next item of a list, which the iterator moves on behind. -/
theorem Listing.tame_nextAt {m : Interp} {list address : Nat} {items : Array Value} {w : World}
    (listing : Listing list address items w) :
    Tame (nextAt m address) (fun found after =>
      Listing list address items after ∧ ∀ item, found = some item → item ∈ items) w := by
  obtain ⟨name, source, found, rfl | ⟨index, rfl⟩⟩ := listing.place
  · have ended : nextAt m address w = .ok none
        { w with heap := w.heap.setIfInBounds address (.iterator name .finished) } := by
      simp only [nextAt, bind, EStateM.bind, cellAt_eq found]
      rfl
    exact .of_ok ended (KeepsPlain.setIterator found) ⟨listing.moved (.inl rfl), fun _ found => by cases found⟩
  · have fits : passed list index items.size = .finished ∨
        ∃ index', passed list index items.size = .listFrom list index' := by
      unfold passed
      split
      · exact .inr ⟨_, rfl⟩
      · exact .inl rfl
    exact .of_ok (nextAt_list m listing.cell found) (KeepsPlain.setIterator found)
      ⟨listing.moved fits, fun item same => Array.mem_of_getElem? same⟩

theorem iterates_list (depth list address : Nat) (items : Array Value) :
    Iterates (interp depth) (.ref address) (fun item _ => item ∈ items)
      (Listing list address items) where
  next listing := by
    cases depth with
    | zero => exact tame_raise _ _
    | succ depth =>
      refine listing.tame_nextAt.bind fun found after _ given => ?_
      obtain ⟨listing, among⟩ := given
      cases found with
      | none => exact .pure ⟨listing, among⟩
      | some item =>
        exact (tame_noteResult item).bind fun _ _ _ same => .pure ⟨listing.congr same, among⟩

/-- A list of flat values is gathered into what is flat. -/
theorem tame_allOf_list {depth list : Nat} {items : Array Value}
    (cell : before.heap[list]? = some (.list items)) (flat : ∀ v ∈ items, v.IsFlat before.heap) :
    Tame (allOf (interp depth) (.ref list)) Flat before := by
  have begins : iterator (.ref list) before =
      newIterator "list_iterator" (.listFrom list 0) before := by
    simp only [iterator, bind, EStateM.bind, cellAt_eq cell]
  have inside : list < before.heap.size := (Array.getElem?_eq_some_iff.1 cell).1
  have iterates := (iterates_list depth list before.heap.size items).since before.heap
    fun item w keeps member => (flat item member).mono keeps
  refine tame_allOf begins (KeepsPlain.push _ _) iterates ⟨⟨?_, ?_⟩, KeepsPlain.push _ _⟩
  · rw [Array.getElem?_push_lt inside, ← cell, Array.getElem?_eq_getElem inside]
  · exact ⟨_, _, Array.getElem?_push_size, .inr ⟨0, rfl⟩⟩

/-- A call of the machine above, from the call that it notes. -/
theorem tame_callAbove {depth : Nat} {f : Value} {args : List Value}
    (tame : Tame (callValue (interp depth) f args []) Flat before) :
    Tame ((interp (depth + 1)).call f args []) Flat before :=
  tame_noted (fun v heap => v.IsFlat heap) tame

theorem tame_call {depth : Nat} {f : Value} {args : List Value}
    (tame : ∀ m, Tame (callValue m f args []) Flat before) :
    Tame ((interp depth).call f args []) Flat before := by
  cases depth with
  | zero => exact tame_raise _ _
  | succ depth => exact tame_callAbove (tame _)

/-- What cannot be called gives nothing. -/
theorem tame_notCallable {depth : Nat} {f : Value} {args : List Value}
    (notCallable : f.isCallableIn before.heap = false) :
    Tame ((interp depth).apply f args) Flat before := by
  cases depth with
  | zero => exact tame_raise _ _
  | succ depth =>
    exact tame_callAbove (.of_eq (callValue_notCallable notCallable) rfl (tame_typeErrorOf _ _ _))

theorem tame_bind_freshUnmarked {step : Run Value} (tame : Tame step Flat before) :
    Tame (step >>= freshUnmarked) Flat before := by
  refine tame.bind fun v _ _ flat => (tame_freshUnmarked v).mono ?_
  rintro made after keeps (rfl | plain)
  · exact flat.mono keeps
  · exact .plain (plain _)

theorem tame_callFetch (m : Interp) (url options : Value) :
    Tame (callHost m .fetch [.one url, .one options]) Flat before := by
  refine (reads_snapshot url).tame.bind fun url _ _ _ =>
    (reads_optionsDatum options).tame.bind fun options _ _ _ =>
      (tame_sending _).bind fun outcome _ _ _ => ?_
  cases outcome with
  | ok source => exact (tame_newResponse source).bind fun _ _ _ plain => tame_newResolved plain
  | error raised =>
    exact (tame_exceptionOf raised).bind fun _ _ _ plain => tame_newRejected (.plain plain)

theorem tame_callResponseMethod (source : Http.Response) (name : Text) :
    Tame (callResponseMethod source name) Flat before := by
  unfold callResponseMethod
  split
  · exact (tame_newResponse source).mono fun _ _ _ => .plain
  split
  · exact tame_newResolved fun _ _ => rfl
  split
  · split
    · exact (tame_ofJson _ _).bind fun _ _ _ plain => tame_newResolved plain
    · refine (tame_jsonException _ _).bind fun _ _ _ plain => ?_
      split
      · exact tame_newRejected (.plain plain)
      · exact tame_raiseValue plain
  · exact (tame_exceptionOf _).bind fun _ _ _ plain => tame_newRejected (.plain plain)

end Run

open Run (interp)

/-- Gathers values that are put into a list for it. -/
def Interp.all (m : Interp) (items : List Value) : Run Value := do
  m.call (.builtin .allOf) [← Run.newList items] []

/-- The steps of a program with promises that has obtained some values: it resolves, rejects and
gathers them, hands callbacks to promises, fetches, and reads responses. -/
inductive Operation (obtained : List Value) (w : World) : Run Value → Prop
  | resolve {depth : Nat} {v : Value} (known : v ∈ obtained) :
      Operation obtained w ((interp depth).call (.builtin .resolve) [v] [])
  | reject {depth : Nat} {error : Value} (known : error ∈ obtained) :
      Operation obtained w ((interp depth).call (.builtin .reject) [error] [])
  | all {depth : Nat} {items : List Value} (known : ∀ v ∈ items, v ∈ obtained) :
      Operation obtained w ((interp depth).all items)
  /-- Values are gathered from whatever gives them one after another. -/
  | allOf {depth : Nat} {items it : Value} {begun : World} {turns : World → Prop}
      (begins : Run.iterator items w = .ok it begun) (keeps : KeepsPlain w.heap begun.heap)
      (iterates : Run.Iterates (interp depth) it
        (fun item after => item ∈ obtained ∨ item.IsPlain after.heap) turns)
      (start : turns begun) :
      Operation obtained w ((interp (depth + 1)).call (.builtin .allOf) [items] [])
  /-- A callback that can be called gives what has been obtained, what it is handed, or what is
  plain, or it raises; in doing so it makes no value count as a promise that did not. -/
  | link {depth mark number : Nat} {isRejected : Bool} {payload : Value} {link : Link}
      (known : .promise number isRejected payload ∈ obtained)
      (obliging : ∀ f, link.callback? isRejected = some f → f.isCallableIn w.heap = true →
        Tame ((interp depth).apply f [payload])
          (fun v after => v ∈ payload :: obtained ∨ v.IsPlain after.heap) w) :
      Operation obtained w
        ((interp (depth + 1)).link link mark (.promise number isRejected payload))
  | fetch {depth : Nat} {url : Value} :
      Operation obtained w ((interp depth).call (.builtin .fetch) [url] [])
  | fetchWith {depth : Nat} {url options : Value} :
      Operation obtained w ((interp depth).call (.builtin .fetch) [url, options] [])
  | response {depth mark : Nat} {source : Http.Response} {headers : Value} {name : Text}
      (known : .response source headers ∈ obtained) :
      Operation obtained w
        ((interp depth).call (.method (.response source headers) name mark) [] [])

/-- What a program has obtained that starts from some values: whatever its steps have given or
raised. -/
inductive Obtains (start : List Value) (begun : World) : List Value → World → Prop
  | start : Obtains start begun start begun
  | returned {obtained : List Value} {w after : World} {step : Run Value} {v : Value}
      (earlier : Obtains start begun obtained w) (operation : Operation obtained w step)
      (ran : step w = .ok v after) : Obtains start begun (v :: obtained) after
  | raised {obtained : List Value} {w after : World} {step : Run Value} {error : Value}
      (earlier : Obtains start begun obtained w) (operation : Operation obtained w step)
      (ran : step w = .error (.raised error) after) : Obtains start begun (error :: obtained) after

/-- Every step of a program gives what is flat, if all that it has obtained is. -/
theorem Operation.tame {obtained : List Value} {w : World} {step : Run Value}
    (operation : Operation obtained w step) (flat : ∀ v ∈ obtained, v.IsFlat w.heap) :
    Tame step Run.Flat w := by
  cases operation with
  | resolve known => exact Run.tame_call fun _ => Run.tame_resolve (flat _ known)
  | reject known => exact Run.tame_call fun _ => Run.tame_newRejected (flat _ known)
  | @all depth items known =>
    have listed : Tame (Run.newList items) (fun v after => ∃ list, v = .ref list ∧
        after.heap[list]? = some (.list items.toArray)) w :=
      .of_ok rfl (KeepsPlain.push _ _) ⟨_, rfl, Array.getElem?_push_size⟩
    refine listed.bind fun v between keeps given => ?_
    obtain ⟨list, rfl, cell⟩ := given
    have flat (v : Value) (member : v ∈ items.toArray) : v.IsFlat between.heap :=
      (flat v (known v (List.mem_toArray.1 member))).mono keeps
    cases depth with
    | zero => exact Run.tame_raise _ _
    | succ depth => exact Run.tame_callAbove (Run.tame_allOf_list cell flat)
  | allOf begins keeps iterates start =>
    have iterates := iterates.since w.heap fun item after keeps given =>
      given.elim (fun known => (flat item known).mono keeps) .plain
    exact Run.tame_callAbove (Run.tame_allOf begins keeps iterates ⟨start, keeps⟩)
  | @link depth mark number isRejected payload link known obliging =>
    refine Run.tame_callAbove ?_
    rw [Run.callValue_link]
    refine Run.tame_bind_freshUnmarked (Run.tame_linked (flat _ known) fun f handed => ?_)
    cases callable : f.isCallableIn w.heap with
    | true =>
      refine (obliging f handed callable).mono fun v after keeps given => ?_
      obtain known' | plain := given
      · obtain rfl | known' := List.mem_cons.1 known'
        · exact (flat _ known).payload_flat.mono keeps
        · exact (flat v known').mono keeps
      · exact .plain plain
    | false => exact Run.tame_notCallable callable
  | fetch => exact Run.tame_call fun m => Run.tame_callFetch m _ .none
  | fetchWith => exact Run.tame_call fun m => Run.tame_callFetch m _ _
  | response known =>
    exact Run.tame_call fun _ => Run.tame_bind_freshUnmarked (Run.tame_callResponseMethod _ _)

/-- All that a program obtains is flat, if it starts from what is plain. -/
theorem Obtains.flat {start obtained : List Value} {begun w : World}
    (obtains : Obtains start begun obtained w) (plain : ∀ v ∈ start, v.IsPlain begun.heap) :
    ∀ v ∈ obtained, v.IsFlat w.heap := by
  induction obtains with
  | start => exact fun v member => .plain (plain v member)
  | returned earlier operation ran ih =>
    obtain ⟨keeps, flat⟩ := (operation.tame ih).returned ran
    intro v member
    obtain rfl | member := List.mem_cons.1 member
    · exact flat
    · exact (ih v member).mono keeps
  | raised earlier operation ran ih =>
    obtain ⟨keeps, plain⟩ := (operation.tame ih).raised ran
    intro v member
    obtain rfl | member := List.mem_cons.1 member
    · exact .plain plain
    · exact (ih v member).mono keeps

/-- What counts as no promise does not show itself as one. -/
theorem toDatum_not_thenable {heap : Array Cell} {v : Value}
    (notThenable : v.isThenableIn heap = false) (fuel : Nat) (path : List Nat) :
    (v.toDatum heap (fuel + 1) path).isThenable = false := by
  cases v
  case promise => cases notThenable
  case tuple items mark =>
    unfold Value.toDatum
    dsimp only
    split <;> first | rfl | contradiction
  case method object name mark =>
    unfold Value.toDatum
    dsimp only
    split <;> rfl
  case ref address =>
    unfold Value.toDatum
    simp only [Value.isThenableIn] at notThenable
    dsimp only
    split
    · rfl
    generalize (heap[address]?).getD (.namespace []) = cell at notThenable ⊢
    cases cell
    case foreign d => exact notThenable
    all_goals rfl
  all_goals rfl

/-- The step that unwraps a promise reaches what is none. -/
theorem settle_not_thenable {isRejected : Bool} {payload value : Datum}
    (plain : isRejected = false → payload.isThenable = false)
    (settles : (Datum.promise isRejected payload).settle = .ok value) :
    value.isThenable = false := by
  cases isRejected with
  | true =>
    -- A rejection is a failure, unless it is one with none.
    cases payload <;> cases settles
    rfl
  | false =>
    have same : value = payload := by
      cases payload <;> cases settles <;> rfl
    exact same ▸ plain rfl

/-- Every resolved promise that a program with promises comes to holds a value that counts as none,
if the program starts from plain values; and whichever promise a handler returns, what its envelope
tells is none. -/
theorem obtained_promise_holds_plain {start obtained : List Value} {begun w : World}
    (plain : ∀ v ∈ start, v.IsPlain begun.heap) (obtains : Obtains start begun obtained w)
    {number : Nat} {isRejected : Bool} {payload : Value}
    (known : .promise number isRejected payload ∈ obtained) :
    (isRejected = false → payload.isThenableIn w.heap = false) ∧
      ∃ shown, Run.resultDatum (.promise number isRejected payload) w = .ok shown w ∧
        ∀ value, shown.settle = .ok value → value.isThenable = false := by
  have flat := obtains.flat plain _ known
  have holds (resolved : isRejected = false) : payload.isThenableIn w.heap = false := by
    subst resolved
    exact flat.resolved_payload.now
  refine ⟨holds, _, rfl, fun value settles => settle_not_thenable (fun resolved => ?_) settles⟩
  exact toDatum_not_thenable (holds resolved) _ _

/-- A world with an empty table. -/
def tableWorld : World := { (default : World) with heap := #[.dict #[] true] }

/-- A promise of a table that counts as none still holds what counts as none after it has been
handed what cannot be called. -/
theorem table_promise_holds_plain :
    ∃ obtained w, Obtains [.ref 0] tableWorld obtained w ∧
      .promise 0 false (.ref 0) ∈ obtained ∧ (Value.ref 0).isThenableIn w.heap = false := by
  have plain : ∀ v ∈ [Value.ref 0], v.IsPlain tableWorld.heap := by
    intro v member
    obtain rfl := List.mem_singleton.1 member
    refine .of_not_thenable rfl ?_ ?_
    · rintro _ ⟨⟩
      decide
    · rintro _ table ⟨⟩ ⟨⟩ e member
      simp at member
  have resolved : Obtains [.ref 0] tableWorld [.promise 0 false (.ref 0), .ref 0]
      { tableWorld with promises := 1 } :=
    .returned .start (.resolve (List.mem_singleton_self _)) (rfl : (interp 1).call _ _ _ _ = _)
  have uncallable : Operation [.promise 0 false (.ref 0), .ref 0] { tableWorld with promises := 1 }
      ((interp 1).link (.onFulfilled (.int 5)) 0 (.promise 0 false (.ref 0))) :=
    .link (List.mem_cons_self ..) (by rintro _ ⟨⟩ ⟨⟩)
  have handed := Obtains.returned resolved uncallable rfl
  exact ⟨_, _, handed, .tail _ (.head _),
    (obtained_promise_holds_plain plain handed (.tail _ (.head _))).1 rfl⟩

end PhaseScript.Machine
