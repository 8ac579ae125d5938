import PhaseScript.Proofs.Machine.Chain
import PhaseScript.Proofs.Machine.Picture
/-
Values that count as no promise, and steps that keep them so. A value counts as one by what its cell
and those it names hold, so a step may put new cells on the heap, and may move an iterator on, but a
plain value stays plain.
-/
set_option autoImplicit false

namespace PhaseScript.Machine

/-- Whether no value counts as a promise because of a cell, or can be called. -/
def Cell.isOrdinary : Cell → Bool
  | .function _ _ _ _ _ | .foreign _ | .dict _ true => false
  | _ => true

/-- A value that counts as no promise as long as the cells are kept. -/
def Value.IsPlain (heap : Array Cell) (v : Value) : Prop :=
  ∀ now, Keeps 0 heap.size heap now → v.isThenableIn now = false

/-- What is plain in one heap is so in another. -/
def KeepsPlain (before after : Array Cell) : Prop := ∀ v : Value, v.IsPlain before → v.IsPlain after

namespace Value.IsPlain

theorem now {heap : Array Cell} {v : Value} (plain : v.IsPlain heap) :
    v.isThenableIn heap = false :=
  plain heap fun _ _ _ => rfl

/-- What is in an ordinary cell is plain. -/
theorem of_ordinary {heap : Array Cell} {address : Nat} {cell : Cell}
    (found : heap[address]? = some cell) (ordinary : cell.isOrdinary = true) :
    (Value.ref address).IsPlain heap := by
  intro now keeps
  have inside : address < heap.size := (Array.getElem?_eq_some_iff.1 found).1
  have kept : now[address]? = some cell := (keeps address (Nat.zero_le _) inside).trans found
  simp only [Value.isThenableIn, kept, Option.getD_some]
  clear found kept
  cases cell
  case dict entries isExports =>
    cases isExports with
    | false => rfl
    | true => cases ordinary
  case foreign => cases ordinary
  all_goals rfl

end Value.IsPlain

/-- If a value is an address, it is that of a cell. -/
def Value.InHeap (heap : Array Cell) (v : Value) : Prop :=
  ∀ address, v = .ref address → address < heap.size

theorem Value.InHeap.isCallableIn_eq {heap now : Array Cell} {v : Value} (inside : v.InHeap heap)
    (keeps : Keeps 0 heap.size heap now) : v.isCallableIn now = v.isCallableIn heap := by
  cases v
  case ref address =>
    simp only [Value.isCallableIn, keeps address (Nat.zero_le _) (inside address rfl)]
  case builtin f => cases f <;> rfl
  all_goals rfl

/-- What counts as no promise is plain, if it and whatever it has as a table are in the heap. -/
theorem Value.IsPlain.of_not_thenable {heap : Array Cell} {v : Value}
    (notThenable : v.isThenableIn heap = false) (inside : v.InHeap heap)
    (entries : ∀ address table, v = .ref address → heap[address]? = some (.dict table true) →
      ∀ e ∈ table, e.2.InHeap heap) : v.IsPlain heap := by
  intro now keeps
  cases v
  case ref address =>
    have kept := keeps address (Nat.zero_le _) (inside address rfl)
    obtain ⟨cell, found⟩ : ∃ cell, heap[address]? = some cell :=
      ⟨_, Array.getElem?_eq_getElem (inside address rfl)⟩
    have entries (table : Array (Value × Value)) (same : cell = .dict table true) :
        ∀ e ∈ table, e.2.InHeap heap := entries address table rfl (same ▸ found)
    simp only [Value.isThenableIn, kept, found, Option.getD_some] at notThenable ⊢
    clear found kept
    cases cell
    case dict table isExports =>
      cases isExports with
      | false => rfl
      | true =>
        dsimp only at notThenable ⊢
        cases found : table.find? fun e => e.1.sameKey (.text "then") with
        | none => rfl
        | some e =>
          rw [found] at notThenable
          have member := Array.mem_of_find?_eq_some found
          exact ((entries table rfl e member).isCallableIn_eq keeps).trans notThenable
    case foreign => exact notThenable
    all_goals rfl
  case promise => cases notThenable
  all_goals rfl

namespace KeepsPlain

theorem refl (heap : Array Cell) : KeepsPlain heap heap := fun _ plain => plain

theorem trans {first second third : Array Cell} (keeps : KeepsPlain first second)
    (keeps' : KeepsPlain second third) : KeepsPlain first third :=
  fun v plain => keeps' v (keeps v plain)

theorem push (heap : Array Cell) (cell : Cell) : KeepsPlain heap (heap.push cell) := by
  intro v plain now keeps
  refine plain now ((keeps_push heap cell).trans (keeps.mono le_rfl ?_))
  rw [Array.size_push]
  exact Nat.le_succ _

end KeepsPlain

/-- An iterator is nothing by which a value could be called. -/
theorem isCallableIn_setIterator {heap : Array Cell} {address : Nat} {name name' : Text}
    {source source' : Iteration} (found : heap[address]? = some (.iterator name source))
    (v : Value) : v.isCallableIn (heap.setIfInBounds address (.iterator name' source')) =
      v.isCallableIn heap := by
  cases v
  case ref other =>
    by_cases same : address = other
    · subst same
      have inside : address < heap.size := (Array.getElem?_eq_some_iff.1 found).1
      simp only [Value.isCallableIn, Array.getElem?_setIfInBounds_self_of_lt inside, found,
        Option.getD_some]
    · simp only [Value.isCallableIn, Array.getElem?_setIfInBounds_ne same]
  case builtin f => cases f <;> rfl
  all_goals rfl

theorem isThenableIn_setIterator {heap : Array Cell} {address : Nat} {name name' : Text}
    {source source' : Iteration} (found : heap[address]? = some (.iterator name source))
    (v : Value) : v.isThenableIn (heap.setIfInBounds address (.iterator name' source')) =
      v.isThenableIn heap := by
  cases v
  case ref other =>
    by_cases same : address = other
    · subst same
      have inside : address < heap.size := (Array.getElem?_eq_some_iff.1 found).1
      simp only [Value.isThenableIn, Array.getElem?_setIfInBounds_self_of_lt inside, found,
        Option.getD_some]
    · simp only [Value.isThenableIn, Array.getElem?_setIfInBounds_ne same,
        isCallableIn_setIterator found]
  all_goals rfl

theorem KeepsPlain.setIterator {heap : Array Cell} {address : Nat} {name name' : Text}
    {source source' : Iteration} (found : heap[address]? = some (.iterator name source)) :
    KeepsPlain heap (heap.setIfInBounds address (.iterator name' source')) := by
  intro v plain now keeps
  rw [Array.size_setIfInBounds] at keeps
  have inside : address < heap.size := (Array.getElem?_eq_some_iff.1 found).1
  have moved : now[address]? = some (.iterator name' source') := by
    rw [keeps address (Nat.zero_le _) inside, Array.getElem?_setIfInBounds_self_of_lt inside]
  -- With the iterator moved back the cells are as they were.
  rw [← isThenableIn_setIterator moved v]
  refine plain (now.setIfInBounds address (.iterator name source)) fun other start below => ?_
  by_cases same : address = other
  · subst same
    rw [Array.getElem?_setIfInBounds_self_of_lt (Array.getElem?_eq_some_iff.1 moved).1, found]
  · rw [Array.getElem?_setIfInBounds_ne same, keeps other start below,
      Array.getElem?_setIfInBounds_ne same]

/-- Whatever a step comes to, it keeps plain values plain; what it gives is as told, and what it
raises is plain. -/
structure Tame {α : Type} (step : Run α) (gives : α → World → Prop) (before : World) : Prop where
  returned : ∀ {a after}, step before = .ok a after →
    KeepsPlain before.heap after.heap ∧ gives a after
  raised : ∀ {error after}, step before = .error (.raised error) after →
    KeepsPlain before.heap after.heap ∧ error.IsPlain after.heap

namespace Run

variable {α β : Type} {step : Run α} {next : α → Run β} {before after : World}

theorem bind_eq_ok {b : β} (ran : (step >>= next) before = .ok b after) :
    ∃ a between, step before = .ok a between ∧ next a between = .ok b after := by
  simp only [bind, EStateM.bind] at ran
  split at ran
  · exact ⟨_, _, by assumption, ran⟩
  · cases ran

theorem bind_eq_error {trouble : Trouble} (ran : (step >>= next) before = .error trouble after) :
    step before = .error trouble after ∨
      ∃ a between, step before = .ok a between ∧ next a between = .error trouble after := by
  simp only [bind, EStateM.bind] at ran
  split at ran
  · exact .inr ⟨_, _, by assumption, ran⟩
  · cases ran
    exact .inl (by assumption)

end Run

namespace Tame

variable {α β : Type} {step : Run α} {gives gives' : α → World → Prop} {before after : World}

theorem of_ok {a : α} (ran : step before = .ok a after)
    (keeps : KeepsPlain before.heap after.heap) (given : gives a after) :
    Tame step gives before where
  returned ran' := by
    cases ran.symm.trans ran'
    exact ⟨keeps, given⟩
  raised ran' := nomatch ran.symm.trans ran'

theorem of_raised {error : Value} (ran : step before = .error (.raised error) after)
    (keeps : KeepsPlain before.heap after.heap) (plain : error.IsPlain after.heap) :
    Tame step gives before where
  returned ran' := nomatch ran.symm.trans ran'
  raised ran' := by
    cases ran.symm.trans ran'
    exact ⟨keeps, plain⟩

/-- A step that comes to the same as a tame one, from states with the same heap. -/
theorem of_eq {step' : Run α} (same : step before = step' after)
    (heap : after.heap = before.heap) (tame : Tame step' gives after) :
    Tame step gives before where
  returned ran := heap ▸ tame.returned (same ▸ ran)
  raised ran := heap ▸ tame.raised (same ▸ ran)

theorem mono (tame : Tame step gives before)
    (weaker : ∀ a after, KeepsPlain before.heap after.heap → gives a after → gives' a after) :
    Tame step gives' before where
  returned ran := ⟨(tame.returned ran).1, weaker _ _ (tame.returned ran).1 (tame.returned ran).2⟩
  raised := tame.raised

theorem pure {a : α} (given : gives a before) : Tame (Pure.pure a) gives before :=
  of_ok rfl (KeepsPlain.refl _) given

theorem bind {next : α → Run β} {gives' : β → World → Prop} (tame : Tame step gives before)
    (goesOn : ∀ a between, KeepsPlain before.heap between.heap → gives a between →
      Tame (next a) gives' between) : Tame (step >>= next) gives' before where
  returned ran := by
    obtain ⟨a, between, first, second⟩ := Run.bind_eq_ok ran
    obtain ⟨keeps, given⟩ := tame.returned first
    exact ((goesOn a between keeps given).returned second).imp_left keeps.trans
  raised ran := by
    obtain first | ⟨a, between, first, second⟩ := Run.bind_eq_error ran
    · exact tame.raised first
    · obtain ⟨keeps, given⟩ := tame.returned first
      exact ((goesOn a between keeps given).raised second).imp_left keeps.trans

theorem catching (tame : Tame step gives before) :
    Tame (Run.catching step) (fun outcome after => match outcome with
      | .ok a => gives a after
      | .error error => error.IsPlain after.heap) before where
  returned ran := by
    simp only [Run.catching] at ran
    split at ran <;> cases ran
    · exact tame.returned (by assumption)
    · exact tame.raised (by assumption)
  raised ran := by
    simp only [Run.catching] at ran
    split at ran <;> cases ran

end Tame

namespace Run

variable {before : World}

theorem tame_alloc {cell : Cell} : Tame (alloc cell) (fun _ _ => True) before :=
  .of_ok rfl (KeepsPlain.push _ _) trivial

theorem tame_alloc_ordinary {cell : Cell} (ordinary : cell.isOrdinary = true) :
    Tame (alloc cell) (fun v after => v.IsPlain after.heap) before :=
  .of_ok rfl (KeepsPlain.push _ _) (.of_ordinary Array.getElem?_push_size ordinary)

theorem tame_raiseValue {α : Type} {error : Value} {gives : α → World → Prop}
    (plain : error.IsPlain before.heap) : Tame (raiseValue error) gives before :=
  .of_raised rfl (KeepsPlain.refl _) plain

theorem tame_raise {α : Type} (kind : ExceptionKind) (message : Text) {gives : α → World → Prop} :
    Tame (raise kind message) gives before :=
  (tame_alloc_ordinary rfl).bind fun _ _ _ plain => tame_raiseValue plain

theorem tame_typeErrorOf {α : Type} (first : Text) (v : Value) (last : Text)
    {gives : α → World → Prop} : Tame (typeErrorOf first v last) gives before := by
  obtain ⟨message, same⟩ := typeErrorOf_eq (α := α) first v last before
  exact .of_eq same rfl (tame_raise .typeError message)

theorem Reads.tame {α : Type} {step : Run α} (reads : Reads step) :
    Tame step (fun _ _ => True) before := by
  obtain ⟨a, ran⟩ := reads before
  exact .of_ok ran (KeepsPlain.refl _) trivial

theorem reads_snapshot (v : Value) : Reads (snapshot v) := fun _ => ⟨_, rfl⟩

theorem reads_unveiled (v : Value) : Reads (unveiled v) := by
  refine (reads_cell? v).bind fun cell => ?_
  split <;> exact .pure _

theorem reads_optionsDatum (v : Value) : Reads (optionsDatum v) := by
  refine (reads_unveiled v).bind fun v => (reads_entries? v).bind fun entries => ?_
  cases entries with
  | none => exact reads_snapshot v
  | some entries =>
    refine (Reads.mapM (fun entry => ?_) _).bind fun _ => .pure _
    have shown (value : Value) : Reads (do return (← snapshot entry.1, ← snapshot value)) :=
      (reads_snapshot _).bind fun _ => (reads_snapshot _).bind fun _ => .pure _
    dsimp only
    split
    · split
      · exact (reads_unveiled _).bind shown
      · exact (Reads.pure _).bind shown
    · exact (Reads.pure _).bind shown

/-- Marks are no part of the heap. -/
theorem tame_newMark : Tame newMark (fun _ _ => True) before :=
  .of_ok rfl (KeepsPlain.refl _) trivial

theorem tame_newNumber (x : Binary64) : Tame (newNumber x) (fun _ _ => True) before := by
  unfold newNumber
  split
  · exact tame_newMark.bind fun _ _ _ _ => .pure trivial
  · exact .pure trivial

theorem tame_newPromise (isRejected : Bool) (payload : Value) :
    Tame (newPromise isRejected payload)
      (fun v _ => ∃ number, v = .promise number isRejected payload) before :=
  .of_ok rfl (KeepsPlain.refl _) ⟨_, rfl⟩

/-- A number that is none gets a mark, and any other value stays as it is. -/
theorem tame_fresh (v : Value) :
    Tame (fresh v) (fun made _ => made = v ∨ ∀ heap, made.IsPlain heap) before := by
  unfold fresh
  split
  · split
    · exact (tame_newNumber _).bind fun _ _ _ _ => .pure (.inr fun _ _ _ => rfl)
    · exact .pure (.inl rfl)
  · split
    · exact (tame_newNumber _).bind fun _ _ _ _ => (tame_newNumber _).bind fun _ _ _ _ =>
        .pure (.inr fun _ _ _ => rfl)
    · exact .pure (.inl rfl)
  · exact .pure (.inl rfl)

theorem tame_freshUnmarked (v : Value) :
    Tame (freshUnmarked v) (fun made _ => made = v ∨ ∀ heap, made.IsPlain heap) before := by
  unfold freshUnmarked
  split
  · dsimp only
    split
    · exact tame_fresh _
    · exact .pure (.inl rfl)
  · dsimp only
    split
    · exact tame_fresh _
    · exact .pure (.inl rfl)
  · exact .pure (.inl rfl)

mutual

/-- What is made of data puts new cells on the heap, and nothing else. -/
theorem tame_ofDatum : (d : Datum) → ∀ before, Tame (ofDatum d) (fun _ _ => True) before
  | .none, _ | .bool _, _ | .int _, _ | .text _, _ | .bytes _, _ | .date _, _ | .clock _, _
  | .moment _, _ | .duration _, _ => .pure trivial
  | .float _, _ | .complex _ _, _ => (tame_fresh _).mono fun _ _ _ _ => trivial
  | .list items, before => (tame_ofData items before).bind fun _ _ _ _ => tame_alloc
  | .tuple items, before => (tame_ofData items before).bind fun _ _ _ _ =>
    tame_newMark.bind fun _ _ _ _ => .pure trivial
  | .set _ items, before => (tame_ofData items before).bind fun _ _ _ _ => tame_alloc
  | .dict entries, before => (tame_ofEntries entries before).bind fun _ _ _ _ => tame_alloc
  | .exception _ args details, before => (tame_ofData args before).bind fun _ between _ _ =>
    (tame_ofDetails details between).bind fun _ _ _ _ => tame_alloc
  | .promise _ payload, before => (tame_ofDatum payload before).bind fun _ _ _ _ =>
    (tame_newPromise _ _).mono fun _ _ _ _ => trivial
  | .response _ headers, before => (tame_ofDatum headers before).bind fun _ _ _ _ => .pure trivial
  | .week _ _ _, _ | .decimal _, _ | .uuid _, _ | .thing _ _, _ | .object _ _, _ | .coroutine, _
  | .awaitable, _ | .stub _ _ _, _ | .builtin _, _ | .cycle _, _ => tame_alloc

theorem tame_ofData : (items : List Datum) → ∀ before, Tame (ofData items) (fun _ _ => True) before
  | [], _ => .pure trivial
  | d :: rest, before => (tame_ofDatum d before).bind fun _ between _ _ =>
    (tame_ofData rest between).bind fun _ _ _ _ => .pure trivial

theorem tame_ofDetails : (details : List (Text × Datum)) →
    ∀ before, Tame (ofDetails details) (fun _ _ => True) before
  | [], _ => .pure trivial
  | (_, d) :: rest, before => (tame_ofDatum d before).bind fun _ between _ _ =>
    (tame_ofDetails rest between).bind fun _ _ _ _ => .pure trivial

theorem tame_ofEntries : (entries : List (Datum × Datum)) →
    ∀ before, Tame (ofEntries entries) (fun _ _ => True) before
  | [], _ => .pure trivial
  | (k, v) :: rest, before => (tame_ofDatum k before).bind fun _ between _ _ =>
    (tame_ofDatum v between).bind fun _ between _ _ =>
      (tame_ofEntries rest between).bind fun _ _ _ _ => .pure trivial

end

mutual

/-- What is made of a JSON value is plain. -/
theorem tame_ofJson : (v : Json) →
    ∀ before, Tame (ofJson v) (fun made after => made.IsPlain after.heap) before
  | .null, _ | .bool _, _ | .int _, _ | .float _, _ | .string _, _ => .pure fun _ _ => rfl
  | .array items, before => (tame_ofJsonItems items before).bind fun _ _ _ _ =>
    tame_alloc_ordinary rfl
  | .object members, before => (tame_ofJsonMembers members before).bind fun _ _ _ _ =>
    tame_alloc_ordinary rfl

theorem tame_ofJsonItems : (items : List Json) →
    ∀ before, Tame (ofJsonItems items) (fun _ _ => True) before
  | [], _ => .pure trivial
  | item :: rest, before => (tame_ofJson item before).bind fun _ between _ _ =>
    (tame_ofJsonItems rest between).bind fun _ _ _ _ => .pure trivial

theorem tame_ofJsonMembers : (members : List (Text × Json)) →
    ∀ before, Tame (ofJsonMembers members) (fun _ _ => True) before
  | [], _ => .pure trivial
  | (_, v) :: rest, before => (tame_ofJson v before).bind fun _ between _ _ =>
    (tame_ofJsonMembers rest between).bind fun _ _ _ _ => .pure trivial

end

theorem tame_mapM {α β : Type} {f : α → Run β}
    (tame : ∀ a before, Tame (f a) (fun _ _ => True) before) (l : List α) (before : World) :
    Tame (l.mapM f) (fun _ _ => True) before := by
  induction l generalizing before with
  | nil => exact .pure trivial
  | cons a rest ih =>
    rw [List.mapM_cons]
    exact (tame a before).bind fun _ _ _ _ => (ih _).bind fun _ _ _ _ => .pure trivial

/-- The exception for what was raised outside is plain. -/
theorem tame_exceptionOf (raised : Raised) :
    Tame (exceptionOf raised) (fun v after => v.IsPlain after.heap) before := by
  refine (tame_ofData _ _).bind fun _ _ _ _ => (tame_mapM (fun entry w => ?_) _ _).bind
    fun _ _ _ _ => tame_alloc_ordinary rfl
  exact (tame_ofDatum _ _).bind fun _ _ _ _ => .pure trivial

theorem tame_jsonException (whole : Text) (refusal : Json.Refusal) :
    Tame (jsonException whole refusal) (fun v after => v.IsPlain after.heap) before := by
  unfold jsonException
  split <;> exact tame_alloc_ordinary rfl

/-- Sending leaves the heap as it is, but for the exception if one is raised. -/
theorem tame_sending {α : Type} (step : Http.Sending α) :
    Tame (sending step) (fun _ _ => True) before := by
  cases sent : step before.exchange with
  | ok a exchange =>
    have ran : sending step before = .ok a { before with exchange } := by
      simp only [sending, bind, EStateM.bind, sent]
      rfl
    exact .of_ok ran (KeepsPlain.refl _) trivial
  | error raised exchange =>
    have ran : sending step before =
        (do raiseValue (← exceptionOf raised) : Run α) { before with exchange } := by
      simp only [sending, bind, EStateM.bind, sent]
    exact .of_eq ran rfl ((tame_exceptionOf raised).bind fun _ _ _ plain => tame_raiseValue plain)

theorem tame_newResponse (source : Http.Response) :
    Tame (newResponse source) (fun v after => v.IsPlain after.heap) before :=
  tame_alloc.bind fun _ _ _ _ => .pure fun _ _ => rfl

theorem tame_noteResult (v : Value) :
    Tame (noteResult v) (fun _ after => after.heap = before.heap) before := by
  refine .of_ok (noteResult_eq v before) ?_ (noting_heap before v)
  rw [noting_heap]
  exact KeepsPlain.refl _

theorem tame_noted {part : Run Value} (gives : Value → Array Cell → Prop)
    (tame : Tame part (fun v after => gives v after.heap) before) :
    Tame (noted part) (fun v after => gives v after.heap) before :=
  tame.bind fun v _ _ given => (tame_noteResult v).bind fun _ _ _ same => .pure (same ▸ given)

end Run

end PhaseScript.Machine
