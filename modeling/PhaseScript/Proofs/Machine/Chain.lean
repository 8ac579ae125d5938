import PhaseScript.Proofs.Machine.Rejection
/-
Chains of promises. However many links a chain has, it runs as a fold of them over what the promise
has settled to: it calls the callbacks for that, one after another, and no link of it raises.
-/
set_option autoImplicit false

namespace PhaseScript.Machine

/-- Extends a chain by a link: reads the method of the promise and calls it. -/
def Interp.extend (m : Interp) (promise : Value) (link : Link) : Run Value :=
  Run.callNamed m promise link.name link.args

def Interp.extendAll (m : Interp) (promise : Value) (links : List Link) : Run Value :=
  links.foldlM m.extend promise

/-- What a promise has settled to. -/
structure Settled where
  number : Nat
  isRejected : Bool
  payload : Value

/-- A call of a callback, and how it ended. -/
structure Attempt where
  callback : Value
  arg : Value
  outcome : Except Value Value

/-- A call that ends, in a promise, in a value that counts as none, or by raising an error. -/
inductive Settles (call : Run Value) (before : World) : Prop
  | promise {number : Nat} {isRejected : Bool} {payload : Value} {after : World}
      (returns : call before = .ok (.promise number isRejected payload) after)
  | plain {v : Value} {after : World} (returns : call before = .ok v after)
      (plain : v.isThenableIn after.heap = false)
  | raised {error : Value} {after : World} (raises : call before = .error (.raised error) after)
      (isError : error.isErrorIn after.heap = true)

namespace Settled

def promise (s : Settled) : Value := .promise s.number s.isRejected s.payload

/-- What a new promise has settled to. -/
def new (isRejected : Bool) (payload : Value) : Run Settled := fun w =>
  .ok ⟨w.promises, isRejected, payload⟩ { w with promises := w.promises + 1 }

/-- What a call of a callback settles to. -/
def ofOutcome : Except Value Value → Run Settled
  | .error error => new true error
  | .ok (.promise number isRejected payload) => return ⟨number, isRejected, payload⟩
  | .ok v => new false v

/-- What a promise settles to next if it is handed a callback, and the call made for that. -/
def react (m : Interp) (s : Settled) : Option Value → Run (Settled × List Attempt)
  | none => return (s, [])
  | some f => do
    let outcome ← Run.catching (m.apply f [s.payload])
    return (← ofOutcome outcome, [⟨f, s.payload, outcome⟩])

/-- What comes of a link, and the calls made for it. The machine takes note of it as a part of its
step. -/
def next (m : Interp) (s : Settled) (link : Link) : Run (Settled × List Attempt) := do
  let (next, calls) ← s.react m (link.callback? s.isRejected)
  Run.noteResult next.promise
  return (next, calls)

/-- What comes of a chain, and the calls made for it in their order. -/
def follow (m : Interp) (s : Settled) : List Link → Run (Settled × List Attempt)
  | [] => return (s, [])
  | link :: rest => do
    let (next, calls) ← s.next m link
    let (finish, more) ← next.follow m rest
    return (finish, calls ++ more)

/-- Along a chain, every callback that can be called settles. -/
def SettlesAlong (m : Interp) (s : Settled) : List Link → World → Prop
  | [], _ => True
  | link :: rest, before =>
    (∀ f, link.callback? s.isRejected = some f → f.isCallableIn before.heap = true →
      Settles (m.apply f [s.payload]) before) ∧
    ∀ next calls between, s.next m link before = .ok (next, calls) between →
      next.SettlesAlong m rest between

end Settled

/-- The state in which a value has been noted as a part of the step at hand. -/
def World.noting (w : World) (v : Value) : World :=
  if w.watch.isOn then { w with watch := { w.watch with results := v :: w.watch.results } } else w

namespace Run

theorem noteResult_eq (v : Value) (w : World) : noteResult v w = .ok () (w.noting v) := by
  simp only [noteResult, watched, World.noting, bind, EStateM.bind]
  split <;> rfl

/-- What is noted of a part of a step is no part of the heap. -/
theorem noting_heap (w : World) (v : Value) : (w.noting v).heap = w.heap := by
  unfold World.noting
  split <;> rfl

theorem noted_ok {part : Run Value} {v : Value} {before after : World}
    (success : part before = .ok v after) : noted part before = .ok v (after.noting v) := by
  simp only [noted, bind, EStateM.bind, success, noteResult_eq]
  rfl

theorem noted_error {part : Run Value} {trouble : Trouble} {before after : World}
    (failure : part before = .error trouble after) :
    noted part before = .error trouble after := by
  simp only [noted, bind, EStateM.bind, failure]

theorem reads_typeName (v : Value) : Reads (typeName v) := by
  intro w
  cases v
  case ref address =>
    simp only [typeName, shortTypeName, cellAt, bind, EStateM.bind, pure, EStateM.pure]
    cases (w.heap[address]?).getD (.namespace []) <;> exact ⟨_, rfl⟩
  case tuple items mark => cases mark <;> exact ⟨_, rfl⟩
  all_goals exact ⟨_, rfl⟩

theorem typeErrorOf_eq {α : Type} (before : Text) (v : Value) (after : Text) (w : World) :
    ∃ message, (typeErrorOf before v after : Run α) w = (typeError message : Run α) w := by
  obtain ⟨name, named⟩ := reads_typeName v w
  refine ⟨before ++ name ++ after, ?_⟩
  simp only [typeErrorOf, bind, EStateM.bind, named]

theorem catching_returned {call : Run Value} {v : Value} {before after : World}
    (returns : call before = .ok v after) : catching call before = .ok (.ok v) after := by
  simp only [catching, returns]

theorem catching_raised {call : Run Value} {error : Value} {before after : World}
    (raises : call before = .error (.raised error) after) :
    catching call before = .ok (.error error) after := by
  simp only [catching, raises]

/-- The call raises an error like any other. -/
def Raises (call : Run Value) (before : World) : Prop :=
  ∃ error after, call before = .error (.raised error) after ∧ error.isErrorIn after.heap = true

theorem raises_raise {kind : ExceptionKind} (ordinary : kind.is .exception = true) (message : Text)
    (w : World) : Raises (raise kind message) w := by
  refine ⟨_, _, rfl, ?_⟩
  simp [Value.isErrorIn, ordinary]

theorem raises_typeErrorOf (before : Text) (v : Value) (after : Text) (w : World) :
    Raises (typeErrorOf before v after) w := by
  obtain ⟨message, same⟩ := typeErrorOf_eq (α := Value) before v after w
  rw [Raises, same]
  exact raises_raise (by decide) message w

/-- What cannot be called is refused. -/
theorem callValue_notCallable {m : Interp} {f : Value} {args : List Value} {before : World}
    (notCallable : f.isCallableIn before.heap = false) :
    callValue m f args [] before = typeErrorOf "'" f "' object is not callable" before := by
  cases f
  case type | generic | method => cases notCallable
  case builtin g =>
    cases g
    case part => rfl
    all_goals cases notCallable
  case ref address =>
    simp only [Value.isCallableIn] at notCallable
    generalize here : (before.heap[address]?).getD (.namespace []) = cell at notCallable
    have found : cellAt address before = .ok cell before :=
      congrArg (EStateM.Result.ok · before) here
    simp only [callValue, cell?, bind, EStateM.bind, pure, EStateM.pure, found]
    cases cell
    case function => cases notCallable
    case foreign d =>
      simp only [callOther, bind, EStateM.bind, found]
      cases d
      case stub | builtin => cases notCallable
      all_goals rfl
    all_goals simp only [callOther, bind, EStateM.bind, found]
  all_goals rfl

end Run

open Run (interp)

/-- A call of what cannot be called raises an error at any depth. -/
theorem interp_apply_notCallable {depth : Nat} {f : Value} {args : List Value} {before : World}
    (notCallable : f.isCallableIn before.heap = false) :
    Run.Raises ((interp depth).apply f args) before := by
  cases depth with
  | zero => exact Run.raises_raise (by decide) _ before
  | succ depth =>
    obtain ⟨error, after, raises, isError⟩ :=
      Run.raises_typeErrorOf "'" f "' object is not callable" before
    rw [← Run.callValue_notCallable notCallable] at raises
    exact ⟨error, after, Run.noted_error raises, isError⟩

theorem Link.name_eq (link : Link) : link.name = "then" ∨ link.name = "catch" := by
  cases link
  case onRejected => exact .inr rfl
  all_goals exact .inl rfl

/-- Reading the method of a link from a promise and calling it is a call of that method. -/
theorem extend_eq (m : Interp) (s : Settled) (link : Link) :
    m.extend s.promise link = m.link link 0 s.promise := by
  have named : isNamed link.name promiseMethods = true := by
    obtain same | same := link.name_eq <;> rw [same] <;> decide
  have noPart : link.name.is (if s.isRejected then "error" else "value") = false := by
    obtain same | same := link.name_eq <;> rw [same] <;> cases s.isRejected <;> decide
  funext w
  simp only [Interp.extend, Run.callNamed, Run.attribute?, Settled.promise, noPart, named, methodIf,
    bind, EStateM.bind, pure, EStateM.pure, Bool.false_eq_true, if_false, if_true]
  rfl

/-- What a new promise has settled to is what the promise holds. -/
theorem new_eq (isRejected : Bool) (payload : Value) (w : World) :
    ∃ s after, Settled.new isRejected payload w = .ok s after ∧
      Run.newPromise isRejected payload w = .ok s.promise after :=
  ⟨_, _, rfl, rfl⟩

namespace Settled

variable {s : Settled} {link : Link} {before : World}

/-- A value that is no promise and counts as none is put into a promise. -/
theorem ofOutcome_plain {v : Value} {heap : Array Cell} (plain : v.isThenableIn heap = false) :
    ofOutcome (.ok v) = new false v := by
  cases v
  case promise => cases plain
  all_goals rfl

theorem react_some {m : Interp} {f : Value} {outcome : Except Value Value} {next : Settled}
    {between after : World}
    (called : Run.catching (m.apply f [s.payload]) before = .ok outcome between)
    (settled : ofOutcome outcome between = .ok next after) :
    s.react m (some f) before = .ok (next, [⟨f, s.payload, outcome⟩]) after := by
  simp only [react, bind, EStateM.bind, called, settled]
  rfl

/-- A promise goes on to the next one as it reacts to what it is handed. -/
theorem react_linked {m : Interp}
    (settles : ∀ f, link.callback? s.isRejected = some f → Settles (m.apply f [s.payload]) before) :
    ∃ next calls after, s.react m (link.callback? s.isRejected) before = .ok (next, calls) after ∧
      Run.linked m link s.number s.isRejected s.payload before = .ok next.promise after := by
  unfold Run.linked
  cases handed : link.callback? s.isRejected with
  | none => exact ⟨s, [], before, rfl, rfl⟩
  | some f =>
    cases settles f handed with
    | @promise number isRejected payload after returns =>
      have called := Run.catching_returned returns
      exact ⟨⟨number, isRejected, payload⟩, _, after, react_some called rfl,
        Run.settle_promise returns⟩
    | plain returns plain =>
      have called := Run.catching_returned returns
      obtain ⟨next, after, new, promise⟩ := new_eq false _ _
      refine ⟨next, _, after, react_some called ((ofOutcome_plain plain).symm ▸ new), ?_⟩
      exact (Run.settle_returned returns).trans ((Run.resolve_plain plain).trans promise)
    | raised raises isError =>
      have called := Run.catching_raised raises
      obtain ⟨next, after, new, promise⟩ := new_eq true _ _
      exact ⟨next, _, after, react_some called new,
        (Run.settle_raised raises isError).trans promise⟩

/-- A link raises nothing, and the machine makes of it what the promise goes on to. -/
theorem next_extend {depth : Nat}
    (settles : ∀ f, link.callback? s.isRejected = some f → f.isCallableIn before.heap = true →
      Settles ((interp depth).apply f [s.payload]) before) :
    ∃ next calls after, s.next (interp depth) link before = .ok (next, calls) after ∧
      (interp (depth + 1)).extend s.promise link before = .ok next.promise after := by
  have settles (f : Value) (handed : link.callback? s.isRejected = some f) :
      Settles ((interp depth).apply f [s.payload]) before := by
    cases callable : f.isCallableIn before.heap with
    | true => exact settles f handed callable
    | false =>
      obtain ⟨error, after, raises, isError⟩ := interp_apply_notCallable callable
      exact .raised raises isError
  obtain ⟨next, calls, after, reacts, linked⟩ := react_linked settles
  refine ⟨next, calls, after.noting next.promise, ?_, ?_⟩
  · simp only [Settled.next, bind, EStateM.bind, reacts, Run.noteResult_eq]
    rfl
  · rw [extend_eq]
    refine Run.noted_ok ?_
    rw [Settled.promise, Run.callValue_link]
    simp only [bind, EStateM.bind, linked]
    rfl

/-- A chain raises nothing, and the machine makes of it what the promise goes on to. -/
theorem follow_extendAll {depth : Nat} {links : List Link}
    (settles : s.SettlesAlong (interp depth) links before) :
    ∃ finish calls after, s.follow (interp depth) links before = .ok (finish, calls) after ∧
      (interp (depth + 1)).extendAll s.promise links before = .ok finish.promise after := by
  induction links generalizing s before with
  | nil => exact ⟨s, [], before, rfl, rfl⟩
  | cons link rest ih =>
    obtain ⟨next, calls, between, goesOn, extends_⟩ := next_extend settles.1
    obtain ⟨finish, more, after, follows, extendsAll⟩ := ih (settles.2 next calls between goesOn)
    refine ⟨finish, calls ++ more, after, ?_, ?_⟩
    · simp only [follow, bind, EStateM.bind, goesOn, follows]
      rfl
    · simp only [Interp.extendAll, List.foldlM_cons, bind, EStateM.bind, extends_]
      exact extendsAll

section Parts

variable {m : Interp} {next finish : Settled} {calls : List Attempt} {between after : World}

theorem next_eq_ok (goesOn : s.next m link before = .ok (next, calls) after) :
    ∃ between, s.react m (link.callback? s.isRejected) before = .ok (next, calls) between := by
  simp only [Settled.next, bind, EStateM.bind] at goesOn
  split at goesOn
  · next reached between reacts =>
    simp only [Run.noteResult_eq] at goesOn
    cases goesOn
    exact ⟨between, reacts⟩
  · cases goesOn

theorem follow_cons_eq_ok {rest : List Link}
    (follows : s.follow m (link :: rest) before = .ok (finish, calls) after) :
    ∃ next called between more, s.next m link before = .ok (next, called) between ∧
      next.follow m rest between = .ok (finish, more) after ∧ calls = called ++ more := by
  simp only [follow, bind, EStateM.bind] at follows
  split at follows
  · next reached between goesOn =>
    obtain ⟨next, called⟩ := reached
    dsimp only at follows
    split at follows
    · next ends w further =>
      obtain ⟨finish', more⟩ := ends
      cases follows
      exact ⟨next, called, between, more, goesOn, further, rfl⟩
    · cases follows
  · cases follows

/-- Following a chain is following its parts one after the other. -/
theorem follow_append {done rest : List Link} {all : List Attempt}
    (first : s.follow m done before = .ok (next, calls) between)
    (whole : s.follow m (done ++ rest) before = .ok (finish, all) after) :
    ∃ more, next.follow m rest between = .ok (finish, more) after ∧ all = calls ++ more := by
  induction done generalizing s before calls all with
  | nil =>
    cases first
    exact ⟨all, whole, rfl⟩
  | cons link done ih =>
    obtain ⟨reached, called, w, later, goesOn, firstLater, rfl⟩ := follow_cons_eq_ok first
    obtain ⟨reached', called', w', later', goesOn', wholeLater, rfl⟩ := follow_cons_eq_ok whole
    cases goesOn.symm.trans goesOn'
    obtain ⟨more, follows, rfl⟩ := ih firstLater wholeLater
    exact ⟨more, follows, (List.append_assoc ..).symm⟩

/-- Links without a callback for a rejection leave it as it is, and call nothing. -/
theorem follow_skipped {skipped : List Link} (rejected : s.isRejected = true)
    (skips : ∀ link ∈ skipped, link.callback? true = none) :
    ∃ after, s.follow m skipped before = .ok (s, []) after := by
  induction skipped generalizing before with
  | nil => exact ⟨before, rfl⟩
  | cons link rest ih =>
    obtain ⟨after, follows⟩ :
        ∃ after, s.follow m rest (before.noting s.promise) = .ok (s, []) after :=
      ih fun other member => skips other (.tail _ member)
    refine ⟨after, ?_⟩
    simp only [follow, Settled.next, rejected, skips link (.head _), react, bind, EStateM.bind,
      pure, EStateM.pure, Run.noteResult_eq, follows, List.append_nil]

/-- A link with a callback for the way in which the promise has settled calls it first. -/
theorem follow_calls {rest : List Link} {g : Value} (handed : link.callback? s.isRejected = some g)
    (follows : s.follow m (link :: rest) before = .ok (finish, calls) after) :
    ∃ outcome more, calls = ⟨g, s.payload, outcome⟩ :: more := by
  obtain ⟨next, called, w, more, goesOn, -, rfl⟩ := follow_cons_eq_ok follows
  obtain ⟨between, reacts⟩ := next_eq_ok goesOn
  rw [handed] at reacts
  simp only [react, bind, EStateM.bind] at reacts
  split at reacts
  · next outcome w' called' =>
    split at reacts
    · cases reacts
      exact ⟨outcome, more, rfl⟩
    · cases reacts
  · cases reacts

end Parts

end Settled

/-- Every chain whose callbacks settle when they can be called ends in a promise without raising,
and it is the fold of its links over what the promise has settled to, with the same calls in the
same order. From wherever it is rejected, it stays that rejection up to the first callback for one,
which is called next. -/
theorem extendAll_eq_follow {depth : Nat} {start : Settled} {links : List Link} {before : World}
    (settles : start.SettlesAlong (interp depth) links before) :
    ∃ finish calls after,
      start.follow (interp depth) links before = .ok (finish, calls) after ∧
      (interp (depth + 1)).extendAll start.promise links before = .ok finish.promise after ∧
      ∀ done skipped rest reached made between, links = done ++ (skipped ++ rest) →
        start.follow (interp depth) done before = .ok (reached, made) between →
        reached.isRejected = true → (∀ link ∈ skipped, link.callback? true = none) →
        (rest = [] → finish = reached ∧ calls = made) ∧
          ∀ link later g, rest = link :: later → link.callback? true = some g →
            ∃ outcome more, calls = made ++ ⟨g, reached.payload, outcome⟩ :: more := by
  obtain ⟨finish, calls, after, follows, extendsAll⟩ := Settled.follow_extendAll settles
  refine ⟨finish, calls, after, follows, extendsAll, ?_⟩
  rintro done skipped rest reached made between rfl first rejected skips
  obtain ⟨more, further, rfl⟩ := Settled.follow_append first follows
  obtain ⟨w, passed⟩ := Settled.follow_skipped rejected skips
  obtain ⟨last, further, rfl⟩ := Settled.follow_append passed further
  constructor
  · rintro rfl
    cases further
    exact ⟨rfl, List.append_nil _⟩
  · rintro link later g rfl handed
    obtain ⟨outcome, more, rfl⟩ := Settled.follow_calls (rejected.symm ▸ handed) further
    exact ⟨outcome, more, rfl⟩

/-- A chain that hands a promise what cannot be called, and the rejection with the complaint about
that to the first callback for one. -/
def sampleChain : List Link :=
  [.onFulfilled (.int 5), .onFulfilled (.builtin .reject), .onEither .none (.builtin .resolve)]

theorem sampleChain_extends :
    ∃ finish after, (interp 2).extendAll (.promise 0 false (.bool true)) sampleChain default =
      .ok finish after := by
  have settles :
      (⟨0, false, .bool true⟩ : Settled).SettlesAlong (interp 1) sampleChain default := by
    refine ⟨?_, ?_⟩
    · rintro _ ⟨⟩ ⟨⟩
    rintro next calls between ⟨⟩
    refine ⟨nofun, ?_⟩
    rintro next calls between ⟨⟩
    refine ⟨?_, fun _ _ _ _ => trivial⟩
    rintro _ ⟨⟩ -
    exact .promise rfl
  obtain ⟨finish, calls, after, -, extendsAll, -⟩ := extendAll_eq_follow settles
  exact ⟨finish.promise, after, extendsAll⟩

end PhaseScript.Machine
