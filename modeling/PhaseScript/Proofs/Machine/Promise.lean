import PhaseScript.Machine.Promise
/-
What the machine asks of values before it settles a promise, as facts about a heap, and what
settling comes to for each way in which a callback may end. From this follow the laws by which a
chain may be regrouped. There a callback is any step that takes a value, with whatever effects it
has; so two chains that come to the same run from every state call the same callbacks with the same
arguments and in the same order.
-/
set_option autoImplicit false

namespace PhaseScript.Machine

/-- Whether a value can be called in a heap. -/
def Value.isCallableIn (heap : Array Cell) : Value → Bool
  | .builtin (.part _ _ _) => false
  | .type _ | .generic _ _ _ _ | .builtin _ | .method _ _ _ => true
  | .ref address =>
    match (heap[address]?).getD (.namespace []) with
    | .function _ _ _ _ _ => true
    | .foreign d => d.isCallable
    | _ => false
  | _ => false

/-- Whether a value counts as a promise in a heap. -/
def Value.isThenableIn (heap : Array Cell) : Value → Bool
  | .promise _ _ _ => true
  | .ref address =>
    match (heap[address]?).getD (.namespace []) with
    | .dict entries true =>
      (entries.find? fun e => e.1.sameKey (.text "then")).any fun e => e.2.isCallableIn heap
    | .foreign d => d.isThenable
    | _ => false
  | _ => false

/-- Whether what is raised is an error like any other, in a heap. -/
def Value.isErrorIn (heap : Array Cell) : Value → Bool
  | .ref address =>
    match (heap[address]?).getD (.namespace []) with
    | .exception kind _ _ => kind.is .exception
    | _ => true
  | _ => true

namespace Run

theorem bind_of_ok {α β : Type} {step : Run α} {next : α → Run β} {before between : World} {a : α}
    (ran : step before = .ok a between) : (step >>= next) before = next a between := by
  simp only [bind, EStateM.bind, ran]

/-- A step that gives something and leaves the state as it is. -/
def Reads {α : Type} (step : Run α) : Prop := ∀ before, ∃ a, step before = .ok a before

namespace Reads

variable {α β : Type}

theorem pure (a : α) : Reads (Pure.pure a) := fun _ => ⟨a, rfl⟩

theorem bind {step : Run α} {next : α → Run β} (reads : Reads step)
    (goesOn : ∀ a, Reads (next a)) : Reads (step >>= next) := by
  intro before
  obtain ⟨a, ran⟩ := reads before
  obtain ⟨b, ran'⟩ := goesOn a before
  refine ⟨b, ?_⟩
  simp only [Bind.bind, EStateM.bind, ran, ran']

theorem mapM {f : α → Run β} (reads : ∀ a, Reads (f a)) (l : List α) : Reads (l.mapM f) := by
  induction l with
  | nil => exact .pure []
  | cons a rest ih =>
    rw [List.mapM_cons]
    exact (reads a).bind fun _ => ih.bind fun _ => .pure _

theorem eq {step : Run α} (reads : Reads step) {a : α} {before after : World}
    (ran : step before = .ok a after) : after = before := by
  obtain ⟨b, same⟩ := reads before
  cases same.symm.trans ran
  rfl

end Reads

theorem reads_cellAt (address : Nat) : Reads (cellAt address) := fun _ => ⟨_, rfl⟩

theorem cellAt_eq {address : Nat} {cell : Cell} {w : World} (found : w.heap[address]? = some cell) :
    cellAt address w = .ok cell w := by
  simp only [cellAt, found, Option.getD_some]

theorem reads_cell? (v : Value) : Reads (cell? v) := by
  cases v
  case ref address => exact (reads_cellAt address).bind fun _ => .pure _
  all_goals exact .pure none

theorem reads_entries? (v : Value) : Reads (entries? v) := by
  refine (reads_cell? v).bind fun cell => ?_
  split
  · exact .pure _
  · refine (reads_cellAt _).bind fun cell => ?_
    split <;> exact .pure _
  · exact .pure _

/-- How many turns there are is settled before the first. -/
theorem reads_turnsOf (it : Value) : Reads (turnsOf it) := by
  refine (reads_cell? it).bind fun cell => ?_
  split
  · refine (reads_cellAt _).bind fun cell => ?_
    split <;> exact .pure _
  · exact .pure _

theorem isCallable_eq (v : Value) (w : World) :
    isCallable v w = .ok (v.isCallableIn w.heap) w := by
  cases v
  case builtin f => cases f <;> rfl
  case ref address =>
    simp only [isCallable, Value.isCallableIn, cellAt, bind, EStateM.bind]
    cases (w.heap[address]?).getD (.namespace []) <;> rfl
  all_goals rfl

theorem isThenable_eq (v : Value) (w : World) :
    isThenable v w = .ok (v.isThenableIn w.heap) w := by
  cases v
  case ref address =>
    simp only [isThenable, Value.isThenableIn, cellAt, bind, EStateM.bind]
    cases (w.heap[address]?).getD (.namespace []) with
    | dict entries isExports =>
      cases isExports with
      | false => rfl
      | true =>
        dsimp only
        cases entries.find? fun e => e.1.sameKey (.text "then") with
        | none => rfl
        | some entry => exact isCallable_eq entry.2 w
    | _ => rfl
  all_goals rfl

theorem isError_eq (raised : Value) (w : World) :
    isError raised w = .ok (raised.isErrorIn w.heap) w := by
  cases raised
  case ref address =>
    simp only [isError, Value.isErrorIn, cell?, cellAt, bind, EStateM.bind, pure, EStateM.pure]
    cases (w.heap[address]?).getD (.namespace []) <;> rfl
  all_goals rfl

theorem resolve_eq (v : Value) (w : World) :
    resolve v w = if v.isThenableIn w.heap then .ok v w else newPromise false v w := by
  simp only [resolve, bind, EStateM.bind, isThenable_eq]
  split <;> rfl

/-- A promise is resolved with itself. -/
theorem resolve_promise (number : Nat) (rejected : Bool) (payload : Value) (w : World) :
    resolve (.promise number rejected payload) w = .ok (.promise number rejected payload) w := by
  rw [resolve_eq]
  rfl

theorem resolve_plain {v : Value} {w : World} (plain : v.isThenableIn w.heap = false) :
    resolve v w = newPromise false v w := by
  rw [resolve_eq, plain]
  rfl

/-- A callback that returns makes what its value resolves to. -/
theorem settle_returned {callback : Value → Run Value} {arg v : Value} {before between : World}
    (returns : callback arg before = .ok v between) :
    settle callback arg before = resolve v between := by
  simp only [settle, catching, bind, EStateM.bind, returns]

/-- A callback that raises an error makes a rejection with it. -/
theorem settle_raised {callback : Value → Run Value} {arg error : Value} {before between : World}
    (raises : callback arg before = .error (.raised error) between)
    (isError : error.isErrorIn between.heap = true) :
    settle callback arg before = newPromise true error between := by
  simp only [settle, catching, bind, EStateM.bind, raises, isError_eq, isError, if_true, reject]

/-- What is no error goes through. -/
theorem settle_through {callback : Value → Run Value} {arg raised : Value} {before between : World}
    (raises : callback arg before = .error (.raised raised) between)
    (noError : raised.isErrorIn between.heap = false) :
    settle callback arg before = .error (.raised raised) between := by
  simp only [settle, catching, bind, EStateM.bind, raises, isError_eq, noError,
    Bool.false_eq_true, if_false]
  rfl

theorem settle_exhausted {callback : Value → Run Value} {arg : Value} {before between : World}
    (endless : callback arg before = .error .exhausted between) :
    settle callback arg before = .error .exhausted between := by
  simp only [settle, catching, bind, EStateM.bind, endless]

/-- From a state, a call gives nothing that there would be anything left to settle of: what it
returns counts as a promise, and what it raises is no error. -/
def IsSettled (call : Run Value) (before : World) : Prop :=
  match call before with
  | .ok v after => v.isThenableIn after.heap = true
  | .error (.raised error) after => error.isErrorIn after.heap = false
  | .error .exhausted _ => True

theorem resolve_thenable {v : Value} {w : World} (thenable : v.isThenableIn w.heap = true) :
    resolve v w = .ok v w := by
  rw [resolve_eq, if_pos thenable]

/-- A callback whose call is settled is settled as it is. -/
theorem settle_eq_self {callback : Value → Run Value} {arg : Value} {before : World}
    (settled : IsSettled (callback arg) before) :
    settle callback arg before = callback arg before := by
  cases called : callback arg before with
  | ok v after =>
    rw [IsSettled, called] at settled
    rw [settle_returned called, resolve_thenable settled]
  | error trouble after =>
    cases trouble with
    | raised error =>
      rw [IsSettled, called] at settled
      exact settle_through called settled
    | exhausted => exact settle_exhausted called

theorem resolve_isSettled (v : Value) (w : World) : IsSettled (resolve v) w := by
  rw [IsSettled, resolve_eq]
  by_cases thenable : v.isThenableIn w.heap = true
  · rw [if_pos thenable]
    exact thenable
  · rw [if_neg thenable]
    rfl

theorem settle_isSettled (callback : Value → Run Value) (arg : Value) (before : World) :
    IsSettled (settle callback arg) before := by
  cases called : callback arg before with
  | ok v between =>
    rw [IsSettled, settle_returned called]
    exact resolve_isSettled v between
  | error trouble between =>
    cases trouble with
    | raised error =>
      cases isError : error.isErrorIn between.heap with
      | true =>
        rw [IsSettled, settle_raised called isError]
        rfl
      | false =>
        rw [IsSettled, settle_through called isError]
        exact isError
    | exhausted =>
      rw [IsSettled, settle_exhausted called]
      trivial

/-- What counts as a promise goes on to what is settled. -/
theorem chain_isSettled (f g : Option (Value → Run Value)) {promise : Value} {w : World}
    (thenable : promise.isThenableIn w.heap = true) : IsSettled (chain f g promise) w := by
  cases promise
  case promise number isRejected payload =>
    cases isRejected with
    | false =>
      cases f with
      | none => rfl
      | some f => exact settle_isSettled f payload w
    | true =>
      cases g with
      | none => rfl
      | some g => exact settle_isSettled g payload w
  all_goals exact thenable

theorem bind_isSettled {call : Run Value} {next : Value → Run Value} {before : World}
    (settled : IsSettled call before)
    (goesOn : ∀ v after, v.isThenableIn after.heap = true → IsSettled (next v) after) :
    IsSettled (call >>= next) before := by
  simp only [IsSettled, bind, EStateM.bind] at settled ⊢
  cases called : call before with
  | ok v after =>
    rw [called] at settled
    exact goesOn v after settled
  | error trouble after =>
    rw [called] at settled
    exact settled

/-- What follows a callback may be put into it, after what it gives has been resolved. -/
theorem settle_bind_chain (f g : Value → Run Value) (arg : Value) :
    (settle f arg >>= chain (some g) none) =
      settle (fun x => f x >>= fun r => resolve r >>= chain (some g) none) arg := by
  funext before
  cases called : f arg before with
  | ok r between =>
    have inner : (f arg >>= fun r => resolve r >>= chain (some g) none) before =
        (resolve r >>= chain (some g) none) between := by
      simp only [bind, EStateM.bind, called]
    have settled : IsSettled (f arg >>= fun r => resolve r >>= chain (some g) none) before := by
      rw [IsSettled, inner]
      exact bind_isSettled (resolve_isSettled r between) fun _ _ => chain_isSettled (some g) none
    rw [settle_eq_self settled, inner]
    simp only [bind, EStateM.bind, settle_returned called]
  | error trouble between =>
    have inner : (f arg >>= fun r => resolve r >>= chain (some g) none) before =
        .error trouble between := by
      simp only [bind, EStateM.bind, called]
    cases trouble with
    | raised error =>
      cases isError : error.isErrorIn between.heap with
      | true =>
        rw [settle_raised inner isError]
        simp only [bind, EStateM.bind, settle_raised called isError]
        rfl
      | false =>
        rw [settle_through inner isError]
        simp only [bind, EStateM.bind, settle_through called isError]
    | exhausted =>
      rw [settle_exhausted inner]
      simp only [bind, EStateM.bind, settle_exhausted called]

/-- A chain of two callbacks is a chain of one, which calls the second on what the first gives. A
promise of a plain value hands it to a callback, and goes on to what that gives or to a rejection
with what it raises. Handed the making of promises, a promise goes on to one that has settled in the
same way. -/
theorem chain_laws :
    (∀ (f g : Value → Run Value) (number : Nat) (isRejected : Bool) (payload : Value),
      (chain (some f) none (.promise number isRejected payload) >>= chain (some g) none) =
        chain (some fun x => f x >>= fun r => resolve r >>= chain (some g) none) none
          (.promise number isRejected payload)) ∧
    (∀ (f : Value → Run Value) (v : Value) (before : World), v.isThenableIn before.heap = false →
      ∃ made promise, resolve v before = .ok promise made ∧
        (∀ r after, f v made = .ok r after →
          chain (some f) none promise made = resolve r after) ∧
        ∀ error after, f v made = .error (.raised error) after → error.isErrorIn after.heap = true →
          chain (some f) none promise made = reject error after) ∧
    ∀ (number : Nat) (isRejected : Bool) (payload : Value) (before : World),
      isRejected = true ∨ payload.isThenableIn before.heap = false →
      ∃ number' after, chain (some resolve) none (.promise number isRejected payload) before =
          .ok (.promise number' isRejected payload) after ∧
        after.heap = before.heap := by
  refine ⟨fun f g number isRejected payload => ?assoc, fun f v before plain => ?handed,
    fun number isRejected payload before ordinary => ?same⟩
  case assoc =>
    cases isRejected with
    | true => rfl
    | false => exact settle_bind_chain f g payload
  case handed =>
    refine ⟨_, _, resolve_plain plain, ?_, ?_⟩
    · exact fun r after returns => settle_returned returns
    · exact fun error after raises isError => settle_raised raises isError
  case same =>
    cases isRejected with
    | true => exact ⟨number, before, rfl, rfl⟩
    | false =>
      have plain : payload.isThenableIn before.heap = false := by simpa using ordinary
      have settled := settle_eq_self (resolve_isSettled payload before)
      exact ⟨_, _, settled.trans (resolve_plain plain), rfl⟩

/-- A promise of a number, handed to a callback that rejects it and to the making of promises. -/
theorem chain_laws_number :
    ∃ made promise rejected number after,
      resolve (.int 1) default = .ok promise made ∧
      chain (some reject) none promise made = .ok (.promise made.promises true (.int 1)) rejected ∧
      chain (some resolve) none (.promise 0 false (.int 1)) default =
        .ok (.promise number false (.int 1)) after := by
  obtain ⟨-, handed, same⟩ := chain_laws
  obtain ⟨made, promise, resolved, returns, -⟩ := handed reject (.int 1) default rfl
  obtain ⟨number, after, passed, -⟩ := same 0 false (.int 1) default (.inr rfl)
  exact ⟨made, promise, _, number, after, resolved, returns _ _ rfl, passed⟩

end Run

end PhaseScript.Machine
