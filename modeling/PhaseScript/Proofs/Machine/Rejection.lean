import PhaseScript.Machine.Execution
import PhaseScript.Proofs.Machine.Promise
/-
Rejections. A script makes promises, and chains others to them, by calls; however it does so, a
rejection that no callback has taken is a rejected promise in the end, and it still holds what was
rejected with.
-/
set_option autoImplicit false

namespace PhaseScript.Machine

namespace Run

/-- A call that is noted is the call. -/
theorem noted_eq_ok {part : Run Value} {v : Value} {before after : World}
    (success : noted part before = .ok v after) : ∃ between, part before = .ok v between := by
  simp only [noted, bind, EStateM.bind] at success
  cases ran : part before with
  | error trouble between =>
    rw [ran] at success
    cases success
  | ok found between =>
    rw [ran] at success
    dsimp only at success
    split at success
    · cases success
      exact ⟨between, rfl⟩
    · cases success

theorem callValue_reject (m : Interp) (error : Value) :
    callValue m (.builtin .reject) [error] [] = newPromise true error := rfl

theorem callValue_resolve (m : Interp) (v : Value) :
    callValue m (.builtin .resolve) [v] [] = resolve v := rfl

theorem callValue_allOf (m : Interp) (items : Value) :
    callValue m (.builtin .allOf) [items] [] = allOf m items := rfl

end Run

/-- A link of a chain: the callbacks that a promise is handed. -/
inductive Link where
  | onFulfilled (f : Value)
  | onEither (f g : Value)
  | onRejected (g : Value)

namespace Link

/-- The method that takes the callbacks. -/
def name : Link → Text
  | .onFulfilled _ | .onEither _ _ => "then"
  | .onRejected _ => "catch"

def args : Link → List Value
  | .onFulfilled f => [f]
  | .onEither f g => [f, g]
  | .onRejected g => [g]

/-- The callback for the way in which a promise has settled. Of those that may be left out, one
that is none is. -/
def callback? : Link → Bool → Option Value
  | .onFulfilled f, false | .onEither f _, false => given? f
  | .onEither _ g, true => given? g
  | .onRejected g, true => some g
  | .onFulfilled _, true | .onRejected _, false => none
where
  given? : Value → Option Value
    | .none => none
    | f => some f

theorem callback?_onFulfilled {f : Value} (some_ : f ≠ .none) :
    (onFulfilled f).callback? false = some f := by
  cases f
  case none => exact absurd rfl some_
  all_goals rfl

end Link

/-- Hands a promise the callbacks of a link by a call of its method. -/
abbrev Interp.link (m : Interp) (link : Link) (mark : Nat) (promise : Value) : Run Value :=
  m.call (.method promise link.name mark) link.args []

namespace Run

/-- What a link makes of a promise: with a callback what that comes to, and else the promise. -/
def linked (m : Interp) (link : Link) (number : Nat) (isRejected : Bool) (payload : Value) :
    Run Value :=
  match link.callback? isRejected with
  | some f => settle (fun v => m.apply f [v]) payload
  | none => return .promise number isRejected payload

theorem callback?_eq (m : Interp) (f : Value) :
    callback? m f = (Link.callback?.given? f).map fun f v => m.apply f [v] := by
  cases f <;> rfl

theorem callValue_then (m : Interp) (number mark : Nat) (rejected : Bool) (payload f : Value) :
    callValue m (.method (.promise number rejected payload) "then" mark) [f] [] =
      chain (callback? m f) none (.promise number rejected payload) >>= freshUnmarked := rfl

theorem callValue_thenElse (m : Interp) (number mark : Nat) (rejected : Bool)
    (payload f g : Value) :
    callValue m (.method (.promise number rejected payload) "then" mark) [f, g] [] =
      chain (callback? m f) (callback? m g) (.promise number rejected payload) >>=
        freshUnmarked := rfl

theorem callValue_catch (m : Interp) (number mark : Nat) (rejected : Bool) (payload g : Value) :
    callValue m (.method (.promise number rejected payload) "catch" mark) [g] [] =
      chain none (some fun v => m.apply g [v]) (.promise number rejected payload) >>=
        freshUnmarked := rfl

/-- A promise is handed callbacks by a call of its method. -/
theorem callValue_link (m : Interp) (link : Link) (number mark : Nat) (isRejected : Bool)
    (payload : Value) :
    callValue m (.method (.promise number isRejected payload) link.name mark) link.args [] =
      linked m link number isRejected payload >>= freshUnmarked := by
  have chained (f : Option Value) (g : Option Value) :
      chain (f.map fun f v => m.apply f [v]) (g.map fun g v => m.apply g [v])
          (.promise number isRejected payload) =
        match (if isRejected then g else f) with
        | some f => settle (fun v => m.apply f [v]) payload
        | none => return .promise number isRejected payload := by
    cases isRejected <;> cases f <;> cases g <;> rfl
  cases link with
  | onFulfilled f =>
    rw [Link.name, Link.args, callValue_then, callback?_eq]
    refine congrArg (· >>= freshUnmarked) ((chained _ none).trans ?_)
    cases isRejected <;> rfl
  | onEither f g =>
    rw [Link.name, Link.args, callValue_thenElse, callback?_eq, callback?_eq]
    refine congrArg (· >>= freshUnmarked) ((chained _ _).trans ?_)
    cases isRejected <;> rfl
  | onRejected g =>
    refine (callValue_catch m number mark isRejected payload g).trans ?_
    refine congrArg (· >>= freshUnmarked) ((chained none (some g)).trans ?_)
    cases isRejected <;> rfl

/-- A callback that raises makes a rejection with what it raises, if it makes anything. -/
theorem settle_raised_eq_ok {callback : Value → Run Value} {arg error p : Value}
    {before between after : World} (raises : callback arg before = .error (.raised error) between)
    (success : settle callback arg before = .ok p after) :
    ∃ number, p = .promise number true error := by
  cases isError : error.isErrorIn between.heap with
  | false =>
    rw [settle_through raises isError] at success
    cases success
  | true =>
    rw [settle_raised raises isError] at success
    cases success
    exact ⟨_, rfl⟩

/-- A callback that gives a promise makes that promise. -/
theorem settle_promise {callback : Value → Run Value} {arg : Value} {before between : World}
    {number : Nat} {rejected : Bool} {payload : Value}
    (gives : callback arg before = .ok (.promise number rejected payload) between) :
    settle callback arg before = .ok (.promise number rejected payload) between :=
  (settle_returned gives).trans (resolve_promise number rejected payload between)

/-- One turn of gathering. -/
def gatherStep (found : Gathered) (item : Value) : Run (Gathered × Bool) := do
  match found with
  | .error e => return (.error e, true)
  | .ok found => match gather found item with
    | .error e => return (.error e, true)
    | .ok found => return (.ok found, false)

theorem allOf_eq (m : Interp) (items : Value) : allOf m items = (do
    let it ← iterator items
    match ← foldItems m gatherStep it (.ok []) with
    | .error rejection => return rejection
    | .ok found => do newPromise false (← newList found.reverse)) := rfl

/-- One turn of gathering from an iterator. -/
def gatherTurn (m : Interp) (it : Value) (found : Gathered) : Run (Except Gathered Gathered) := do
  match ← nextItem m it with
  | none => return .ok found
  | some v =>
    let (found, isLast) ← gatherStep found v
    return if isLast then .ok found else .error found

theorem foldItems_gather (m : Interp) (it : Value) (found : Gathered) :
    foldItems m gatherStep it found = (do
      let turns ← turnsOf it
      loop (gatherTurn m it) turns found) := rfl

end Run

/-- The rejection that is the first one among the items of an iterator. -/
inductive FirstRejected (m : Interp) (it : Value) : World → Value → Prop
  | here {number : Nat} {error : Value} {before after : World}
      (next : Run.nextItem m it before = .ok (some (.promise number true error)) after) :
      FirstRejected m it before (.promise number true error)
  | later {item rejection : Value} {before between : World}
      (next : Run.nextItem m it before = .ok (some item) between)
      (other : ∀ number error, item ≠ .promise number true error)
      (first : FirstRejected m it between rejection) :
      FirstRejected m it before rejection

namespace Run

theorem gather_other {item : Value} (other : ∀ number error, item ≠ .promise number true error)
    (found : List Value) : ∃ more, gather found item = .ok more := by
  cases item
  case promise number rejected payload =>
    cases rejected with
    | true => exact absurd rfl (other number payload)
    | false => exact ⟨_, rfl⟩
  all_goals exact ⟨_, rfl⟩

theorem loop_firstRejected {m : Interp} {it rejection : Value} {before : World}
    (first : FirstRejected m it before rejection) :
    ∀ {found : List Value} {fuel : Nat} {gathered : Gathered} {after : World},
      loop (gatherTurn m it) fuel (.ok found) before = .ok gathered after →
        gathered = .error rejection := by
  -- By the items before the rejection, each of which takes a turn and a unit of fuel. What has
  -- been found until then is lost.
  induction first with
  | here next =>
    intro found fuel gathered after success
    cases fuel with
    | zero => cases success
    | succ fuel =>
      simp only [loop, gatherTurn, bind, EStateM.bind, next, gatherStep, gather, pure,
        EStateM.pure,
        if_true] at success
      cases success
      rfl
  | later next other first ih =>
    intro found fuel gathered after success
    cases fuel with
    | zero => cases success
    | succ fuel =>
      obtain ⟨more, took⟩ := gather_other other found
      simp only [loop, gatherTurn, bind, EStateM.bind, next, gatherStep, took, pure, EStateM.pure,
        Bool.false_eq_true, if_false] at success
      exact ih success

theorem allOf_firstRejected {m : Interp} {items it rejection p : Value}
    {before between after : World} (iterates : iterator items before = .ok it between)
    (first : FirstRejected m it between rejection) (success : allOf m items before = .ok p after) :
    p = rejection := by
  rw [allOf_eq] at success
  simp only [bind, EStateM.bind, iterates] at success
  split at success
  · next gathered w ran =>
    obtain ⟨turns, told⟩ := reads_turnsOf it between
    rw [foldItems_gather, bind_of_ok told] at ran
    rw [loop_firstRejected first ran] at success
    cases success
    rfl
  · cases success

end Run

open Run (interp)

/-- The promises that a chain may end in whose rejection with `error` no callback has taken. -/
inductive Rejection (error : Value) : Value → Prop
  /-- A promise is rejected with the error. -/
  | rejected {depth : Nat} {before after : World} {promise : Value}
      (called : (interp depth).call (.builtin .reject) [error] [] before = .ok promise after) :
      Rejection error promise
  /-- A promise is resolved with a rejection. -/
  | resolved {depth : Nat} {before after : World} {earlier promise : Value}
      (rejection : Rejection error earlier)
      (called : (interp depth).call (.builtin .resolve) [earlier] [] before = .ok promise after) :
      Rejection error promise
  /-- A link without a callback for a rejection. -/
  | passed {depth number mark : Nat} {isRejected : Bool} {payload promise : Value} {link : Link}
      {before after : World} (rejection : Rejection error (.promise number isRejected payload))
      (untaken : link.callback? isRejected = none)
      (called : (interp depth).link link mark (.promise number isRejected payload) before =
        .ok promise after) :
      Rejection error promise
  /-- A callback raises the error. -/
  | raised {depth number mark : Nat} {isRejected : Bool} {payload callback promise : Value}
      {link : Link} {before between after : World}
      (taken : link.callback? isRejected = some callback)
      (raises : (interp depth).call callback [payload] [] before =
        .error (.raised error) between)
      (called : (interp (depth + 1)).link link mark (.promise number isRejected payload) before =
        .ok promise after) :
      Rejection error promise
  /-- A callback gives a rejection. -/
  | returned {depth number mark : Nat} {isRejected : Bool} {payload callback given promise : Value}
      {link : Link} {before between after : World}
      (taken : link.callback? isRejected = some callback)
      (gives : (interp depth).call callback [payload] [] before = .ok given between)
      (rejection : Rejection error given)
      (called : (interp (depth + 1)).link link mark (.promise number isRejected payload) before =
        .ok promise after) :
      Rejection error promise
  /-- The first rejection among promises that are gathered. -/
  | gathered {depth : Nat} {items iterator rejection promise : Value} {before between after : World}
      (iterates : Run.iterator items before = .ok iterator between)
      (first : FirstRejected (interp depth) iterator between rejection)
      (rejection : Rejection error rejection)
      (called : (interp (depth + 1)).call (.builtin .allOf) [items] [] before = .ok promise after) :
      Rejection error promise

/-- A call at a depth is a call of the machine below. -/
theorem interp_call_eq_ok {depth : Nat} {f v : Value} {args : List Value} {before after : World}
    (called : (interp depth).call f args [] before = .ok v after) :
    ∃ below between, depth = below + 1 ∧
      Run.callValue (interp below) f args [] before = .ok v between := by
  cases depth with
  | zero => cases called
  | succ below =>
    obtain ⟨between, ran⟩ := Run.noted_eq_ok called
    exact ⟨below, between, rfl, ran⟩

/-- A link makes something, and if that is a promise, gives that promise. -/
theorem link_call_promise {depth : Nat} {link : Link} {number mark : Nat} {isRejected : Bool}
    {payload given : Value} {before after : World}
    (called : (interp depth).link link mark (.promise number isRejected payload) before =
      .ok given after) :
    ∃ below made between, depth = below + 1 ∧
      Run.linked (interp below) link number isRejected payload before = .ok made between ∧
      ∀ {number' isRejected' payload'}, made = .promise number' isRejected' payload' →
        given = .promise number' isRejected' payload' := by
  obtain ⟨below, noted, same, ran⟩ := interp_call_eq_ok called
  rw [Run.callValue_link] at ran
  simp only [bind, EStateM.bind] at ran
  cases linked : Run.linked (interp below) link number isRejected payload before with
  | error trouble between =>
    rw [linked] at ran
    cases ran
  | ok made between =>
    refine ⟨below, made, between, same, linked, fun isPromise => ?_⟩
    rw [linked, isPromise] at ran
    cases ran
    rfl

/-- However a rejection is come by, it is a rejected promise that holds the error. -/
theorem Rejection.eq_promise {error promise : Value} (rejection : Rejection error promise) :
    ∃ number, promise = .promise number true error := by
  induction rejection with
  | rejected called =>
    obtain ⟨below, between, -, ran⟩ := interp_call_eq_ok called
    rw [Run.callValue_reject] at ran
    cases ran
    exact ⟨_, rfl⟩
  | resolved rejection called ih =>
    -- What it is resolved with is a promise itself, so it is that promise.
    obtain ⟨number, rfl⟩ := ih
    obtain ⟨below, between, -, ran⟩ := interp_call_eq_ok called
    rw [Run.callValue_resolve] at ran
    cases ran
    exact ⟨_, rfl⟩
  | passed rejection untaken called ih =>
    obtain ⟨number, same⟩ := ih
    obtain ⟨rfl, rfl, rfl⟩ := Value.promise.inj same
    obtain ⟨below, made, between, -, linked, given⟩ := link_call_promise called
    rw [Run.linked, untaken] at linked
    cases linked
    exact ⟨_, given rfl⟩
  | raised taken raises called =>
    obtain ⟨below, made, between, same, linked, given⟩ := link_call_promise called
    obtain rfl := Nat.succ.inj same
    rw [Run.linked, taken] at linked
    obtain ⟨number, rfl⟩ := Run.settle_raised_eq_ok raises linked
    exact ⟨number, given rfl⟩
  | returned taken gives rejection called ih =>
    obtain ⟨number, rfl⟩ := ih
    obtain ⟨below, made, between, same, linked, given⟩ := link_call_promise called
    obtain rfl := Nat.succ.inj same
    rw [Run.linked, taken] at linked
    cases (Run.settle_promise gives).symm.trans linked
    exact ⟨_, given rfl⟩
  | gathered iterates first rejection called ih =>
    obtain ⟨below, between, same, ran⟩ := interp_call_eq_ok called
    obtain rfl := Nat.succ.inj same
    rw [Run.callValue_allOf] at ran
    rw [Run.allOf_firstRejected iterates first ran]
    exact ih

end PhaseScript.Machine
