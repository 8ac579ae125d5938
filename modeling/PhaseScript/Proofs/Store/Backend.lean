import PhaseScript.Store.Backend
/-
Runs of the service and its server. The server goes up and down while the service asks for its
connection, its store or its health, in any order and any number of times. All that it answers
follows from two facts: whether the server is up, and how it was found when it was first tried.
-/
set_option autoImplicit false

namespace PhaseScript

/-- What can happen: the server goes up or down, or the service asks for something. -/
inductive BackendStep where
  | up
  | down
  | connect
  | ping
  | choose
  | check
  | ready
  deriving DecidableEq, Repr, Inhabited

/-- The state after a step. -/
def BackendStep.next (backend : Backend) : BackendStep → BackendState → BackendState
  | .up, s => s.withServer true
  | .down, s => s.withServer false
  | .connect, s => (backend.connect s).2
  | .ping, s => (backend.pingServer s).2
  | .choose, s => (backend.choose s).2
  | .check, s => (backend.checkStorage s).2
  | .ready, s => (backend.failures s).2

/-- Whether the server is up after some steps. -/
def serverAfter (isUp : Bool) : List BackendStep → Bool
  | [] => isUp
  | .up :: steps => serverAfter true steps
  | .down :: steps => serverAfter false steps
  | _ :: steps => serverAfter isUp steps

/-- Whether the server was up at the first step that asked for something, if any did. -/
def firstAttempt (isUp : Bool) : List BackendStep → Option Bool
  | [] => none
  | .up :: steps => firstAttempt true steps
  | .down :: steps => firstAttempt false steps
  | _ :: _ => some isUp

/-- What the answers follow from: whether the server is up, and how it was found at the first
attempt to reach it, if there was one. -/
structure ServerView where
  isUp : Bool
  attempt : Option Bool

namespace ServerView

/-- The view once something has been asked for. Without a server nothing is attempted. -/
def asked (kind : BackendKind) (view : ServerView) : ServerView :=
  match kind with
  | .memory => view
  | .redis => { view with attempt := some (view.attempt.getD view.isUp) }

/-- The view after a step. -/
def next (kind : BackendKind) (view : ServerView) : BackendStep → ServerView
  | .up => { view with isUp := true }
  | .down => { view with isUp := false }
  | _ => view.asked kind

/-- The one store that is made. -/
def store (view : ServerView) : MadeStore :=
  ⟨if view.attempt = some true then .redis else .memory, 0⟩

@[simp] theorem asked_isUp (kind : BackendKind) (view : ServerView) :
    (view.asked kind).isUp = view.isUp := by
  cases kind <;> rfl

@[simp] theorem asked_asked (kind : BackendKind) (view : ServerView) :
    (view.asked kind).asked kind = view.asked kind := by
  cases kind <;> rfl

theorem asked_redis (view : ServerView) :
    (view.asked .redis).attempt = some (view.attempt.getD view.isUp) := rfl

end ServerView

namespace Backend

/-- The state after some steps. -/
def after (backend : Backend) (isUp : Bool) (steps : List BackendStep) : BackendState :=
  steps.foldl (fun s step => step.next backend s) (BackendState.start isUp)

/-- A state in which nothing has been decided but what a view tells. -/
structure Shows (backend : Backend) (view : ServerView) (s : BackendState) : Prop where
  server : s.database.isUp = view.isUp
  reached : backend.kind = .redis → s.connection = view.attempt
  apart : backend.kind = .memory → s.connection ≠ some true ∧ view.attempt = none
  sent : s.connectedTo = if view.attempt.isSome then [backend.redisUrl] else []
  chosen : ∀ store, s.choice = some store →
    store = view.store ∧ (backend.kind = .redis → view.attempt.isSome = true)
  unmade : s.choice = none → s.made = 0

theorem Shows.connectedTo_length_le {backend : Backend} {view : ServerView} {s : BackendState}
    (shows_ : backend.Shows view s) : s.connectedTo.length ≤ 1 := by
  rw [shows_.sent]
  cases view.attempt <;> simp

theorem shows_start (backend : Backend) (isUp : Bool) :
    backend.Shows ⟨isUp, none⟩ (BackendState.start isUp) where
  server := rfl
  reached _ := rfl
  apart _ := ⟨nofun, rfl⟩
  sent := rfl
  chosen _ := nofun
  unmade _ := rfl

/-- The server changes under a service that has decided what it has decided. -/
theorem Shows.withServer {backend : Backend} {view : ServerView} {s : BackendState}
    (shows_ : backend.Shows view s) (isUp : Bool) :
    backend.Shows { view with isUp } (s.withServer isUp) :=
  { shows_ with server := rfl }

/-- Only the first call tries to reach the server. -/
theorem connect_eq (backend : Backend) (s : BackendState) :
    backend.connect s = match s.connection, backend.kind with
      | some isConnected, _ => (isConnected, s)
      | none, .memory => (false, { s with connection := some false })
      | none, .redis => (s.database.isUp,
        { s with
          connection := some s.database.isUp
          connectedTo := s.connectedTo ++ [backend.redisUrl] }) := by
  obtain ⟨kind, redisUrl, keyStart⟩ := backend
  obtain ⟨database, memory, connection, choice, made, connectedTo⟩ := s
  cases connection <;> cases kind <;> rfl

theorem Shows.connect {backend : Backend} {view : ServerView} {s : BackendState}
    (shows_ : backend.Shows view s) :
    (backend.connect s).1 = (view.asked backend.kind).attempt.getD false ∧
      backend.Shows (view.asked backend.kind) (backend.connect s).2 := by
  rw [connect_eq]
  cases kind : backend.kind with
  | memory =>
    obtain ⟨notConnected, noAttempt⟩ := shows_.apart kind
    cases found : s.connection with
    | none =>
      refine ⟨by rw [ServerView.asked, noAttempt]; rfl, { shows_ with reached := ?_, apart := ?_ }⟩
      · exact fun isRedis => nomatch kind.symm.trans isRedis
      · exact fun _ => ⟨by simp, noAttempt⟩
    | some isConnected =>
      rw [found] at notConnected
      refine ⟨?_, shows_⟩
      cases isConnected with
      | true => exact absurd rfl notConnected
      | false => rw [ServerView.asked, noAttempt]; rfl
  | redis =>
    have reached := shows_.reached kind
    cases found : s.connection with
    | none =>
      have noAttempt : view.attempt = none := reached.symm.trans found
      refine ⟨by rw [ServerView.asked_redis, noAttempt, shows_.server]; rfl, ?_⟩
      refine { shows_ with reached := ?_, apart := ?_, sent := ?_, chosen := ?_ }
      · exact fun _ => by rw [ServerView.asked_redis, noAttempt, shows_.server]; rfl
      · exact fun isMemory => nomatch kind.symm.trans isMemory
      · rw [shows_.sent, ServerView.asked_redis, noAttempt]
        rfl
      · intro store chosen
        have attempted := (shows_.chosen store chosen).2 kind
        rw [noAttempt] at attempted
        cases attempted
    | some isConnected =>
      have attempted : view.attempt = some isConnected := reached.symm.trans found
      have same : view.asked .redis = view := by
        rw [ServerView.asked, attempted, Option.getD_some, ← attempted]
      rw [same, attempted]
      exact ⟨rfl, shows_⟩

theorem Shows.pingServer {backend : Backend} {view : ServerView} {s : BackendState}
    (shows_ : backend.Shows view s) :
    (backend.pingServer s).1 = ((view.asked backend.kind).attempt.getD false && view.isUp) ∧
      backend.Shows (view.asked backend.kind) (backend.pingServer s).2 := by
  obtain ⟨answer, after⟩ := shows_.connect
  have server := after.server
  rw [ServerView.asked_isUp] at server
  change ((backend.connect s).1 && (backend.connect s).2.database.isUp) = _ ∧
    backend.Shows _ (backend.connect s).2
  rw [answer, server]
  exact ⟨rfl, after⟩

/-- Whether entries can be kept in the server, which is tried only if they are to be. -/
def reach (backend : Backend) (s : BackendState) : Bool × BackendState :=
  match backend.kind with
  | .memory => (false, s)
  | .redis => backend.connect s

/-- The state once a store has been made. -/
def made (s : BackendState) (isConnected : Bool) : MadeStore × BackendState :=
  let store : MadeStore := ⟨if isConnected then .redis else .memory, s.made⟩
  (store, { s with choice := some store, made := s.made + 1 })

/-- Only the first call makes a store. -/
theorem choose_eq (backend : Backend) (s : BackendState) :
    backend.choose s = match s.choice with
      | some store => (store, s)
      | none => made (backend.reach s).2 (backend.reach s).1 := by
  obtain ⟨kind, redisUrl, keyStart⟩ := backend
  obtain ⟨database, memory, connection, choice, made, connectedTo⟩ := s
  cases choice <;> cases kind <;> rfl

theorem Shows.reach {backend : Backend} {view : ServerView} {s : BackendState}
    (shows_ : backend.Shows view s) :
    (backend.reach s).1 = (view.asked backend.kind).attempt.getD false ∧
      backend.Shows (view.asked backend.kind) (backend.reach s).2 := by
  unfold Backend.reach
  cases kind : backend.kind with
  | memory =>
    refine ⟨?_, shows_⟩
    rw [ServerView.asked, (shows_.apart kind).2]
    rfl
  | redis =>
    have connected := shows_.connect
    rwa [kind] at connected

/-- To reach the server makes no store. -/
theorem reach_keeps_choice (backend : Backend) (s : BackendState) :
    (backend.reach s).2.choice = s.choice := by
  unfold reach
  cases backend.kind with
  | memory => rfl
  | redis =>
    rw [connect_eq]
    cases s.connection <;> cases backend.kind <;> rfl

theorem Shows.choose {backend : Backend} {view : ServerView} {s : BackendState}
    (shows_ : backend.Shows view s) :
    (backend.choose s).1 = (view.asked backend.kind).store ∧
      backend.Shows (view.asked backend.kind) (backend.choose s).2 := by
  rw [choose_eq]
  cases found : s.choice with
  | some store =>
    obtain ⟨isThe, attempted⟩ := shows_.chosen store found
    have same : view.asked backend.kind = view := by
      cases kind : backend.kind with
      | memory => rfl
      | redis =>
        obtain ⟨isConnected, attempt⟩ := Option.isSome_iff_exists.mp (attempted kind)
        rw [ServerView.asked, attempt, Option.getD_some, ← attempt]
    rw [same]
    exact ⟨isThe, shows_⟩
  | none =>
    obtain ⟨answer, after⟩ := shows_.reach
    have unmade := after.unmade ((backend.reach_keeps_choice s).trans found)
    have isThe : (made (backend.reach s).2 (backend.reach s).1).1 =
        (view.asked backend.kind).store := by
      rw [made, unmade, answer, ServerView.store]
      cases (view.asked backend.kind).attempt with
      | none => rfl
      | some isConnected => cases isConnected <;> rfl
    refine ⟨isThe, { after with chosen := ?_, unmade := nofun }⟩
    intro store chosen
    refine ⟨(Option.some.inj chosen).symm.trans isThe, fun isRedis => ?_⟩
    rw [isRedis]
    rfl

/-- A store in memory always answers, one in the server as long as that is up. -/
theorem Shows.checkStorage {backend : Backend} {view : ServerView} {s : BackendState}
    (shows_ : backend.Shows view s) :
    (backend.checkStorage s).1 =
        ((view.asked backend.kind).store.kind == .memory || view.isUp) ∧
      backend.Shows (view.asked backend.kind) (backend.checkStorage s).2 := by
  obtain ⟨answer, after⟩ := shows_.choose
  have server := after.server
  rw [ServerView.asked_isUp] at server
  have run : backend.checkStorage s =
      match (backend.choose s).1.kind with
      | .memory => (true, (backend.choose s).2)
      | .redis => ((backend.choose s).2.database.isUp, (backend.choose s).2) := by
    change (match (backend.choose s).1.kind with
      | .memory => pure true
      | .redis => do return (← get).database.isUp : Deciding Bool) (backend.choose s).2 = _
    cases (backend.choose s).1.kind <;> rfl
  rw [run, answer, server]
  cases (view.asked backend.kind).store.kind <;> exact ⟨rfl, after⟩

/-- The names of the parts that do not answer. -/
def failedParts (storage server : Bool) : List Text :=
  ([(("storage" : Text), storage), ("redis", server)].filter fun part => !part.2).map (·.1)

theorem failures_eq (backend : Backend) (s : BackendState) :
    backend.failures s = match backend.kind with
      | .memory => (failedParts (backend.checkStorage s).1 true, (backend.checkStorage s).2)
      | .redis => (
        failedParts (backend.checkStorage s).1 (backend.pingServer (backend.checkStorage s).2).1,
        (backend.pingServer (backend.checkStorage s).2).2) := by
  unfold failures
  cases backend.kind <;> rfl

/-- What keeps the service from being ready. -/
theorem Shows.failures {backend : Backend} {view : ServerView} {s : BackendState}
    (shows_ : backend.Shows view s) :
    (backend.failures s).1 = (match backend.kind with
        | .memory => []
        | .redis => match (view.asked .redis).attempt, view.isUp with
          | some true, true => []
          | some true, false => ["storage", "redis"]
          | _, _ => ["redis"]) ∧
      backend.Shows (view.asked backend.kind) (backend.failures s).2 := by
  obtain ⟨storage, between⟩ := shows_.checkStorage
  obtain ⟨server, after⟩ := between.pingServer
  rw [ServerView.asked_asked, ServerView.asked_isUp] at server
  rw [ServerView.asked_asked] at after
  rw [failures_eq]
  cases kind : backend.kind with
  | memory =>
    rw [kind] at storage between
    refine ⟨?_, between⟩
    dsimp only
    rw [storage, ServerView.asked, ServerView.store, (shows_.apart kind).2]
    rfl
  | redis =>
    rw [kind] at storage server after
    refine ⟨?_, after⟩
    dsimp only
    rw [storage, server, ServerView.store, ServerView.asked_redis]
    cases view.attempt.getD view.isUp <;> cases view.isUp <;> rfl

/-- A step does to the state what it does to the view. -/
theorem Shows.next {backend : Backend} {view : ServerView} {s : BackendState}
    (shows_ : backend.Shows view s) (step : BackendStep) :
    backend.Shows (view.next backend.kind step) (step.next backend s) := by
  cases step with
  | up => exact shows_.withServer true
  | down => exact shows_.withServer false
  | connect => exact shows_.connect.2
  | ping => exact shows_.pingServer.2
  | choose => exact shows_.choose.2
  | check => exact shows_.checkStorage.2
  | ready => exact shows_.failures.2

theorem Shows.steps {backend : Backend} (steps : List BackendStep) {view : ServerView}
    {s : BackendState} (shows_ : backend.Shows view s) :
    backend.Shows (steps.foldl (ServerView.next backend.kind) view)
      (steps.foldl (fun s step => step.next backend s) s) := by
  induction steps generalizing view s with
  | nil => exact shows_
  | cons step steps ih => exact ih (shows_.next step)

end Backend

namespace ServerView

/-- The view after some steps, in words of the steps alone. -/
theorem foldl_next (kind : BackendKind) (steps : List BackendStep) (view : ServerView) :
    steps.foldl (next kind) view =
      ⟨serverAfter view.isUp steps,
        match kind with
        | .memory => view.attempt
        | .redis => view.attempt.or (firstAttempt view.isUp steps)⟩ := by
  induction steps generalizing view with
  | nil => cases kind <;> simp [serverAfter, firstAttempt]
  | cons step steps ih =>
    rw [List.foldl_cons, ih]
    obtain ⟨isUp, attempt⟩ := view
    cases step <;> cases kind <;> cases attempt <;> rfl

end ServerView

theorem firstAttempt_append (isUp : Bool) (first second : List BackendStep) :
    firstAttempt isUp (first ++ second) =
      (firstAttempt isUp first).or (firstAttempt (serverAfter isUp first) second) := by
  induction first generalizing isUp with
  | nil => rfl
  | cons step first ih => cases step <;> first | exact ih _ | rfl

namespace Backend

theorem shows_after (backend : Backend) (isUp : Bool) (steps : List BackendStep) :
    backend.Shows ⟨serverAfter isUp steps,
      match backend.kind with
      | .memory => none
      | .redis => firstAttempt isUp steps⟩ (backend.after isUp steps) := by
  have shows_ := (backend.shows_start isUp).steps steps
  rw [ServerView.foldl_next] at shows_
  cases kind : backend.kind <;> rwa [kind] at shows_

/-- Which server, store and health a run of the service shows: at most one attempt is made to reach
the server, all who ask get one and the same store, and how the server was found at that attempt
decides between the server and memory for good. While entries are kept in memory for want of the
server, the service is never ready. -/
theorem serves_as_first_found (backend : Backend) (isUp : Bool) (steps : List BackendStep) :
    (backend.after isUp steps).connectedTo.length ≤ 1 ∧
    (∀ more, (backend.choose (backend.after isUp (steps ++ .choose :: more))).1 =
      (backend.choose (backend.after isUp steps)).1) ∧
    match backend.kind with
    | .memory =>
      (backend.after isUp steps).connectedTo = [] ∧
      (backend.choose (backend.after isUp steps)).1.kind = .memory ∧
      (backend.failures (backend.after isUp steps)).1 = []
    | .redis =>
      ((backend.choose (backend.after isUp steps)).1.kind = .redis ↔
        firstAttempt isUp (steps ++ [.choose]) = some true) ∧
      (backend.failures (backend.after isUp steps)).1 =
        match firstAttempt isUp (steps ++ [.ready]), serverAfter isUp steps with
        | some true, true => []
        | some true, false => ["storage", "redis"]
        | _, _ => ["redis"] := by
  have shows_ := backend.shows_after isUp steps
  refine ⟨shows_.connectedTo_length_le, fun more => ?_, ?_⟩
  · rw [(backend.shows_after isUp (steps ++ .choose :: more)).choose.1, shows_.choose.1]
    cases backend.kind with
    | memory => rfl
    | redis =>
      simp only [ServerView.store, ServerView.asked_redis, firstAttempt_append, firstAttempt]
      cases firstAttempt isUp steps <;> rfl
  · cases kind : backend.kind with
    | memory =>
      rw [kind] at shows_
      refine ⟨shows_.sent, ?_, ?_⟩
      · rw [shows_.choose.1, kind]
        rfl
      · rw [shows_.failures.1, kind]
    | redis =>
      rw [kind] at shows_
      refine ⟨?_, ?_⟩
      · rw [shows_.choose.1, kind]
        simp only [ServerView.store, ServerView.asked_redis, firstAttempt_append, firstAttempt]
        cases firstAttempt isUp steps <;> simp
      · rw [shows_.failures.1, kind]
        simp only [ServerView.asked_redis, firstAttempt_append, firstAttempt]
        cases firstAttempt isUp steps <;> rfl

end Backend

end PhaseScript
