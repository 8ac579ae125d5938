import PhaseScript.Http.Session
/-
What becomes of the clients of a session over any run of requests and closings. A session owns
either all the clients that come to it or none: which of the two is settled when it is set up, by
whether it is given a client. So one that is given a client, is closed and is used again makes
clients that it never closes.
-/
set_option autoImplicit false

namespace PhaseScript.Http

/-- One use of a session. -/
inductive SessionUse where
  /-- A request. Should a client be made for it, that one answers as told. -/
  | request (client : Client) (method url : Datum) (headers : List (Datum × Datum)) (body : Datum)
  | close
  /-- Leaving the block that the session was entered for. -/
  | leave

/-- How many clients are made in the course of some uses, by whether there is one at hand before. -/
def SessionUse.clientsMade : Bool → List SessionUse → Nat
  | _, [] => 0
  | atHand, .request _ _ _ _ _ :: rest => (if atHand then 0 else 1) + clientsMade true rest
  | _, .close :: rest => clientsMade false rest
  | _, .leave :: rest => clientsMade false rest

namespace Session

/-- A session over a client that it is given, if there is one. -/
def begin (given : Option Client) (timeout : Option Datum) (client : Client) : Session :=
  match given with
  | none => own timeout client
  | some given => withClient given timeout client

/-- The session after one use, whether or not what was asked of it raised. -/
def use (s : Session) : SessionUse → Session
  | .request client method url headers body =>
    (({ s with client := client } : Session).request method url headers body).2
  | .close => s.close
  | .leave => s.leave

def after (s : Session) (uses : List SessionUse) : Session := uses.foldl use s

/-- What holds of a session at any time. At most the last of its connections is at hand, and that
one has not been closed; the others were closed once and for all if the session owns its clients,
and never if it does not. -/
structure Standing (owns : Bool) (made : Nat) (past : List Connection) (atHand : Option Connection)
    (s : Session) : Prop where
  ownership : s.ownsClients = owns
  connections : s.connections.toList = past ++ atHand.toList
  current : s.current = atHand.map fun _ => past.length
  unclosed : ∀ c ∈ atHand, c.closings = []
  closings : ∀ c ∈ past, c.closings = if owns then [c.exchange.sent.length] else []
  made : s.connections.toList.map (fun c => c.timeout.isSome) =
    (if owns then [] else [false]) ++ List.replicate made true

variable {owns : Bool} {made : Nat} {past : List Connection} {atHand : Option Connection}
  {s : Session}

theorem begin_standing (given : Option Client) (timeout : Option Datum) (client : Client) :
    ∃ atHand, atHand.isSome = given.isSome ∧
      Standing given.isNone 0 [] atHand (begin given timeout client) := by
  cases given with
  | none => exact ⟨none, rfl, rfl, rfl, rfl, nofun, nofun, rfl⟩
  | some given =>
    refine ⟨some ⟨none, ⟨given, []⟩, []⟩, rfl, rfl, rfl, rfl, ?_, nofun, rfl⟩
    rintro c ⟨rfl⟩
    rfl

theorem Standing.connected (h : Standing owns made past atHand s) :
    ∃ c next, s.connected = (next, past.length) ∧
      Standing owns (made + if atHand.isSome then 0 else 1) past (some c) next := by
  cases atHand with
  | some c =>
    have place : s.current = some past.length := h.current
    exact ⟨c, s, by simp only [Session.connected, place], h⟩
  | none =>
    have place : s.current = none := h.current
    have size : s.connections.size = past.length := by
      simpa using congrArg List.length h.connections
    have connected : s.connected =
        ({ s with
            connections := s.connections.push ⟨some s.timeout, ⟨s.client, []⟩, []⟩
            current := some past.length }, past.length) := by
      simp only [Session.connected, place, size]
    refine ⟨⟨some s.timeout, ⟨s.client, []⟩, []⟩, _, connected, h.ownership, ?_, rfl, ?_,
      h.closings, ?_⟩
    · simpa using h.connections
    · rintro c ⟨rfl⟩
      rfl
    · simp [h.made, List.replicate_succ']

/-- A request leaves a client at hand. It touches no other connection, and nothing of that one but
its exchange. -/
theorem Standing.request (h : Standing owns made past atHand s) (method url : Datum)
    (headers : List (Datum × Datum)) (body : Datum) :
    ∃ c, Standing owns (made + if atHand.isSome then 0 else 1) past (some c)
      (s.request method url headers body).2 := by
  obtain ⟨c, next, connected, h⟩ := h.connected
  have found : next.connections[past.length]? = some c := by
    rw [← Array.getElem?_toList, h.connections]
    simp
  obtain ⟨exchange, eq⟩ : ∃ exchange, (s.request method url headers body).2 =
      { next with
        connections := next.connections.setIfInBounds past.length { c with exchange } } := by
    simp only [Session.request, connected, found]
    exact ⟨_, rfl⟩
  rw [eq]
  refine ⟨{ c with exchange }, h.ownership, ?_, h.current, ?_, h.closings, ?_⟩
  · simp [h.connections]
  · rintro _ ⟨rfl⟩
    exact h.unclosed c rfl
  · rw [← h.made]
    simp [h.connections]

/-- Closing puts the connection at hand to the others, closed if the session owns it. -/
theorem Standing.close (h : Standing owns made past atHand s) :
    ∃ past, Standing owns made past none s.close := by
  cases atHand with
  | none =>
    have place : s.current = none := h.current
    have unchanged : s.close = s := by
      simp only [Session.close, place]
      rw [← place]
    exact ⟨past, unchanged ▸ h⟩
  | some c =>
    have place : s.current = some past.length := h.current
    have found : s.connections[past.length]? = some c := by
      rw [← Array.getElem?_toList, h.connections]
      simp
    have unclosed : c.closings = [] := h.unclosed c rfl
    refine ⟨past ++ [if owns then c.close else c], ?_⟩
    cases owns with
    | true =>
      simp only [Session.close, place, h.ownership, found, if_true]
      refine ⟨rfl, ?_, rfl, nofun, ?_, ?_⟩
      · simp [h.connections]
      · refine List.forall_mem_append.2 ⟨h.closings, List.forall_mem_singleton.2 ?_⟩
        simp [Connection.close, unclosed]
      · rw [← h.made]
        simp [h.connections, Connection.close]
    | false =>
      simp only [Session.close, place, h.ownership, Bool.false_eq_true, if_false]
      refine ⟨rfl, ?_, rfl, nofun, ?_, h.made⟩
      · simpa using h.connections
      · exact List.forall_mem_append.2 ⟨h.closings, List.forall_mem_singleton.2 unclosed⟩

theorem Standing.after (h : Standing owns made past atHand s) (uses : List SessionUse) :
    ∃ past atHand', Standing owns (made + SessionUse.clientsMade atHand.isSome uses) past atHand'
      (s.after uses) := by
  induction uses generalizing made past atHand s with
  | nil => exact ⟨past, atHand, h⟩
  | cons use rest ih =>
    cases use with
    | request client method url headers body =>
      have h : Standing owns made past atHand { s with client := client } :=
        ⟨h.ownership, h.connections, h.current, h.unclosed, h.closings, h.made⟩
      obtain ⟨c, h⟩ := h.request method url headers body
      obtain ⟨past, atHand', h⟩ := ih h
      exact ⟨past, atHand', by rw [SessionUse.clientsMade, ← Nat.add_assoc]; exact h⟩
    | close =>
      obtain ⟨past, h⟩ := h.close
      exact ih h
    | leave =>
      obtain ⟨past, h⟩ := h.close
      exact ih h

namespace Standing

theorem made_length (h : Standing owns made past atHand s) : s.made.length = made := by
  have count := congrArg (List.countP id) h.made
  simp only [List.countP_map, Function.id_comp, List.countP_append, List.countP_replicate] at count
  rw [Session.made, ← List.countP_eq_length_filter, count]
  cases owns <;> simp

theorem mem_of_made {c : Connection} (member : c ∈ s.made) : c ∈ s.connections :=
  ⟨(List.mem_filter.1 member).1⟩

theorem past_or_atHand (h : Standing owns made past atHand s) {c : Connection}
    (member : c ∈ s.connections) : c ∈ past ∨ c ∈ atHand := by
  have member : c ∈ s.connections.toList := member.val
  rwa [h.connections, List.mem_append, Option.mem_toList] at member

/-- A connection that was closed was closed once, with all that was sent over it sent before. -/
theorem closings_of_mem (h : Standing owns made past atHand s) {c : Connection}
    (member : c ∈ s.connections) : c.closings = [] ∨ c.closings = [c.exchange.sent.length] := by
  obtain member | member := h.past_or_atHand member
  · have closings := h.closings c member
    cases owns with
    | false => exact .inl closings
    | true => exact .inr closings
  · exact .inl (h.unclosed c member)

/-- A session that does not own its clients closes none. -/
theorem not_closed (h : Standing false made past atHand s) {c : Connection}
    (member : c ∈ s.connections) : c.closed = false := by
  have closings : c.closings = [] := (h.past_or_atHand member).elim (h.closings c) (h.unclosed c)
  rw [Connection.closed, closings]
  rfl

theorem past_closed (h : Standing true made past atHand s) {c : Connection} (member : c ∈ past) :
    c.closed = true := by
  rw [Connection.closed, h.closings c member]
  rfl

/-- A client that the session was given is not closed. -/
theorem given_not_closed (h : Standing owns made past atHand s) {c : Connection}
    (given : s.given? = some c) : c.closed = false := by
  cases owns with
  | false => exact h.not_closed ⟨List.mem_of_find?_eq_some given⟩
  | true =>
    have all : ∀ flag ∈ s.connections.toList.map fun c => c.timeout.isSome, flag = true := by
      rw [h.made]
      exact fun flag member => List.eq_of_mem_replicate member
    have made := all _ (List.mem_map_of_mem (List.mem_of_find?_eq_some given))
    have unmade := List.find?_some given
    rw [Option.isNone_iff_eq_none] at unmade
    rw [unmade] at made
    cases made

theorem all_made_closed_iff (h : Standing owns made past none s) :
    (∀ c ∈ s.made, c.closed = true) ↔ owns = true ∨ made = 0 := by
  cases owns with
  | true =>
    refine iff_of_true (fun c member => h.past_closed ?_) (.inl rfl)
    exact (h.past_or_atHand (mem_of_made member)).resolve_right nofun
  | false =>
    have absurd : ∀ c ∈ s.made, ¬c.closed = true := fun c member => by
      simp [h.not_closed (mem_of_made member)]
    rw [← h.made_length, List.length_eq_zero_iff, List.eq_nil_iff_forall_not_mem]
    constructor
    · exact fun closed => .inr fun c member => absurd c member (closed c member)
    · rintro (contra | none) c member
      · cases contra
      · exact (none c member).elim

theorem one_made_open_iff (h : Standing owns made past atHand s) :
    (s.made.filter fun c => !c.closed).length ≤ 1 ↔ owns = true ∨ made ≤ 1 := by
  cases owns with
  | true =>
    refine iff_of_true ?_ (.inl rfl)
    have closed : past.filter (fun c => !c.closed) = [] :=
      List.filter_eq_nil_iff.2 fun c member => by simp [h.past_closed member]
    calc (s.made.filter fun c => !c.closed).length
        ≤ (s.connections.toList.filter fun c => !c.closed).length :=
          (List.filter_sublist.filter _).length_le
      _ = (atHand.toList.filter fun c => !c.closed).length := by
          rw [h.connections, List.filter_append, closed, List.nil_append]
      _ ≤ atHand.toList.length := List.length_filter_le _ _
      _ ≤ 1 := by cases atHand <;> simp
  | false =>
    have all : s.made.filter (fun c => !c.closed) = s.made :=
      List.filter_eq_self.2 fun c member => by simp [h.not_closed (mem_of_made member)]
    rw [all, h.made_length]
    simp

end Standing

/-- Over any run of uses, no client is closed twice, none is used once it was closed, and one that
was given is never closed. But closing the session closes all clients that it made only if it was
given none or made none, and at most one of these is open only if it was given none or made one at
most. -/
theorem clients_closed_iff (given : Option Client) (timeout : Option Datum) (client : Client)
    (uses : List SessionUse) :
    let s := (begin given timeout client).after uses
    let made := SessionUse.clientsMade given.isSome uses
    (∀ c ∈ s.connections, c.closings = [] ∨ c.closings = [c.exchange.sent.length]) ∧
      (∀ c, s.given? = some c → c.closed = false) ∧
      s.made.length = made ∧
      ((∀ c ∈ s.close.made, c.closed = true) ↔ given = none ∨ made = 0) ∧
      ((s.made.filter fun c => !c.closed).length ≤ 1 ↔ given = none ∨ made ≤ 1) := by
  obtain ⟨atHand, isSome, standing⟩ := begin_standing given timeout client
  obtain ⟨past, atHand, standing⟩ := standing.after uses
  obtain ⟨past', closed⟩ := standing.close
  rw [isSome, Nat.zero_add] at standing closed
  refine ⟨fun c => standing.closings_of_mem, fun c => standing.given_not_closed,
    standing.made_length, ?_, ?_⟩
  · simpa using closed.all_made_closed_iff
  · simpa using standing.one_made_open_iff

/-- Closing a session once more that was given a client, closed and used again leaves a client open
that the session made. -/
theorem reopened_not_closed :
    ¬∀ c ∈ ((begin (some default) none default).after
        [.close, .request default (.text "GET") (.text "http://a") [] .none]).close.made,
      c.closed = true := by
  intro closed
  have owned := (clients_closed_iff _ _ _ _).2.2.2.1.1 closed
  simp [SessionUse.clientsMade] at owned

end Session

end PhaseScript.Http
