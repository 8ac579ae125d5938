import PhaseScript.Envelope
import PhaseScript.Proofs.Json.Limits
import PhaseScript.Proofs.Machine.HandlerCall
import PhaseScript.Proofs.Machine.Picture
import PhaseScript.Proofs.Machine.Promise
/-
What is handed through a run. Data that came from JSON are written as they came, but for numbers
that are not finite, which are null; the one thing that can keep such a datum from being written is
its depth. The members of a message that are not for the program itself are the context; a handler
that gives the context back, and the answers to requests and responses without a handler, forward it
so.
-/
set_option autoImplicit false

namespace PhaseScript.Datum

open Json (Limited LimitedAll LimitedMembers finite finiteAll finiteMembers nesting Whole)

mutual

/-- The JSON-safe form of a JSON value is the value with finite numbers only. -/
theorem jsonSafe_ofJson : (v : Json) → Limited v → jsonSafe (ofJson v) = finite v
  | .null | .bool _ | .int _ | .float _ | .string _ => fun _ => rfl
  | .array items => fun limited => by
    rw [ofJson, jsonSafe, jsonSafeAll_ofJson items limited, finite]
  | .object members => fun limited => by
    have distinct : ((([] : List (Text × Json)) ++ finiteMembers members).map (·.1)).Nodup := by
      rw [List.nil_append, Json.names_finiteMembers]
      exact limited.2
    rw [ofJson, jsonSafe, jsonSafeEntries_ofJson members limited.1,
      Json.foldl_put_of_nodup _ _ distinct, List.nil_append, finite]

theorem jsonSafeAll_ofJson : (items : List Json) → LimitedAll items →
    jsonSafeAll (ofJsonItems items) = finiteAll items
  | [] => fun _ => rfl
  | item :: items => fun limited => by
    rw [ofJsonItems, jsonSafeAll, jsonSafe_ofJson item limited.1,
      jsonSafeAll_ofJson items limited.2, finiteAll]

theorem jsonSafeEntries_ofJson : (members : List (Text × Json)) → LimitedMembers members →
    ∀ {before : List (Text × Json)}, jsonSafeEntries (ofJsonMembers members) before =
      (finiteMembers members).foldl (fun found (name, value) => Json.put name value found) before
  | [] => fun _ _ => rfl
  | (name, value) :: members => fun limited before => by
    rw [ofJsonMembers, jsonSafeEntries, jsonSafe_ofJson value limited.1,
      jsonSafeEntries_ofJson members limited.2, finiteMembers, List.foldl_cons]
    rfl

end

mutual

theorem hasHugeInt_ofJson : (v : Json) → Limited v → hasHugeInt (ofJson v) = false
  | .null | .bool _ | .float _ | .string _ => fun _ => rfl
  | .int _ => id
  | .array items => anyHuge_ofJson items
  | .object members => fun limited => anyHugeEntry_ofJson members limited.1

theorem anyHuge_ofJson : (items : List Json) → LimitedAll items →
    anyHuge (ofJsonItems items) = false
  | [] => fun _ => rfl
  | item :: items => fun limited => by
    rw [ofJsonItems, anyHuge, hasHugeInt_ofJson item limited.1, anyHuge_ofJson items limited.2,
      Bool.or_self]

theorem anyHugeEntry_ofJson : (members : List (Text × Json)) → LimitedMembers members →
    anyHugeEntry (ofJsonMembers members) = false
  | [] => fun _ => rfl
  | (name, value) :: members => fun limited => by
    rw [ofJsonMembers, anyHugeEntry, hasHugeInt_ofJson value limited.1,
      anyHugeEntry_ofJson members limited.2]
    rfl

end

mutual

theorem hasCycle_ofJson : (v : Json) → hasCycle (ofJson v) = false
  | .null | .bool _ | .int _ | .float _ | .string _ => rfl
  | .array items => anyCycle_ofJson items
  | .object members => anyCycleEntry_ofJson members

theorem anyCycle_ofJson : (items : List Json) → anyCycle (ofJsonItems items) = false
  | [] => rfl
  | item :: items => by
    rw [ofJsonItems, anyCycle, hasCycle_ofJson item, anyCycle_ofJson items, Bool.or_self]

theorem anyCycleEntry_ofJson : (members : List (Text × Json)) →
    anyCycleEntry (ofJsonMembers members) = false
  | [] => rfl
  | (name, value) :: members => by
    rw [ofJsonMembers, anyCycleEntry, hasCycle_ofJson value, anyCycleEntry_ofJson members]
    rfl

end

/-- The envelope of a JSON value is its text with finite numbers only, unless it is too deep. -/
theorem toEnvelope_ofJson (v : Json) (limited : Limited v) :
    (ofJson v).toEnvelope = if depthLimit < 2 * nesting v then .error tooDeepToWrite
      else .ok (Json.render .spaced (finite v)) := by
  have safe : (ofJson v).isTooDeep = decide (depthLimit < 2 * nesting v) := by
    rw [isTooDeep, hasCycle_ofJson, depth_ofJson, Bool.false_or]
  rw [toEnvelope, safe, dumps, hasHugeInt_ofJson v limited, if_neg Bool.false_ne_true,
    jsonSafe_ofJson v limited, Json.write, Json.writeFault?_finite v limited]
  by_cases deep : depthLimit < 2 * nesting v
  · rw [if_pos deep, decide_eq_true deep, if_pos rfl]
  · rw [if_neg deep, decide_eq_false deep, if_neg Bool.false_ne_true]

/-- What an envelope forwards: a value that can be read from it, with finite numbers only, or that
was too deep to be written. -/
def Forwards (outcome : Except Failure Text) (v : Json) : Prop :=
  if 2 * nesting v ≤ depthLimit then ∃ t, outcome = .ok t ∧ Json.read t = .ok (finite v)
  else outcome = .error tooDeepToWrite

/-- A value that was read is forwarded. -/
theorem forwards_ofJson (v : Json) (limited : Limited v) (whole : Whole v) :
    Forwards (ofJson v).toEnvelope v := by
  rw [toEnvelope_ofJson v limited, Forwards]
  split
  · next shallow =>
    have deep : nesting v ≤ Json.maxDepth := by
      change 2 * nesting v ≤ 970 at shallow
      change nesting v ≤ 970
      omega
    rw [if_neg (Nat.not_lt.mpr shallow)]
    exact ⟨_, rfl, Json.read_render_finite .spaced Json.Style.spaced_lawful v limited whole deep⟩
  · next deep => rw [if_pos (Nat.lt_of_not_le deep)]

end PhaseScript.Datum

namespace PhaseScript

open Json (Limited LimitedMembers Whole WholeMembers nesting finite)
open Machine (World Run Trouble Value Cell Keeps PicturesMembers)

namespace Json

theorem limited_filter {members : List (Text × Json)} (limited : Limited (.object members))
    (keep : Text × Json → Bool) : Limited (.object (members.filter keep)) := by
  refine ⟨(limitedMembers_iff _).mpr fun member among => ?_, ?_⟩
  · exact (limitedMembers_iff _).mp limited.1 member (List.mem_filter.mp among).1
  · exact limited.2.sublist (List.filter_sublist.map _)

theorem whole_filter {members : List (Text × Json)} (whole : Whole (.object members))
    (keep : Text × Json → Bool) : Whole (.object (members.filter keep)) :=
  (wholeMembers_iff _).mpr fun member among =>
    (wholeMembers_iff _).mp whole member (List.mem_filter.mp among).1

theorem nestingMembers_filter_le (members : List (Text × Json)) (keep : Text × Json → Bool) :
    nestingMembers (members.filter keep) ≤ nestingMembers members :=
  (nestingMembers_le_iff _ _).mpr fun member among =>
    (nestingMembers_le_iff members _).mp le_rfl member (List.mem_filter.mp among).1

/-- What holds of the values of all members and of null holds of a member that may be missing. -/
theorem getD_get? {holds : Json → Prop} {members : List (Text × Json)}
    (all : ∀ member ∈ members, holds member.2) (null : holds .null) (name : Text) :
    holds ((get? members name).getD .null) := by
  cases found : get? members name with
  | none => exact null
  | some v => exact all (name, v) (Table.mem_of_lookup members name v found)

end Json

namespace Datum

/-- A member is found again in the data. -/
theorem get?_ofJsonMembers (members : List (Text × Json)) (name : Text) :
    get? (ofJsonMembers members) name = (Json.get? members name).map ofJson := by
  induction members with
  | nil => rfl
  | cons member members ih =>
    obtain ⟨key, value⟩ := member
    rw [ofJsonMembers, get?, ih, Json.get?, Json.get?, List.find?_cons]
    cases key == name <;> rfl

theorem entry_ofJsonMembers (members : List (Text × Json)) (name : Text) :
    entry (ofJsonMembers members) name = .ofJson ((Json.get? members name).getD .null) := by
  rw [entry, get?_ofJsonMembers]
  cases Json.get? members name <;> rfl

end Datum

namespace Machine.Run

theorem noteResult_heap {v : Value} {before after : World}
    (ran : noteResult v before = .ok () after) : after.heap = before.heap := by
  simp only [noteResult, watched, bind, EStateM.bind] at ran
  split at ran <;> cases ran <;> rfl

theorem reads_handler? (table : Value) (name : Text) : Reads (handler? table name) :=
  (reads_entries? table).bind fun _ => .pure _

theorem reads_isCallable (v : Value) : Reads (isCallable v) := fun w => ⟨_, isCallable_eq v w⟩

/-- The context that a handler is given is a dict in a new cell, and shows itself as it came. -/
theorem callee_context {table handler argument : Value} {phase : Phase}
    {context : List (Text × Json)} {evaluated made : World}
    (finds : callee table phase (Datum.ofJsonMembers context) evaluated =
      .ok (.ok (handler, argument)) made) :
    ∃ entries heap, argument = .ref heap.size ∧
      made.heap = heap.push (.dict entries.toArray false) ∧ evaluated.heap.size ≤ heap.size ∧
      PicturesMembers context entries evaluated.heap.size heap.size heap := by
  -- To look for the handler and to ask whether it can be called leaves the heap as it is, and the
  -- table is noted beside it; so the context comes right behind what the script has made.
  obtain ⟨found, _, looked, rest⟩ := bind_eq_ok finds
  obtain rfl := (reads_handler? table phase.handlerName).eq looked
  split at rest
  · cases rest
  obtain ⟨callable, _, looked', rest'⟩ := bind_eq_ok rest
  obtain rfl := (reads_isCallable found).eq looked'
  split at rest'
  · cases rest'
  obtain ⟨_, noted, ran, rest''⟩ := bind_eq_ok rest'
  obtain ⟨entries, between, ranHere, newest⟩ := bind_eq_ok rest''
  obtain ⟨shown, after, ranThere, grows, _, pictures⟩ := adds_ofJsonMembers context noted
  cases ranThere.symm.trans ranHere
  cases newest
  rw [noteResult_heap ran] at grows pictures
  exact ⟨entries, between.heap, rfl, rfl, grows, pictures⟩

end Machine.Run

namespace Datum

/-- What forwards a value forwards those that differ in numbers that are not finite. -/
theorem Forwards.congr {outcome : Except Failure Text} {v w : Json} (forwards : Forwards outcome v)
    (same : finite v = finite w) : Forwards outcome w := by
  have deep : nesting v = nesting w := by
    rw [← Json.nesting_finite v, same, Json.nesting_finite]
  rwa [Forwards, deep, same] at forwards

/-- What shows itself as an object, but for numbers that are not finite, forwards it as the result
of a handler. -/
theorem forwards_marshal {shown : Json} {members : List (Text × Json)}
    (same : finite shown = finite (.object members)) (limited : Limited (.object members))
    (whole : Whole (.object members)) : Forwards (ofJson shown).marshal (.object members) := by
  rw [← Json.limited_finite, ← same, Json.limited_finite] at limited
  rw [← Json.whole_finite, ← same, Json.whole_finite] at whole
  have isObject : (ofJson shown).marshal = (ofJson shown).toEnvelope := by
    cases shown
    case object members => rfl
    case float x =>
      rw [finite] at same
      split at same <;> cases same
    all_goals cases same
  rw [isObject]
  exact (forwards_ofJson shown limited whole).congr same

end Datum

namespace Invocation

/-- The members of a message that make up the context. -/
def contextMembers (members : List (Text × Json)) : List (Text × Json) :=
  members.filter fun (name, _) => !engineFields.contains name

/-- An invocation has its phase and its context from the message. -/
theorem ofMessage_eq_ok {phase : Phase} {raw : Text} {i : Invocation}
    (accepted : ofMessage (some phase) (.text raw) = .ok i) : ∃ members,
      Json.read raw = .ok (.object members) ∧ i.phase = phase ∧
      i.context = contextMembers members := by
  rw [ofMessage, textOf] at accepted
  dsimp only at accepted
  split at accepted
  · cases accepted
  · next members reads =>
    refine ⟨members, reads, ?_⟩
    unfold ofMembers at accepted
    simp only [bind, Except.bind, pure, Except.pure] at accepted
    -- Each field of the program itself is read in turn, and may be refused.
    repeat (split at accepted; · cases accepted)
    cases accepted
    exact ⟨rfl, rfl⟩
  · cases accepted

theorem ofMessage_eq_text {message : Message} {t : Text} (decoded : textOf message = .ok t)
    (phase : Option Phase) : ofMessage phase message = ofMessage phase (.text t) := by
  rw [ofMessage, decoded]
  rfl

/-- A message that is accepted is the text of an object, and the invocation has its phase and its
context from it. -/
theorem members_of_accepted {phase : Phase} {message : Message} {i : Invocation}
    (accepted : ofMessage (some phase) message = .ok i) : ∃ t members, textOf message = .ok t ∧
      Json.read t = .ok (.object members) ∧ i.phase = phase ∧
      i.context = contextMembers members := by
  cases decoded : textOf message with
  | error fault =>
    rw [ofMessage, decoded] at accepted
    cases accepted
  | ok t =>
    rw [ofMessage_eq_text decoded] at accepted
    obtain ⟨members, reads, same⟩ := ofMessage_eq_ok accepted
    exact ⟨t, members, rfl, reads, same⟩

end Invocation

namespace HandlerCall

variable {engine : Engine} {phase : Phase} {message : Message} {exchange : Http.Exchange}

/-- A call that gives the context back, with the cells that were made for it as they were made. -/
structure Echoes (call : HandlerCall engine phase message exchange) (after : World) : Prop where
  takes : call.takes = true
  returns : call.result = .ok call.argument after
  keeps : Keeps call.evaluated.heap.size call.made.heap.size call.made.heap after.heap

/-- Whether a call gives its context back, in cells that hold the same data. -/
def echoesContext (call : HandlerCall engine phase message exchange) : Bool :=
  call.takes && match call.argument, call.result with
    | .ref made, .ok (.ref given) after => made == given &&
      Machine.keepsData call.evaluated.heap.size call.made.heap.size call.made.heap after.heap
    | _, _ => false

theorem echoes_of_echoesContext {call : HandlerCall engine phase message exchange}
    (echoes : call.echoesContext = true) : ∃ after, call.Echoes after := by
  rw [echoesContext, Bool.and_eq_true] at echoes
  obtain ⟨takes, same⟩ := echoes
  split at same
  · next made given after isMade returned =>
    rw [Bool.and_eq_true, beq_iff_eq] at same
    obtain ⟨rfl, kept⟩ := same
    exact ⟨after, takes, returned.trans (by rw [isMade]), Machine.keeps_of_keepsData kept⟩
  · cases same

/-- A handler that gives its context back forwards it. -/
theorem Echoes.forwards {call : HandlerCall engine phase message exchange} {after : World}
    (echoes : call.Echoes after) (limited : Limited (.object call.invocation.context))
    (whole : Whole (.object call.invocation.context))
    (deep : nesting (.object call.invocation.context) ≤ Json.maxDepth) :
    Datum.Forwards (engine.answer? (some phase) message exchange).outcome
      (.object call.invocation.context) := by
  obtain ⟨entries, heap, isRef, made, grows, inside⟩ := Run.callee_context call.finds
  have keeps := echoes.keeps
  have returns := echoes.returns
  rw [made, Array.size_push] at keeps
  rw [isRef] at returns
  have nothing : ∀ a ∈ ([] : List Nat), heap.size + 1 ≤ a := nofun
  obtain ⟨cell, -, -, -⟩ := keeps.container nothing grows
  obtain ⟨shown, is_, same⟩ := inside.object grows keeps nothing
    (show nesting (.object call.invocation.context) < Run.showDepth by
      change nesting _ ≤ 970 at deep
      change nesting _ < 2000
      omega)
  have shows_ : Run.resultDatum (.ref heap.size) after = .ok (.ofJson shown) after := by
    simp only [Run.resultDatum, Run.cellAt, Run.isThenable, bind, EStateM.bind, cell, pure,
      EStateM.pure, Option.getD_some, Run.snapshot, is_]
  rw [call.outcome_of_returned returns shows_]
  exact Datum.forwards_marshal same limited whole

end HandlerCall

/-- The member of the context that answers a phase without a handler: the request that the gateway
is about to send, or the response that it has got. -/
def Phase.gatewayMember? : Phase → Option Text
  | .request => some "otoroshi_request"
  | .response => some "otoroshi_response"
  | _ => none

theorem Phase.defaultResult_gatewayMember {phase : Phase} {name : Text}
    (gateway : phase.gatewayMember? = some name) (members : List (Text × Json)) :
    phase.defaultResult (Datum.ofJsonMembers members) =
      .ofJson ((Json.get? members name).getD .null) := by
  have found := Datum.entry_ofJsonMembers members name
  cases phase <;> cases gateway <;> exact found

namespace Invocation

/-- No member for the gateway is one for the program itself. -/
theorem get?_contextMembers {phase : Phase} {name : Text}
    (gateway : phase.gatewayMember? = some name) (members : List (Text × Json)) :
    Json.get? (contextMembers members) name = Json.get? members name := by
  have kept : (!engineFields.contains name) = true := by
    cases phase <;> cases gateway <;> decide
  refine (Table.lookup_filter members (fun key => !engineFields.contains key) name).trans ?_
  rw [if_pos kept]
  rfl

/-- A message whose script gives the context of requests back, and has no handler for responses. -/
def echoingSample : Text :=
  "\x7b\"code\": \"exports.on_request = lambda c: c\", \"env\": \x7b\"A\": 1\x7d, " ++
  "\"n\": 123456789012345678901234567890, \"x\": [1e999, \x7b\"code\": \"\\ud800\"\x7d], " ++
  "\"otoroshi_response\": \x7b\"status\": NaN\x7d\x7d"

/-- A message in which arrays lie so deep that its context cannot be written. -/
def deepSample : Text :=
  "\x7b\"a\": " ++ List.replicate 485 (Point.ofChar '[') ++
    List.replicate 485 (Point.ofChar ']') ++ "\x7d"

/-- Whether a message is accepted with a context that is too deep to be written. -/
def isAcceptedTooDeep (raw : Text) : Bool :=
  match ofMessage (some .request) (.text raw) with
  | .ok i => decide ((Datum.dict i.contextData).marshal = .error Datum.tooDeepToWrite)
  | .error _ => false

end Invocation

end PhaseScript
