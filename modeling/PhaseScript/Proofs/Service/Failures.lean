import PhaseScript.Proofs.Service.Answer
import PhaseScript.Proofs.Service.Routes
import PhaseScript.Store.Memory
/-
How remote calls are told of failures. The checks of a body, the storage and the last resort of the
service tell them in members of their own; what the paths and the reading of bodies refuse, and
failures without words, are told as on every other path.
-/
set_option autoImplicit false

namespace PhaseScript.Service

/-- A failure as remote calls are told of it: an object with an error and a description of it. -/
def Outgoing.IsRpcError (answer : Outgoing) : Prop :=
  answer.contentType = some jsonType ∧ ∃ members, Json.read answer.body = .ok (.object members) ∧
    members.length = 2 ∧ (∃ error, Json.get? members "error" = some (.string error)) ∧
    ∃ description, Json.get? members "error_description" = some description ∧
      (description = .null ∨ ∃ words, description = .string words)

/-- A body that is said to be JSON and cannot be read: its octets are no text, or the text holds an
integer of too many digits or is nested too deep. -/
def Incoming.Unreadable (request : Incoming) : Prop :=
  request.body.isEmpty = false ∧ saysJson request.headers = true ∧
    ∀ t, decodeMessage request.body = .ok t →
      (∃ count, Json.read t = .error (.tooManyDigits count)) ∨
        ∃ isArray, Json.read t = .error (.tooDeep isArray)

theorem bodyMembers_unreadable_iff (request : Incoming) :
    bodyMembers request = .error .unreadable ↔ request.Unreadable := by
  unfold bodyMembers Incoming.Unreadable
  cases request.body.isEmpty with
  | true => simp
  | false =>
    cases saysJson request.headers with
    | false => simp
    | true =>
      cases decodeMessage request.body with
      | error => simp
      | ok t =>
        cases read : Json.read t with
        | ok v => cases v <;> simp [read]
        | error refusal => cases refusal <;> simp [read]

/-- What is wrong with a body that can be read is told by complaints. -/
theorem readBody_unreadable_iff {α : Type} (check : List (Text × Json) → Checked α)
    (request : Incoming) : readBody check request = .error .unreadable ↔ request.Unreadable := by
  rw [← bodyMembers_unreadable_iff]
  simp only [readBody, bind, Except.bind]
  cases bodyMembers request with
  | error fault => simp
  | ok members => cases checked : check members <;> simp [checked, Except.mapError]

/-- A body is read back as it was meant, but for members of one name. -/
theorem read_ofJson (status : Nat) (v : Json) (written : Json.writeFault? true v = none)
    (deep : Json.nesting v ≤ Json.maxDepth) :
    Json.read (Outgoing.ofJson status v).body = .ok (Json.reread false v) :=
  Json.read_render .compact Json.Style.compact_lawful v (Json.legible_of_written v written) deep

/-- An object of an error and a description is told as remote calls are. -/
theorem isRpcError_ofJson (status : Nat) (error words : Text) :
    (Outgoing.ofJson status
      (.object [("error", .string error), ("error_description", .string words)])).IsRpcError := by
  have read := read_ofJson status
    (.object [("error", .string error), ("error_description", .string words)]) rfl
    (Nat.le_of_ble_eq_true rfl)
  exact ⟨rfl, [("error", .string error), ("error_description", .string words)], read, rfl,
    ⟨error, rfl⟩, .string words, rfl, .inr ⟨words, rfl⟩⟩

theorem not_isRpcError_detail (status : Nat) (words : Text) :
    ¬ (detailAnswer status words).IsRpcError := by
  rintro ⟨-, _, read, two, -⟩
  have detail := read_ofJson status (.object [("detail", .string words)]) rfl
    (Nat.le_of_ble_eq_true rfl)
  cases read.symm.trans detail
  cases two

theorem not_isRpcError_detail_for (method : Text) (status : Nat) (words : Text) :
    ¬ ((detailAnswer status words).forMethod method).IsRpcError := by
  unfold Outgoing.forMethod
  split
  · rintro ⟨-, _, read, -⟩
    cases read
  · exact not_isRpcError_detail status words

theorem complaintAnswer_rpc {path : Text} (rpc : isRpcPath path = true) (status : Nat)
    (error words : Text) : (complaintAnswer path status error words).IsRpcError := by
  rw [complaintAnswer, if_pos rpc]
  exact isRpcError_ofJson status error words

/-- What the storage says is wrong is told as remote calls are. -/
theorem isRpcError_rpcError (status : Nat) (error description : Text) (answer : Outgoing)
    (told : rpcError status error description = .ok answer) : answer.IsRpcError := by
  obtain ⟨shallow, v, json, characters⟩ := tellable_of_answerWith _ _ _ told
  rw [rpcError, answerWith_of_toJson _ _ v shallow json characters] at told
  obtain rfl := Except.ok.inj told
  obtain rfl := Except.ok.inj json
  exact isRpcError_ofJson status error description

/-- An answer of success, or of a failure as remote calls are told of it. -/
def Outgoing.IsProper (answer : Outgoing) : Prop := answer.status < 400 ∨ answer.IsRpcError

/-- Whatever a step answers is of success or tells of a failure. -/
def AnswersProperly {σ : Type} (step : Storing σ Outgoing) : Prop :=
  ∀ s answer after, step s = .ok answer after → answer.IsProper

section Storage

variable {σ α : Type}

theorem answersProperly_answered {answer? : Except Raised Outgoing}
    (proper : ∀ answer, answer? = .ok answer → answer.IsProper) :
    AnswersProperly (σ := σ) (answered answer?) := by
  intro s answer after ran
  cases answer? with
  | ok _ =>
    cases ran
    exact proper _ rfl
  | error raised => cases ran

theorem answersProperly_rpcError (status : Nat) (error description : Text) :
    AnswersProperly (σ := σ) (answered (rpcError status error description)) :=
  answersProperly_answered fun answer told => .inr (isRpcError_rpcError _ _ _ answer told)

theorem answersProperly_found (value : Datum) :
    AnswersProperly (σ := σ) (answered (answerWith 200 value)) := by
  refine answersProperly_answered fun answer told => .inl ?_
  obtain ⟨shallow, v, json, characters⟩ := tellable_of_answerWith _ _ _ told
  rw [answerWith_of_toJson _ _ v shallow json characters] at told
  obtain rfl := Except.ok.inj told
  exact (by decide : 200 < 400)

theorem answersProperly_bind {step : Storing σ α} {next : α → Storing σ Outgoing}
    (proper : ∀ a, AnswersProperly (next a)) : AnswersProperly (step >>= next) := by
  intro s answer after ran
  simp only [bind, EStateM.bind] at ran
  split at ran
  · exact proper _ _ _ _ ran
  · cases ran

theorem answersProperly_done : AnswersProperly (σ := σ) (return .empty) := by
  intro s answer after ran
  cases ran
  exact .inl (by decide : 204 < 400)

variable (store : KeyValueStore σ)

theorem answersProperly_search (pattern : Text) : AnswersProperly (searchStore store pattern) := by
  intro s answer after ran
  rw [searchStore] at ran
  split at ran
  · exact answersProperly_found _ _ _ _ ran
  · split at ran
    · exact answersProperly_rpcError _ _ _ _ _ _ ran
    · cases ran

theorem answersProperly_onKey (operation : StorageOperation) (key : Text) (value : Json) :
    AnswersProperly (onKey store operation key value) := by
  cases operation with
  | get => exact answersProperly_bind fun _ => answersProperly_found _
  | set => exact answersProperly_bind fun _ => answersProperly_found _
  | remove | find | clear => exact answersProperly_bind fun _ => answersProperly_done

theorem answersProperly_carryOut (call : StorageCall) :
    AnswersProperly (call.carryOut store) := by
  unfold StorageCall.carryOut
  split
  · exact answersProperly_rpcError _ _ _
  · exact answersProperly_bind fun _ => answersProperly_done
  · exact answersProperly_search store _
  · split
    · exact answersProperly_rpcError _ _ _
    · exact answersProperly_onKey store _ _ _

end Storage

/-- Words that are missing or cannot stand in an answer. -/
def Wordless (message : Option Text) : Prop :=
  ∀ words, message = some words → words.isScalar = false

theorem failureAnswer_of_wordless (path : Text) {message : Option Text}
    (wordless : Wordless message) : failureAnswer path true message = ⟨500, none, []⟩ := by
  have none_ : message.filter Text.isScalar = none := by
    cases message with
    | none => rfl
    | some words => rw [Option.filter, wordless words rfl, if_neg Bool.false_ne_true]
  simp only [failureAnswer, none_, Bool.not_true, Bool.false_eq_true, if_false]

theorem isRpcError_failureAnswer {path : Text} (rpc : isRpcPath path = true) (tells : Bool)
    (message : Option Text) (told : ¬ (tells = true ∧ Wordless message)) :
    (failureAnswer path tells message).IsRpcError := by
  cases tells with
  | false => exact complaintAnswer_rpc rpc _ _ _
  | true =>
    obtain ⟨words, rfl, scalar⟩ : ∃ words, message = some words ∧ words.isScalar = true := by
      simpa [Wordless] using told
    simp only [failureAnswer, Option.filter, scalar, Bool.not_true, Bool.false_eq_true, if_false,
      if_true]
    exact complaintAnswer_rpc rpc _ _ _

section Answers

variable {σ : Type} (service : Service σ) (run : Option (PluginRunner σ)) (request : Incoming)
  (s : ServiceState σ)

/-- A failure of the storage that the service is to tell in words that cannot be told. -/
def FailsWordless : Prop :=
  service.tellsFailures = true ∧ request.path = Rpc.storagePath ∧ ∃ call raised store,
    readBody StorageCall.check request = .ok call ∧
      call.carryOut service.store s.store = .error raised store ∧ Wordless raised.message?

/-- What a remote call is answered: properly, if it is posted with a body that can be read and the
storage does not fail without words. -/
inductive RpcAnswer : Outgoing → Prop
  | proper (answer : Outgoing) : request.method = "POST" → ¬ request.Unreadable →
      ¬ FailsWordless service request s → answer.IsProper → RpcAnswer answer
  | wrongMethod : request.method ≠ "POST" →
      RpcAnswer ((detailAnswer 405 "Method Not Allowed").forMethod request.method)
  | unreadable : request.method = "POST" → request.Unreadable →
      RpcAnswer (detailAnswer 400 "There was an error parsing the body")
  | wordless : request.method = "POST" → FailsWordless service request s →
      RpcAnswer ⟨500, none, []⟩

variable {service request s}

theorem forMethod_post {method : Text} (posted : method = "POST") (answer : Outgoing) :
    answer.forMethod method = answer := by
  subst posted
  rfl

/-- A body with which something is wrong. -/
theorem rpcAnswer_fault (rpc : isRpcPath request.path = true) (posted : request.method = "POST")
    {α : Type} (check : List (Text × Json) → Checked α) (fault : BodyFault)
    (told : ¬ FailsWordless service request s)
    (unread : readBody check request = .error fault) : RpcAnswer service request s
      ((Problem.body fault).answer request.path service.tellsFailures) := by
  have unreadable := readBody_unreadable_iff check request
  rw [unread] at unreadable
  cases fault with
  | unreadable => exact .unreadable posted (unreadable.mp rfl)
  | invalid complaints =>
    exact .proper _ posted (fun broken => nomatch unreadable.mpr broken) told
      (.inr (complaintAnswer_rpc rpc _ _ _))

theorem rpcAnswer_logger (atLogger : request.path = Rpc.loggerPath)
    (posted : request.method = "POST") :
    RpcAnswer service request s (service.answer run request s).1 := by
  have told : ¬ FailsWordless service request s := fun fails => by
    have same := atLogger.symm.trans fails.2.1
    revert same
    decide
  have found : endpoint? service.apiRoot request.path = some .logger :=
    atLogger ▸ endpoint?_logger service.apiRoot
  have ran := congrFun (service.carryOut_logger request run found posted) s
  cases read : readBody LogCall.check request with
  | error fault =>
    simp only [answerLogger, read] at ran
    rw [answer_of_error ran, forMethod_post posted]
    exact rpcAnswer_fault (atLogger ▸ rfl) posted _ fault told read
  | ok call =>
    simp only [answerLogger, read] at ran
    rw [answer_of_ok ran, forMethod_post posted]
    refine .proper _ posted (fun broken => ?_) told (.inl (by decide : 204 < 400))
    rw [← readBody_unreadable_iff LogCall.check, read] at broken
    cases broken

theorem rpcAnswer_storage (atStorage : request.path = Rpc.storagePath)
    (posted : request.method = "POST") :
    RpcAnswer service request s (service.answer run request s).1 := by
  have rpc : isRpcPath request.path = true := atStorage ▸ rfl
  have found : endpoint? service.apiRoot request.path = some .storage :=
    atStorage ▸ endpoint?_storage service.apiRoot
  have ran := congrFun (service.carryOut_storage request run found posted) s
  cases read : readBody StorageCall.check request with
  | error fault =>
    simp only [answerStorage, read] at ran
    rw [answer_of_error ran, forMethod_post posted]
    refine rpcAnswer_fault rpc posted _ fault ?_ read
    rintro ⟨-, -, call, _, _, isRead, -⟩
    cases read.symm.trans isRead
  | ok call =>
    have readable : ¬ request.Unreadable := fun broken => by
      rw [← readBody_unreadable_iff StorageCall.check, read] at broken
      cases broken
    simp only [answerStorage, read, onStore] at ran
    cases carried : call.carryOut service.store s.store with
    | ok answer store =>
      rw [carried] at ran
      rw [answer_of_ok ran, forMethod_post posted]
      refine .proper _ posted readable ?_ (answersProperly_carryOut _ _ _ _ _ carried)
      rintro ⟨-, -, call', _, _, isRead, fails, -⟩
      obtain rfl := Except.ok.inj (read.symm.trans isRead)
      cases carried.symm.trans fails
    | error raised store =>
      rw [carried] at ran
      rw [answer_of_error ran, forMethod_post posted, Problem.answer]
      -- Words matter only where they are told.
      by_cases wordless : service.tellsFailures = true ∧ Wordless raised.message?
      · rw [wordless.1, failureAnswer_of_wordless _ wordless.2]
        exact .wordless posted
          ⟨wordless.1, atStorage, call, raised, store, read, carried, wordless.2⟩
      · refine .proper _ posted readable ?_ (.inr (isRpcError_failureAnswer rpc _ _ wordless))
        rintro ⟨tells, -, call', raised', store', isRead, fails, none_⟩
        obtain rfl := Except.ok.inj (read.symm.trans isRead)
        cases carried.symm.trans fails
        exact wordless ⟨tells, none_⟩

theorem rpcAnswer_answer
    (atRpc : request.path = Rpc.loggerPath ∨ request.path = Rpc.storagePath) :
    RpcAnswer service request s (service.answer run request s).1 := by
  by_cases posted : request.method = "POST"
  · exact atRpc.elim (rpcAnswer_logger run · posted) (rpcAnswer_storage run · posted)
  · have wrong : service.carryOut run request = throw .wrongMethod := by
      rcases atRpc with atLogger | atStorage
      · exact service.carryOut_wrongMethod request run .logger
          (atLogger ▸ endpoint?_logger service.apiRoot) posted
      · exact service.carryOut_wrongMethod request run .storage
          (atStorage ▸ endpoint?_storage service.apiRoot) posted
    rw [answer_of_error (congrFun wrong s)]
    exact .wrongMethod posted

variable (service request s)

/-- A remote call that fails is told so as remote calls are, unless it is not posted, or its body
cannot be read, or the storage fails in words that cannot be told. -/
theorem failure_isRpcError_iff
    (atRpc : request.path = Rpc.loggerPath ∨ request.path = Rpc.storagePath)
    (failed : 400 ≤ (service.answer run request s).1.status) :
    let answer := (service.answer run request s).1
    (answer.IsRpcError ↔ request.method = "POST" ∧ ¬ request.Unreadable ∧
      ¬ FailsWordless service request s) ∧
    (¬ answer.IsRpcError →
      answer = (detailAnswer 405 "Method Not Allowed").forMethod request.method ∨
      answer = detailAnswer 400 "There was an error parsing the body" ∨
      answer = ⟨500, none, []⟩) := by
  intro answer
  have told : RpcAnswer service request s answer := rpcAnswer_answer run atRpc
  have failed : 400 ≤ answer.status := failed
  generalize answer = answer at told failed
  cases told with
  | proper _ posted readable told proper =>
    have shaped := proper.resolve_left (Nat.not_lt.mpr failed)
    exact ⟨⟨fun _ => ⟨posted, readable, told⟩, fun _ => shaped⟩, fun other => absurd shaped other⟩
  | wrongMethod other =>
    have shapeless := not_isRpcError_detail_for request.method 405 "Method Not Allowed"
    exact ⟨⟨fun shaped => absurd shaped shapeless, fun given => absurd given.1 other⟩,
      fun _ => .inl rfl⟩
  | unreadable posted broken =>
    have shapeless := not_isRpcError_detail 400 "There was an error parsing the body"
    exact ⟨⟨fun shaped => absurd shaped shapeless, fun given => absurd broken given.2.1⟩,
      fun _ => .inr (.inl rfl)⟩
  | wordless posted fails =>
    exact ⟨⟨fun shaped => (nomatch shaped.1), fun given => absurd fails given.2.2⟩,
      fun _ => .inr (.inr rfl)⟩

end Answers

/-- A call whose body is one octet that begins no character. -/
def brokenCall : Incoming := ⟨"POST", Rpc.storagePath, [("content-type", jsonType)], [0xFF]⟩

/-- The call is refused with a detail. -/
theorem brokenCall_is_told_a_detail :
    let answer := ((withStore MemoryStore.operations).answer none brokenCall ⟨.empty, [], []⟩).1
    brokenCall.path = Rpc.storagePath ∧ 400 ≤ answer.status ∧ ¬ answer.IsRpcError := by
  have failed : 400 ≤ ((withStore MemoryStore.operations).answer none brokenCall
      ⟨.empty, [], []⟩).1.status := by
    decide +kernel
  have unreadable : brokenCall.Unreadable := (bodyMembers_unreadable_iff brokenCall).mp rfl
  exact ⟨rfl, failed, fun shaped => ((failure_isRpcError_iff (withStore MemoryStore.operations) none
    brokenCall ⟨.empty, [], []⟩ (.inr rfl) failed).1.mp shaped).2.1 unreadable⟩

end PhaseScript.Service
