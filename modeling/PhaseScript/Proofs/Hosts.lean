import PhaseScript.Main
import PhaseScript.Service.Plugins
import PhaseScript.Proofs.Invocation
import PhaseScript.Proofs.Service.Routes
import PhaseScript.Proofs.Text.Encoding
/-
The hosts around one engine. A message reaches it as a text at hand, as the input of a command, or
as the body of a request to the service; each host gives the one envelope that the engine answers
with, and sends nothing of its own. A message in octets is shown to a buffer as UTF-8, though the
engine would read it in the encoding it is in.
-/
set_option autoImplicit false

namespace PhaseScript

/-- Whether the log has the level that a command names, else that of the settings. -/
def Settings.KnowsLevel (settings : Settings) (level : Option Text) : Prop :=
  (level.getD settings.logLevel).upper ∈ CommandLine.logLevels

instance (settings : Settings) (level : Option Text) : Decidable (settings.KnowsLevel level) :=
  inferInstanceAs (Decidable (_ ∈ _))

/-- Octets that a text was written in are read as that text. -/
theorem Program.messageOf_encode (t : Text) (scalar : t.isScalar = true) :
    messageOf (Utf8.encode t) = .ok t := by
  rw [messageOf, Utf8.decodeStrict_encode t scalar]
  rfl

theorem Host.ofMessage_bytes (t : Text) (scalar : t.isScalar = true) (exchange : Http.Exchange) :
    ofMessage (.bytes (Utf8.encode t)) exchange = ofMessage (.text t) exchange := by
  simp only [ofMessage, Utf8.decodeLossy_encode t scalar]

namespace Engine

/-- A host whose input can be read gets the answer of the engine. -/
theorem execute_ofMessage (engine : Engine) (name t : Text) (exchange : Http.Exchange) :
    engine.execute name (Host.ofMessage (.text t) exchange) =
      { input := .ok (.text t)
        outputs := [(engine.answer name (.text t) exchange).1]
        exchange := (engine.answer name (.text t) exchange).2 } := rfl

end Engine

/-- The name of a phase alone is a command line. -/
theorem CommandLine.ofArguments_name (phase : Phase) :
    ofArguments [Text.ofString phase.name] = .ok ⟨some phase, none, false⟩ := by
  cases phase <;> rfl

theorem Settings.runCommand_ofArguments (settings : Settings) {arguments : List Text}
    {phase : Phase} {level : Option Text}
    (asks : CommandLine.ofArguments arguments = .ok ⟨some phase, level, false⟩)
    (knows : settings.KnowsLevel level) (t : Text) (exchange : Http.Exchange) :
    settings.runCommand arguments (.ok t) exchange =
      (.finished [(settings.engine.answer (Text.ofString phase.name) (.text t) exchange).1],
        (settings.engine.answer (Text.ofString phase.name) (.text t) exchange).2) := by
  simp only [runCommand, asks]
  rw [if_pos (List.contains_iff_mem.mpr knows)]
  rfl

namespace Service

variable {σ : Type} (service : Service σ)

/-- A message that is posted for a phase is answered over the client of the service. -/
theorem answer_plugin (engine : Engine) (phase : Phase) (t : Text) (scalar : t.isScalar = true)
    (exchange : Http.Exchange) (headers : Http.Headers) (s : ServiceState σ)
    (sent : s.sent = exchange.requests) :
    service.answer (some (service.runPlugin engine (.given exchange.client)))
        ⟨"POST", pluginPath service.apiRoot phase, headers, Utf8.encode t⟩ s =
      let (envelope, later) := engine.answer (Text.ofString phase.name) (.text t) exchange
      (⟨200, some jsonType, envelope⟩, { s with sent := later.requests }) := by
  have before : (⟨exchange.client, s.sent.reverse⟩ : Http.Exchange) = exchange := by
    rw [sent, Http.Exchange.requests, List.reverse_reverse]
  rw [answer, carryOut_plugin service _ _ (endpoint?_plugin service.apiRoot phase) rfl]
  simp only [answerPlugin, Phase.ofName?_name, runPlugin]
  rw [before, Host.ofMessage_bytes t scalar, Engine.execute_ofMessage]
  rfl

end Service

namespace Json

/-- What begins with a zero, or with the mark of a fault, is no value. -/
theorem read_unopened (rest : Text) :
    read (Point.ofNat 0 :: rest) = .error (.fault .value (rest.length + 1)) ∧
      read (Point.ofNat 0xFFFD :: rest) = .error (.fault .value (rest.length + 1)) :=
  ⟨rfl, rfl⟩

/-- A mark of UTF-8 in a text is refused. -/
theorem read_mark (rest : Text) :
    read (Point.ofNat 0xFEFF :: rest) = .error (.fault .mark (rest.length + 1)) := rfl

/-- A zero behind a brace is no name, and behind a blank no value. -/
theorem read_zero {p : Point} (opens : p = Point.ofChar '\x7b' ∨ Grammar.IsBlank p) (rest : Text) :
    ∃ kind, read (p :: Point.ofNat 0 :: rest) = .error (.fault kind (rest.length + 1)) := by
  rcases opens with rfl | blank
  · exact ⟨.name, rfl⟩
  · refine ⟨.value, ?_⟩
    rcases blank with isBlank | isBlank | isBlank | isBlank <;>
      (rw [← Point.ofNat_eq isBlank.symm]; rfl)

end Json

/-- The text that a buffer shows of a message in another encoding, or behind a mark, is refused. -/
theorem Utf8.read_decodeLossy {octets : Bytes} {t : Text} {members : List (Text × Json)}
    (decoded : decodeMessage octets = .ok t) (reads : Json.read t = .ok (.object members))
    (other : Encoding.detect octets ≠ (.utf8, 0)) :
    ∃ kind left, Json.read (decodeLossy octets) = .error (.fault kind left) := by
  -- What an encoding other than UTF-8 is detected by shows as a zero, a fault or a mark.
  rcases Encoding.octets_of_detect_ne other with ⟨first, rest, rfl, zero | high | high⟩ |
    ⟨rest, rfl⟩ | ⟨first, rest, rfl, told⟩
  · subst zero
    have reads' : next (0 :: rest) = .point (Point.ofNat 0) 1 := rfl
    rw [decodeLossy_point reads']
    exact ⟨_, _, (Json.read_unopened _).1⟩
  · subst high
    have fault : next (0xFE :: rest) = .fault 1 "invalid start byte" := rfl
    rw [decodeLossy_fault fault]
    exact ⟨_, _, (Json.read_unopened _).2⟩
  · subst high
    have fault : next (0xFF :: rest) = .fault 1 "invalid start byte" := rfl
    rw [decodeLossy_fault fault]
    exact ⟨_, _, (Json.read_unopened _).2⟩
  · have reads' : next (0xEF :: 0xBB :: 0xBF :: rest) = .point (Point.ofNat 0xFEFF) 3 := rfl
    rw [decodeLossy_point reads']
    exact ⟨_, _, Json.read_mark _⟩
  · -- The first octet is a brace or a blank, and a zero comes behind it.
    obtain ⟨more, rfl⟩ := Encoding.head_of_decodeMessage told decoded
    obtain ⟨p, rest', same, opens⟩ := Invocation.head_of_read reads
    obtain ⟨rfl, -⟩ := List.cons.inj same
    have small : first < 0x80 := by
      have bound := UInt8.toNat_lt first
      have value := Point.val_ofNat first.toNat (by omega)
      have brace : (Point.ofChar '\x7b').val = 0x7B := rfl
      rw [UInt8.lt_iff_toNat_lt, ← value]
      rcases opens with isBrace | blank
      · rw [isBrace, brace]
        decide
      · unfold Json.Grammar.IsBlank at blank
        simp only [UInt8.reduceToNat]
        omega
    have reads' : next (first :: 0 :: rest) = .point (Point.ofNat first.toNat) 1 := by
      rw [next.eq_def]
      simp only [if_pos small]
    have zero : next (0 :: rest) = .point (Point.ofNat 0) 1 := rfl
    rw [decodeLossy_point reads', List.drop_one, List.tail_cons, decodeLossy_point zero]
    obtain ⟨kind, refused⟩ := Json.read_zero opens _
    exact ⟨kind, _, refused⟩

namespace Engine

variable (engine : Engine) (phase : Phase)

/-- A message that is refused for its JSON is told so, and nothing is sent. -/
theorem answer_refused {t : Text} {kind : Json.Fault} {left : Nat}
    (refused : Json.read t = .error (.fault kind left)) (exchange : Http.Exchange) :
    engine.answer (Text.ofString phase.name) (.text t) exchange =
      (Failure.envelope ⟨.decodeError, (Invocation.Fault.json t (.fault kind left)).message⟩,
        exchange) := by
  simp only [answer, Phase.ofName?_name, answer?, Invocation.ofMessage, Invocation.textOf, refused]
  rfl

/-- A message is answered as its text is. -/
theorem answer_bytes {octets : Bytes} {t : Text} (decoded : decodeMessage octets = .ok t)
    (exchange : Http.Exchange) : engine.answer (Text.ofString phase.name) (.bytes octets) exchange =
      engine.answer (Text.ofString phase.name) (.text t) exchange := by
  have asText : Invocation.textOf (.bytes octets) = .ok t := by
    rw [Invocation.textOf, decoded]
  simp only [answer, Phase.ofName?_name, answer?, Invocation.ofMessage_eq_text asText]

theorem execute_bytes (octets : Bytes) (exchange : Http.Exchange) (name : Text) :
    let t := Utf8.decodeLossy octets
    engine.execute name (Host.ofMessage (.bytes octets) exchange) =
      { input := .ok (.text t)
        outputs := [(engine.answer name (.text t) exchange).1]
        exchange := (engine.answer name (.text t) exchange).2 } := rfl

end Engine

end PhaseScript
