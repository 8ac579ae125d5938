import PhaseScript.Answer
import PhaseScript.Failure
/-
Hosts: where a message comes from and where its envelope goes. A host gives one input, which may fail to be read, and
takes what is written. An input whose failure has no words is nothing that can be told: that goes through to whoever
runs the host.
-/
set_option autoImplicit false

namespace PhaseScript

/-- A host: its one input, what has been written so far, the oldest first, and its client. -/
structure Host where
  input : Except Raised Message
  outputs : List Text
  exchange : Http.Exchange
  /-- What has gone through to whoever runs the host. -/
  escaped : Option Failure := none

namespace Host

/-- Writes a text. -/
def write (host : Host) (t : Text) : Host := { host with outputs := host.outputs ++ [t] }

/-- A host with its input at hand. Octets are read as UTF-8; what is not UTF-8 becomes the mark of a fault. -/
def ofMessage (message : Message) (exchange : Http.Exchange) : Host :=
  let t := match message with
    | .text t => t
    | .bytes b => Utf8.decodeLossy b
  { input := .ok (.text t), outputs := [], exchange }

end Host

/-- Reads the input of a host and writes its one envelope. -/
def Engine.execute (engine : Engine) (phaseName : Text) (host : Host) : Host :=
  match host.input with
  | .error raised =>
    match raised.datum.unshown? with
    | some failure => { host with escaped := some failure }
    | none => host.write raised.failure.envelope
  | .ok message =>
    let (envelope, exchange) := engine.answer phaseName message host.exchange
    { host with exchange }.write envelope

end PhaseScript
