import RemoteCrowd.Service.Basic
import RemoteCrowd.Wire.Stream

/-!
Conversations with clients. Every packet of a client is answered with one packet, until the
client closes, hangs up or falls silent. A length field that makes no sense is answered
once, and ends the conversation with an error, since nothing behind it can be delimited.
Clients are served one after another on the same session.
-/

namespace RemoteCrowd

open Wire

/-- Whether a client that causes this failure has only gone away or fallen silent. -/
def TransportFailure.isDeparture : TransportFailure → Bool
  | unexpectedEnd | reset | aborted | wouldBlock | timedOut => true
  | other => false

/-- Whether a conversation that ends with this error has ended well. -/
def Error.isDeparture : Error → Bool
  | transport fault => fault.failure.isDeparture
  | _ => false

/-- How a conversation went: what was written, how it ended if it did, and the session behind
it. -/
structure Conversation (μ : Type) where
  sent : Bytes
  result : Except Lapse Unit
  session : Session μ

/-- The packet that answers a length field that makes no sense. -/
def malformedPacket : Except Error Bytes := do
  (← Packet.ofStatus (.err unframedOpcode "malformed packet")).send

namespace Service

variable {μ : Type}

/-- The packet that answers a body, as it goes over the wire. -/
def respond (service : Service μ) (body : Bytes) : Performance μ (Bytes × Flow) := do
  let (packet, flow) ← service.answer body
  return (← pureResult packet.send, flow)

/-- Talk with one client over a stream. -/
def converse (service : Service μ) (stream : Stream) (session : Session μ) :
    Conversation μ :=
  match _read : stream.readPacket service.config.maxPacketSize with
  | (.ok none, _) => ⟨[], .ok (), session⟩
  | (.error cause, _) =>
    if cause.isDeparture then ⟨[], .ok (), session⟩
    else ⟨malformedPacket.toOption.getD [], .error (.error cause), session⟩
  | (.ok (some body), rest) =>
    match service.respond body session with
    | .error lapse after => ⟨[], .error lapse, after⟩
    | .ok (bytes, .close) after => ⟨bytes, .ok (), after⟩
    | .ok (bytes, .stay) after =>
      let later := converse service rest after
      { later with sent := bytes ++ later.sent }
termination_by stream.size
decreasing_by exact Stream.size_of_readPacket (by assumption)

/-- Talk with clients one after another. How one conversation ends is no matter to the
next, as long as it ends. -/
def serve (service : Service μ) : List Stream → Session μ → List (Conversation μ) × Session μ
  | [], session => ([], session)
  | stream :: rest, session =>
    let first := service.converse stream session
    match first.result with
    | .error .endless => ([first], first.session)
    | _ =>
      let (later, last) := serve service rest first.session
      (first :: later, last)

end Service

end RemoteCrowd
