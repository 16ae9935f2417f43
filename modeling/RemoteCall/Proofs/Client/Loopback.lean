import RemoteCall.Client.Invoker
import RemoteCall.Proofs.Codec.RoundTrip
import RemoteCall.Proofs.Frame.Acceptance
import RemoteCall.Proofs.Frame.Queue
import RemoteCall.Proofs.Outbound.Request
import RemoteCall.Proofs.Server.Endpoint

/-! A call to an endpoint in the same process is the execution of its envelope. -/

namespace RemoteCall

variable {limits : Limits} {value : Value} {bytes : Bytes}

/-- The name of the type of an object respects the ceiling of lengths. -/
theorem length_typeName_le_of_encode {typeName : String} {fields : List (String × Value)}
    (encoded : encode (.object typeName fields) limits = .ok bytes) :
    (Bytes.ofString typeName).length ≤ limits.frameSize := by
  obtain ⟨admitted, _⟩ := encode_eq_ok_iff.mp encoded
  -- The length of the name is one of the parts that were admitted.
  have member : Part.length (Bytes.ofString typeName).length ∈
      (Value.object typeName fields).messageParts := by
    simp [Value.messageParts, Value.parts, Part.ofString]
  exact (admitted.within _ member).1

namespace Transport

variable {endpoint : Endpoint} {entity : Entity} {path : String} {body : Bytes}

/-- A buffer that is one frame is received as its packet. -/
theorem received_toBytes {frame : Frame} (within : frame.Within limits) :
    received frame.toBytes limits = .ok frame.packet := by
  -- The buffer opens with the frame, and nothing follows it.
  have parsed := Packet.parse_toBytes within []
  rw [List.append_nil] at parsed
  simp only [received, parsed]
  rfl

/-- What is received is the packet of a frame that the bytes open with. -/
theorem exists_frame_of_received {packet : Packet} (found : received bytes limits = .ok packet) :
    ∃ (frame : Frame) (rest : Bytes), frame.Within limits ∧ frame.packet = packet ∧
      bytes = frame.toBytes ++ rest := by
  obtain ⟨parsed, complete, answered⟩ := except_bind_eq_ok_iff.mp found
  cases parsed with
  | none => cases answered
  | some pair =>
    cases answered
    obtain ⟨rest, cut, _⟩ := Packet.parse_eq_some_iff.mp complete
    obtain ⟨frame, within, carried, opened⟩ := Packet.cutFrame_eq_some_iff.mp cut
    exact ⟨frame, rest, within, carried, opened⟩

/-- By way of frames, an endpoint gets the packet of a request, and the caller its answer. -/
theorem loopback_of_received (endpoint : Endpoint) {store : Store} {packet : Packet}
    (sent : sendRequest path entity endpoint.limits ({} : Store) = .ok () store)
    (request : received store.toBytes endpoint.limits = .ok packet) {trace after : Trace}
    {answer : Bytes}
    (handled : endpoint.handle packet trace = ({ path := "", body := answer }, after))
    (fitsAnswer : answer.length ≤ endpoint.limits.messageSize)
    (countedAnswer : answer.length < 256 ^ 4) (address : String) :
    loopback endpoint address path entity trace = .ok answer after := by
  -- The answer has no path and no content encoding, so that it needs no more than its ceiling.
  let response : Packet := { path := "", body := answer }
  have shortAnswer : (Bytes.ofString "").length < 256 ^ 2 := by decide
  have written : response.toBytes = .ok response.frame.toBytes :=
    Packet.toBytes_of_short shortAnswer countedAnswer
  have back : received response.frame.toBytes endpoint.limits = .ok response :=
    received_toBytes ⟨shortAnswer, fitsAnswer, countedAnswer⟩
  simp only [response] at written back
  -- Both frames are at hand, with what the endpoint does in between.
  simp only [loopback, sent, run_bind, run_ofExcept, request, run_modifyGet, handled, written, back]
  rfl

/-- An answer that four octets cannot count does not come back, whatever the ceilings allow. -/
theorem loopback_of_uncounted (endpoint : Endpoint) {store : Store} {packet : Packet}
    (sent : sendRequest path entity endpoint.limits ({} : Store) = .ok () store)
    (request : received store.toBytes endpoint.limits = .ok packet) {trace after : Trace}
    {answer : Bytes}
    (handled : endpoint.handle packet trace = ({ path := "", body := answer }, after))
    (uncounted : 0xFFFFFFFF < answer.length) (address : String) :
    loopback endpoint address path entity trace =
      .error (.limitExceeded .messageSize 0xFFFFFFFF answer.length) after := by
  -- The path is empty, so that only the length of the body is in the way.
  have refused : ({ path := "", body := answer } : Packet).toBytes =
      .error (.limitExceeded .messageSize 0xFFFFFFFF answer.length) := by
    have path : pathBytes "" = .ok [] := rfl
    have length : bodyLength answer.length =
        .error (.limitExceeded .messageSize 0xFFFFFFFF answer.length) := if_pos uncounted
    simp only [Packet.toBytes_eq_appendTo, Packet.appendTo, path, length]
    rfl
  simp only [loopback, sent, run_bind, run_ofExcept, request, run_modifyGet, handled, refused]

/-- A body that can be counted is received as it was sent. -/
theorem exists_received_of_body (whole : entity.body = .ok body)
    (short : (Bytes.ofString path).length < 256 ^ 2) (framed : 0 < limits.frameSize)
    (fits : body.length ≤ limits.messageSize) (counted : body.length < 256 ^ 4) :
    ∃ store, sendRequest path entity limits ({} : Store) = .ok () store ∧
      received store.toBytes limits =
        .ok { path, compression := entity.compression, body } := by
  -- The request is sent to a store, and its bytes are one frame.
  obtain ⟨store, frame, sent, held, within, carried⟩ :=
    Entity.sendRequest_of_body Store.lossless (show Store.Holds {} [] from ⟨rfl, rfl⟩) short
      (fun _ => framed) fits (fun _ => counted) whole
  refine ⟨store, sent, ?_⟩
  rw [held.2, ← carried]
  exact received_toBytes within

end Transport

end RemoteCall
