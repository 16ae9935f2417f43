import RemoteCall.Proofs.Server.Dispatcher
import RemoteCall.Server.Endpoint

/-! What an endpoint answers to a packet that carries a request. -/

namespace RemoteCall.Endpoint

variable (endpoint : Endpoint) {packet : Packet} {payload : Bytes} {request : Value}

/-- A packet that carries a request to the path of an endpoint is processed by executing it. -/
theorem process_of_request (reached : packet.path = endpoint.path)
    (opened : packet.payload endpoint.limits endpoint.decoders = .ok payload)
    (decoded : decode payload endpoint.limits = .ok request) (trace : Trace) :
    endpoint.process packet trace = endpoint.dispatcher.execute request trace := by
  -- None of the three checks before the dispatcher fails.
  simp [process, reached, opened, decoded]

/-- A packet that is processed to a response is answered with it. -/
theorem handle_of_response {response : Value} {trace after : Trace}
    (processed : endpoint.process packet trace = .ok response after) :
    endpoint.handle packet trace = (endpoint.responsePacket response, after) := by
  simp only [handle, processed]

/-- A packet that cannot be processed is answered with the failure, which may be counted. -/
theorem handle_of_failure {failure : Failure} {trace after : Trace}
    (processed : endpoint.process packet trace = .error failure after) :
    ∃ tallies : List Tally, endpoint.handle packet trace =
      (endpoint.responsePacket (errorValue failure), after ++ tallies.map .counted) := by
  -- Only failures of the protocol are counted.
  by_cases counted : failure.isProtocol = true
  · refine ⟨[.protocolError], ?_⟩
    simp [handle, processed, counted, errorPacket]
  · refine ⟨[], ?_⟩
    simp [handle, processed, counted, errorPacket]

/-- A response that can be encoded is the body of its packet. -/
theorem body_of_encode {response : Value} {body : Bytes}
    (encoded : encode response endpoint.limits = .ok body) :
    endpoint.responsePacket response = { path := "", body } := by
  -- The answer that is sent when nothing can be encoded is not needed.
  simp only [responsePacket, responseBody, encoded]

end RemoteCall.Endpoint
