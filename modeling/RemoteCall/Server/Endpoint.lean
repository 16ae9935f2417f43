import RemoteCall.Codec.Decoder
import RemoteCall.Codec.Encoder
import RemoteCall.Frame.Packet
import RemoteCall.Server.Dispatcher

/-! The boundary between frames and the dispatcher: each packet gets one packet in answer. -/

namespace RemoteCall

/-- A dispatcher that is reached at a path. -/
structure Endpoint where
  dispatcher : Dispatcher
  path : String
  limits : Limits
  /-- What opens bodies in a content encoding. -/
  decoders : Decoders := .standard

namespace Endpoint

/-- The request of a packet, executed. -/
def process (endpoint : Endpoint) (packet : Packet) : Traced Value := do
  if packet.path ≠ endpoint.path then throw (.misconfigured (.noEndpoint packet.path))
  let payload ← Traced.ofExcept (packet.payload endpoint.limits endpoint.decoders)
  let request ← Traced.ofExcept (decode payload endpoint.limits)
  endpoint.dispatcher.execute request

/-- The response that tells of a failure. -/
def errorValue (failure : Failure) : Value :=
  Message.toValue (ServerErrorResponse.ofFailure failure)

/--
The body of a response, or in its place that of the failure to encode it.

A body is empty where not even that can be encoded, which no caller takes for a response.
-/
def responseBody (endpoint : Endpoint) (response : Value) : Bytes :=
  match encode response endpoint.limits with
  | .ok body => body
  | .error failure =>
    match encode (errorValue failure) endpoint.limits with
    | .ok body => body
    | .error _ => []

/-- The packet that carries a response. -/
def responsePacket (endpoint : Endpoint) (response : Value) : Packet where
  path := ""
  body := endpoint.responseBody response

/-- The packet that tells of a failure. -/
def errorPacket (endpoint : Endpoint) (failure : Failure) : Packet :=
  endpoint.responsePacket (errorValue failure)

/-- Answers a packet. -/
def handle (endpoint : Endpoint) (packet : Packet) (trace : Trace) : Packet × Trace :=
  match endpoint.process packet trace with
  | .ok response trace => (endpoint.responsePacket response, trace)
  | .error failure trace =>
    (endpoint.errorPacket failure,
      if failure.isProtocol then trace ++ [.counted .protocolError] else trace)

end Endpoint

end RemoteCall
