import RemoteCall.Outbound.Request
import RemoteCall.Server.Endpoint

/-! Ways for a request to reach a server and for the answer to come back. -/

namespace RemoteCall

/-- Posts a body to a path at an address, and brings back the body of the answer. -/
abbrev Transport := (address path : String) → Entity → Traced Bytes

namespace Transport

/-- The packet at the front of bytes that were sent in full. -/
def received (bytes : Bytes) (limits : Limits) : Except Failure Packet := do
  match ← Packet.parse bytes limits with
  | some (packet, _) => return packet
  | none => throw .invalidHeader

/-- Reaches an endpoint in the same process, by way of frames all the same. -/
def loopback (endpoint : Endpoint) : Transport := fun _ path entity => do
  let limits := endpoint.limits
  match sendRequest path entity limits ({} : Store) with
  | .error failure _ => throw failure
  | .ok () wire =>
    let request ← Traced.ofExcept (received wire.toBytes limits)
    let response ← modifyGet (endpoint.handle request)
    let answer ← Traced.ofExcept response.toBytes
    let packet ← Traced.ofExcept (received answer limits)
    Traced.ofExcept (packet.payload limits endpoint.decoders)

end Transport

end RemoteCall
