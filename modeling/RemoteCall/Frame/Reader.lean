import RemoteCall.Frame.Packet

/-! Reading of one frame from a source that may end or break anywhere. -/

namespace RemoteCall

/-- A step that receives from a source, which is left as it stands also when the step fails. -/
abbrev ReceiveM := EStateM Failure Source

namespace Packet

/-- Receives exactly so many bytes; `early` is the error of a source that ends before. -/
def receive (length : Nat) (early : StreamError) : ReceiveM Bytes := fun source =>
  match Source.take length source with
  | .ok bytes source => .ok bytes source
  | .error .ended source => .error (.stream early) source
  | .error (.broken cause) source => .error (.stream cause) source

/-- Receives a field of the frame. -/
def receiveField (length : Nat) : ReceiveM Bytes := receive length .exhausted

/-- Receives a body or a chunk of one. -/
def receiveBody (length : Nat) : ReceiveM Bytes := receive length .bodyEndedEarly

/-- A body received is as long as announced. -/
theorem length_receiveBody {length : Nat} {source after : Source} {body : Bytes}
    (received : receiveBody length source = .ok body after) : body.length = length := by
  unfold receiveBody receive at received
  split at received
  · next found =>
    cases received
    exact Source.length_take found
  all_goals cases received

/-- Receives chunks up to the empty one; every other one uses up some of the message ceiling. -/
def receiveChunks (limits : Limits) (joined : Gathered) : ReceiveM Bytes := fun source =>
  match receiveField 4 source with
  | .error failure source => .error failure source
  | .ok field source =>
    let length := Bytes.toNatBE field
    if length = 0 then .ok joined.toBytes source
    else
      match limits.checkFrame length, _fits : limits.checkMessage (joined.size + length) with
      | .error failure, _ => .error failure source
      | .ok (), .error failure => .error failure source
      | .ok (), .ok () =>
        match _received : receiveBody length source with
        | .error failure source => .error failure source
        | .ok chunk source => receiveChunks limits (joined.push chunk) source
termination_by limits.messageSize - joined.size
decreasing_by
  have := length_receiveBody _received
  simp only [Limits.checkMessage] at _fits
  split at _fits
  · cases _fits
  · simp only [Gathered.push]
    omega

/-- Receives one frame. -/
def receivePacket (limits : Limits) : ReceiveM Packet := do
  let header ← MonadExcept.ofExcept (Header.ofBytes (← receiveField fixedHeaderLength))
  let path ← MonadExcept.ofExcept (pathOfBytes (← receiveField header.pathLength))
  let compression := header.compression
  if header.chunked then
    return { path, compression, body := ← receiveChunks limits .empty }
  else
    let length := Bytes.toNatBE (← receiveField 4)
    MonadExcept.ofExcept (limits.checkMessage length)
    return { path, compression, body := ← receiveBody length }

end Packet

end RemoteCall
