import RemoteCall.Frame.Header

/-! Framing of whatever is written as chunks, for a body whose length is not known beforehand. -/

namespace RemoteCall

/-- The greatest chunk that is ever sent. -/
def chunkSizeMax : Nat := 65536

/-- The size at which a chunk is sent under the given ceilings. -/
def Limits.chunkSize (limits : Limits) : Nat :=
  max 1 (min chunkSizeMax limits.frameSize)

/-- A sink that passes on what it is given as chunks, each after its length. -/
structure Chunked (σ : Type) where
  inner : σ
  chunkSize : Nat
  /-- The chunk that is not yet full. -/
  pending : Gathered := .empty

namespace Chunked

variable {σ : Type}

/-- Chunks for the given ceilings, on their way to a sink. -/
def onto (inner : σ) (limits : Limits) : Chunked σ :=
  { inner, chunkSize := limits.chunkSize }

/-- A step on the sink that takes the chunks. -/
def onInner {α : Type} (step : StreamM σ α) : StreamM (Chunked σ) α := fun chunked =>
  match step chunked.inner with
  | .ok answer inner => .ok answer { chunked with inner }
  | .error cause inner => .error cause { chunked with inner }

variable [Sink σ]

/-- Sends the pending chunk, unless there is nothing in it; what fails to go out stays pending. -/
def sendPending : StreamM (Chunked σ) Unit := do
  let chunk := (← get).pending
  if chunk.isEmpty then return ()
  onInner (Sink.writeAll (Bytes.ofNatBE 4 chunk.size))
  onInner (Sink.writeAll chunk.toBytes)
  modify fun chunked => { chunked with pending := .empty }

/-- Accepts what the pending chunk has room for, and sends the chunk once it is full. -/
def write (bytes : Bytes) : StreamM (Chunked σ) Nat := do
  let chunked ← get
  let accepted := bytes.take (chunked.chunkSize - chunked.pending.size)
  let pending := chunked.pending.push accepted
  set { chunked with pending }
  if pending.size = chunked.chunkSize then
    sendPending
  return accepted.length

/-- Sends the pending chunk without waiting for it to fill. -/
def flush : StreamM (Chunked σ) Unit := do
  sendPending
  onInner Sink.flush

instance : Sink (Chunked σ) where
  write := write
  flush := flush

/-- Sends what is pending and the empty chunk that ends the body. -/
def finish : StreamM (Chunked σ) Unit := do
  sendPending
  onInner (Sink.writeAll (Bytes.ofNatBE 4 0))
  onInner Sink.flush

end Chunked

end RemoteCall
