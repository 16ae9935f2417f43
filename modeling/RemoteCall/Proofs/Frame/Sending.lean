import RemoteCall.Proofs.Frame.Grammar
import RemoteCall.Proofs.Stream.Lossless

/-! What is sent to a sink that loses nothing, up to the frame of a whole packet. -/

namespace RemoteCall

variable {σ : Type} [Sink σ] {holds : Holding σ}

/-- Bytes that are sent are given in full. -/
theorem send_delivers (lossless : Lossless σ holds) (data : Bytes) :
    Delivers holds (send (σ := σ) data) data := by
  intro sink given held
  -- Sending is a complete write to the sink.
  obtain ⟨answer, after, wrote, held⟩ := lossless.writeAll data sink given held
  exact ⟨answer, after, by simp only [send, SendM.ofStream, wrote], held⟩

/-- A sink is flushed without being given anything. -/
theorem flush_delivers (lossless : Lossless σ holds) :
    Delivers holds (SendM.ofStream (Sink.flush (σ := σ))) [] := by
  intro sink given held
  obtain ⟨answer, after, flushed, held⟩ := lossless.flush sink given held
  exact ⟨answer, after, by simp only [SendM.ofStream, flushed], held⟩

/-- A header goes out in full when its path is not too long. -/
theorem sendHeader_delivers (lossless : Lossless σ holds) (frame : Frame)
    (short : (Bytes.ofString frame.path).length < 256 ^ 2) :
    Delivers holds (sendHeader (σ := σ) frame.path frame.compression frame.body.isChunked)
      (frame.fixedBytes ++ Bytes.ofString frame.path) := by
  intro sink given held
  -- A path is refused only if two octets cannot count its own.
  have path : pathBytes frame.path = .ok (Bytes.ofString frame.path) :=
    if_neg (by omega)
  -- Four pieces are sent in a row: magic octets, version and flags, length, and path.
  have sent := (send_delivers lossless frameMagic).bind fun _ =>
    (send_delivers lossless [wireVersion, Header.flags frame.compression frame.body.isChunked]).bind
      fun _ => (send_delivers lossless (Bytes.ofNatBE 2 (Bytes.ofString frame.path).length)).bind
        fun _ => send_delivers lossless (Bytes.ofString frame.path)
  obtain ⟨answer, after, sent, held⟩ := sent sink given held
  refine ⟨answer, after, ?_, by simpa [Frame.fixedBytes] using held⟩
  rw [← sent]
  simp [sendHeader, path]

/-- A packet goes out as the frame with its body in one piece. -/
def Packet.frame (packet : Packet) : Frame where
  path := packet.path
  compression := packet.compression
  body := .whole packet.body

/-- The bytes of a packet are those of its frame, when its lengths can be counted. -/
theorem Packet.toBytes_of_short {packet : Packet}
    (short : (Bytes.ofString packet.path).length < 256 ^ 2)
    (counted : packet.body.length < 256 ^ 4) : packet.toBytes = .ok packet.frame.toBytes := by
  -- The header is sent to a store, whose contents are the front of the frame.
  obtain ⟨_, store, sent, _, held⟩ :=
    sendHeader_delivers Store.lossless packet.frame short {} [] ⟨rfl, rfl⟩
  have header : sendHeader packet.path packet.compression false ({} : Store) = .ok () store := sent
  -- Four octets count the body.
  have length : bodyLength packet.body.length = .ok (Bytes.ofNatBE 4 packet.body.length) :=
    if_neg (by omega)
  simp only [Packet.toBytes, header, length]
  change Except.ok (store.toBytes ++ Bytes.ofNatBE 4 packet.body.length ++ packet.body) = _
  rw [held]
  simp [Packet.frame, Frame.toBytes, FrameBody.toBytes, FrameBody.chunkBytes]

end RemoteCall
