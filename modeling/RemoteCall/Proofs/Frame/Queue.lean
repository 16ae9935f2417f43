import RemoteCall.Proofs.Frame.Intake
import RemoteCall.Proofs.Frame.Sending

/-! A buffer that frames are added to and cut from is a queue of packets. -/

namespace RemoteCall

namespace Packet

/-- A path that is too long is refused by a store, too, and not before it has been given some. -/
theorem sendHeader_of_long {path : String} (compression : Option Compression)
    (long : ¬ (Bytes.ofString path).length < 256 ^ 2) :
    ∃ after, sendHeader path compression false ({} : Store) =
      .error (.misconfigured (.pathTooLong path)) after := by
  have refused : pathBytes path = .error (.misconfigured (.pathTooLong path)) :=
    if_pos (by omega)
  -- Magic, version and flags are out before the path is looked at.
  have opening := (send_delivers Store.lossless frameMagic).bind fun _ =>
    send_delivers Store.lossless [wireVersion, Header.flags compression false]
  obtain ⟨_, between, sent, _⟩ := opening {} [] ⟨rfl, rfl⟩
  refine ⟨between, ?_⟩
  rw [sendHeader, refused, ← bind_assoc, run_bind, sent]
  rfl

/-- The two encoders of a packet agree: one makes the frame, the other adds it to a buffer. -/
theorem toBytes_eq_appendTo (packet : Packet) : packet.toBytes = packet.appendTo [] := by
  -- Both judge the path before the body, although the first is writing by then.
  by_cases short : (Bytes.ofString packet.path).length < 256 ^ 2
  · have path : pathBytes packet.path = .ok (Bytes.ofString packet.path) := if_neg (by omega)
    obtain ⟨_, store, sent, _, held⟩ :=
      sendHeader_delivers Store.lossless packet.frame short {} [] ⟨rfl, rfl⟩
    have header : sendHeader packet.path packet.compression false ({} : Store) = .ok () store :=
      sent
    simp only [toBytes, header, appendTo, path]
    -- With the header out, only the length of the body may be refused, by both in one way.
    cases bodyLength packet.body.length with
    | error failure => rfl
    | ok length =>
      change Except.ok (store.toBytes ++ length ++ packet.body) = Except.ok _
      rw [held]
      simp [frame, Frame.fixedBytes, FrameBody.isChunked, Header.flags]
  · have path : pathBytes packet.path = .error (.misconfigured (.pathTooLong packet.path)) :=
      if_pos (by omega)
    obtain ⟨_, refused⟩ := sendHeader_of_long packet.compression short
    simp only [toBytes, refused, appendTo, path]
    rfl

/-- What is added to a buffer does not depend on the buffer. -/
theorem appendTo_eq (packet : Packet) (buffer : Bytes) :
    packet.appendTo buffer = packet.toBytes.map fun bytes => buffer ++ bytes := by
  rw [toBytes_eq_appendTo, appendTo, appendTo]
  -- The buffer comes first, and is not looked at.
  cases pathBytes packet.path with
  | error failure => rfl
  | ok path =>
    cases bodyLength packet.body.length with
    | error failure => rfl
    | ok length =>
      change Except.ok _ = Except.ok _
      simp

/-- A packet whose body can be counted has no frame exactly when its path is too long. -/
theorem toBytes_eq_error_iff {packet : Packet} (counted : packet.body.length < 256 ^ 4) :
    (∃ failure, packet.toBytes = .error failure) ↔
      0xFFFF < (Bytes.ofString packet.path).length := by
  -- Two octets count a path exactly when it is below the power of their width.
  by_cases short : (Bytes.ofString packet.path).length < 256 ^ 2
  · rw [toBytes_of_short short counted]
    constructor
    · rintro ⟨failure, refused⟩
      cases refused
    · intro long
      omega
  · have refused : pathBytes packet.path = .error (.misconfigured (.pathTooLong packet.path)) :=
      if_pos (by omega)
    rw [toBytes_eq_appendTo, appendTo, refused]
    exact ⟨fun _ => by omega, fun _ => ⟨_, rfl⟩⟩

end Packet

namespace FrameBuffer

variable {limits : Limits}

/-- A packet is added as the bytes of its frame; without a frame, the buffer stays as it is. -/
theorem encode_eq (packet : Packet) (buffer : FrameBuffer) :
    encode packet buffer =
      match packet.toBytes with
      | .ok bytes => .ok () (buffer.push bytes)
      | .error failure => .error failure buffer := by
  rw [encode, Packet.appendTo_eq]
  -- The bytes go behind those that wait already.
  cases packet.toBytes with
  | ok bytes => rfl
  | error failure => rfl

/-- A frame at the front of a buffer is decoded, and taken off. -/
theorem decode_frame {packet : Packet} (within : packet.frame.Within limits) (rest : Bytes) :
    decode limits ⟨packet.frame.toBytes ++ rest⟩ = .ok (some packet) ⟨rest⟩ :=
  decode_eq_packet_iff.mpr (Packet.cutFrame_toBytes within rest)

/-- Something that is done with a buffer. -/
inductive Operation where
  | encode (packet : Packet)
  | decode

/-- What went through a buffer so far, oldest first. -/
structure Traffic where
  /-- The packets whose frames were added. -/
  encoded : List Packet := []
  /-- The packets that were given back. -/
  decoded : List Packet := []
  buffer : FrameBuffer := {}

namespace Traffic

/-- One operation, and a record of the packet that it took or gave. -/
def step (limits : Limits) (traffic : Traffic) : Operation → Traffic
  | .encode packet =>
    match FrameBuffer.encode packet traffic.buffer with
    | .ok () buffer => { traffic with buffer, encoded := traffic.encoded ++ [packet] }
    | .error _ buffer => { traffic with buffer }
  | .decode =>
    match FrameBuffer.decode limits traffic.buffer with
    | .ok (some packet) buffer => { traffic with buffer, decoded := traffic.decoded ++ [packet] }
    | .ok none buffer => { traffic with buffer }
    | .error _ buffer => { traffic with buffer }

/-- Operations in their order, on a buffer that is empty at first. -/
def run (limits : Limits) (operations : List Operation) : Traffic :=
  operations.foldl (step limits) {}

/-- The frames of packets, one after the other. -/
def frames (packets : List Packet) : Bytes :=
  (packets.map fun packet => packet.frame.toBytes).flatten

/-- The buffer is made up of the frames of these packets, which are still to be given back. -/
structure Pending (limits : Limits) (traffic : Traffic) (pending : List Packet) : Prop where
  order : traffic.encoded = traffic.decoded ++ pending
  -- Whatever waits can be decoded when its turn comes.
  within : ∀ packet ∈ pending, packet.frame.Within limits
  held : traffic.buffer.bytes = frames pending

variable {traffic : Traffic} {pending : List Packet}

/-- With nothing pending, the buffer is empty and there is nothing to decode. -/
theorem Pending.decode_nil (waits : Pending limits traffic []) :
    traffic.buffer = {} ∧ FrameBuffer.decode limits traffic.buffer = .ok none {} := by
  have empty : traffic.buffer = {} := congrArg FrameBuffer.mk waits.held
  refine ⟨empty, ?_⟩
  rw [empty]
  exact decode_eq limits {}

/-- The packet that has been pending for longest is decoded first. -/
theorem Pending.decode_cons {packet : Packet} (waits : Pending limits traffic (packet :: pending)) :
    FrameBuffer.decode limits traffic.buffer = .ok (some packet) ⟨frames pending⟩ := by
  have buffer : traffic.buffer = ⟨packet.frame.toBytes ++ frames pending⟩ :=
    congrArg FrameBuffer.mk waits.held
  rw [buffer]
  exact decode_frame (waits.within packet (by simp)) _

/-- A packet that is encoded comes last, or it changes nothing. -/
theorem Pending.step_encode (waits : Pending limits traffic pending) {packet : Packet}
    (countable : limits.messageSize < 256 ^ 4) (fits : packet.body.length ≤ limits.messageSize) :
    ∃ pending, Pending limits (traffic.step limits (.encode packet)) pending := by
  have counted : packet.body.length < 256 ^ 4 := Nat.lt_of_le_of_lt fits countable
  rw [step, encode_eq]
  cases encoded : packet.toBytes with
  | error failure => exact ⟨pending, waits⟩
  | ok bytes =>
    -- Only a path that two octets count lets the packet have a frame.
    have short : (Bytes.ofString packet.path).length < 256 ^ 2 := by
      by_contra long
      obtain ⟨failure, refused⟩ := (Packet.toBytes_eq_error_iff counted).mpr (by omega)
      rw [refused] at encoded
      cases encoded
    rw [Packet.toBytes_of_short short counted] at encoded
    cases encoded
    -- The frame goes behind all others, as the packet does.
    refine ⟨pending ++ [packet], ?_, ?_, ?_⟩
    · simp [waits.order]
    · intro other member
      rcases List.mem_append.mp member with member | member
      · exact waits.within other member
      · rw [List.mem_singleton.mp member]
        exact ⟨short, fits, counted⟩
    · simp [push, waits.held, frames]

/-- A packet that is decoded was first, and with nothing pending nothing changes. -/
theorem Pending.step_decode (waits : Pending limits traffic pending) :
    ∃ pending, Pending limits (traffic.step limits .decode) pending := by
  rw [step]
  cases pending with
  -- An empty buffer is incomplete, and stays so.
  | nil =>
    obtain ⟨empty, nothing⟩ := waits.decode_nil
    rw [nothing]
    exact ⟨[], waits.order, waits.within, rfl⟩
  -- The first packet moves from those that wait to those that were given back.
  | cons packet pending =>
    rw [waits.decode_cons]
    refine ⟨pending, ?_, fun other member => waits.within other (by simp [member]), rfl⟩
    simp [waits.order]

/-- Whatever is done with a buffer, it is made up of the frames of the pending packets. -/
theorem exists_pending (countable : limits.messageSize < 256 ^ 4) (operations : List Operation)
    (fits : ∀ packet, .encode packet ∈ operations → packet.body.length ≤ limits.messageSize) :
    ∃ pending, Pending limits (run limits operations) pending := by
  -- The last operation meets what all the others have left.
  induction operations using List.reverseRecOn with
  | nil => exact ⟨[], rfl, by simp, rfl⟩
  | append_singleton operations operation ih =>
    obtain ⟨pending, waits⟩ := ih fun packet member => fits packet (by simp [member])
    rw [run, List.foldl_append]
    cases operation with
    | encode packet => exact waits.step_encode countable (fits packet (by simp))
    | decode => exact waits.step_decode

/-- The packet that can be decoded is the one that comes next in the order of the encoded ones. -/
theorem Pending.decode_eq_packet_iff (waits : Pending limits traffic pending) {packet : Packet} :
    (∃ after, FrameBuffer.decode limits traffic.buffer = .ok (some packet) after) ↔
      traffic.decoded ++ [packet] <+: traffic.encoded := by
  -- What was given back before is the same on both sides, so the first that waits decides.
  rw [waits.order, List.prefix_append_right_inj]
  cases pending with
  | nil => simp [waits.decode_nil.2]
  | cons first pending =>
    rw [waits.decode_cons, List.cons_prefix_cons]
    constructor
    · rintro ⟨after, same⟩
      cases same
      exact ⟨rfl, List.nil_prefix⟩
    · rintro ⟨rfl, _⟩
      exact ⟨_, rfl⟩

/-- There is nothing to decode exactly when everything that was encoded has been given back. -/
theorem Pending.decode_eq_none_iff (waits : Pending limits traffic pending) :
    (∃ after, FrameBuffer.decode limits traffic.buffer = .ok none after) ↔
      traffic.decoded = traffic.encoded := by
  -- Everything has been given back when nothing waits.
  rw [waits.order]
  cases pending with
  | nil => simp [waits.decode_nil.2]
  | cons packet pending => simp [waits.decode_cons]

/-- What is left when everything has been given back is an empty buffer. -/
theorem Pending.buffer_eq_empty (waits : Pending limits traffic pending)
    (all : traffic.decoded = traffic.encoded) : traffic.buffer = {} := by
  have order := waits.order
  rw [all, List.self_eq_append_right] at order
  subst order
  exact waits.decode_nil.1

/-- No decoding fails. -/
theorem Pending.decode_ne_error (waits : Pending limits traffic pending) (failure : Failure)
    (after : FrameBuffer) : FrameBuffer.decode limits traffic.buffer ≠ .error failure after := by
  cases pending with
  | nil => simp [waits.decode_nil.2]
  | cons packet pending => simp [waits.decode_cons]

/--
A buffer is a queue: packets come out of it in the order in which they went in, each of them once.

There is nothing to decode exactly when everything has been given back, and then the buffer is
empty. A packet goes in as the bytes of its frame, or fails as those do and leaves the buffer alone,
which only a path that is too long can bring about.
-/
theorem run_queues (countable : limits.messageSize ≤ 2 ^ 32 - 1) (operations : List Operation)
    (fits : ∀ packet, .encode packet ∈ operations → packet.body.length ≤ limits.messageSize) :
    let traffic := run limits operations
    traffic.decoded <+: traffic.encoded ∧
      (∀ packet, (∃ after, FrameBuffer.decode limits traffic.buffer = .ok (some packet) after) ↔
        traffic.decoded ++ [packet] <+: traffic.encoded) ∧
      ((∃ after, FrameBuffer.decode limits traffic.buffer = .ok none after) ↔
        traffic.decoded = traffic.encoded) ∧
      (traffic.decoded = traffic.encoded → traffic.buffer = {}) ∧
      (∀ failure after, FrameBuffer.decode limits traffic.buffer ≠ .error failure after) ∧
      ∀ packet : Packet,
        (FrameBuffer.encode packet traffic.buffer =
          match packet.toBytes with
          | .ok bytes => .ok () (traffic.buffer.push bytes)
          | .error failure => .error failure traffic.buffer) ∧
        (packet.body.length ≤ limits.messageSize →
          ((∃ failure, packet.toBytes = .error failure) ↔
            0xFFFF < (Bytes.ofString packet.path).length)) := by
  intro traffic
  -- All of it is said of the packets that wait.
  obtain ⟨pending, waits⟩ := exists_pending (by omega) operations fits
  change Pending limits traffic pending at waits
  refine ⟨⟨pending, waits.order.symm⟩, fun packet => waits.decode_eq_packet_iff,
    waits.decode_eq_none_iff, waits.buffer_eq_empty, waits.decode_ne_error, fun packet => ?_⟩
  exact ⟨encode_eq packet _, fun fits => Packet.toBytes_eq_error_iff (by omega)⟩

/-- Of three packets that were encoded, one between decodings, the first two have come out. -/
theorem run_queues_three :
    let limits : Limits := { messageSize := 2 }
    let first : Packet := { path := "/a", body := [7, 8] }
    let second : Packet := { path := "", compression := some .gzip, body := [] }
    let third : Packet := { path := "/a", body := [9] }
    let operations : List Operation :=
      [.decode, .encode first, .encode second, .decode, .encode third, .decode]
    let traffic := run limits operations
    limits.messageSize ≤ 2 ^ 32 - 1 ∧
      (∀ packet, .encode packet ∈ operations → packet.body.length ≤ limits.messageSize) ∧
      traffic.encoded = [first, second, third] ∧ traffic.decoded = [first, second] ∧
      (∃ after, FrameBuffer.decode limits traffic.buffer = .ok (some third) after) ∧
      ¬ ∃ after, FrameBuffer.decode limits traffic.buffer = .ok none after := by
  intro limits first second third operations traffic
  have fits (packet : Packet) (member : .encode packet ∈ operations) :
      packet.body.length ≤ limits.messageSize := by
    simp only [operations, List.mem_cons, List.not_mem_nil, Operation.encode.injEq, or_false,
      false_or, reduceCtorEq] at member
    rcases member with rfl | rfl | rfl <;> decide
  -- The run itself is computed, and what comes next is told by the order.
  have encoded : (run limits operations).encoded = [first, second, third] := by decide +kernel
  have decoded : (run limits operations).decoded = [first, second] := by decide +kernel
  have countable : limits.messageSize ≤ 2 ^ 32 - 1 := by decide
  obtain ⟨_, next, nothing, _⟩ := run_queues countable operations fits
  rw [decoded, encoded] at nothing
  refine ⟨countable, fits, encoded, decoded, (next third).mpr ?_, fun found => ?_⟩
  · rw [decoded, encoded]
    exact List.prefix_rfl
  · cases nothing.mp found

end Traffic

end FrameBuffer

end RemoteCall
