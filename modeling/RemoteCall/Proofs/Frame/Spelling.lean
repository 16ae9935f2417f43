import RemoteCall.Proofs.Frame.Acceptance
import RemoteCall.Proofs.Frame.Sending

/-! The octets of a frame, field by field, and that parsing accepts these and no others. -/

namespace RemoteCall.Packet

/-- The content encodings, in the order of the numbers that two flag bits can spell. -/
def encodings : List (Option Compression) := [none, some .gzip, some .lz4, some .zstd]

/-- What opens a frame: magic, version, flags, the length of the path, and the path. -/
inductive Opening (path : String) (compression : Option Compression) (chunked : Bool) :
    Bytes → Prop where
  /-- The path is UTF-8, and two octets count it; of the flags, only the lowest three are set. -/
  | spelled {flags high low : UInt8}
      (meaningful : flags &&& 0b11111000 = 0)
      (encoded : encodings[(flags &&& 0b11).toNat]? = some compression)
      (formed : (flags &&& 0b100 != 0) = chunked)
      (counted : 256 * high.toNat + low.toNat = (Bytes.ofString path).length) :
      Opening path compression chunked
        ([0x57, 0x43, 0x41, 0x4C, 1, flags, high, low] ++ Bytes.ofString path)

/-- Chunks in a row with the bytes that they carry, each chunk behind four octets that count it. -/
inductive ChunkRow (limits : Limits) : Bytes → Bytes → Prop where
  /-- No chunks carry nothing. -/
  | nil : ChunkRow limits [] []
  /-- A chunk is not empty, and is held to the ceiling of frames on its own. -/
  | cons {field piece row data : Bytes} (four : field.length = 4)
      (counted : Bytes.toNatBE field = piece.length) (present : 1 ≤ piece.length)
      (framed : piece.length ≤ limits.frameSize) (others : ChunkRow limits row data) :
      ChunkRow limits (field ++ piece ++ row) (piece ++ data)

/-- What follows the path, with the body that it carries. -/
inductive Carrying (limits : Limits) : Bool → Bytes → Bytes → Prop where
  /-- A body in one piece comes behind the four octets that count it. -/
  | whole {field data : Bytes} (four : field.length = 4)
      (counted : Bytes.toNatBE field = data.length) (fits : data.length ≤ limits.messageSize) :
      Carrying limits false (field ++ data) data
  /-- Chunks are held to the ceiling of messages together, and end with a length of zero. -/
  | chunks {row data : Bytes} (chunks : ChunkRow limits row data)
      (fits : data.length ≤ limits.messageSize) :
      Carrying limits true (row ++ [0, 0, 0, 0]) data

/-- These octets spell a packet, in one piece or in chunks. -/
def Spelled (limits : Limits) (chunked : Bool) (packet : Packet) (octets : Bytes) : Prop :=
  -- The header tells how to go on, so what it opens has to be of that form.
  ∃ opening behind, octets = opening ++ behind ∧
    Opening packet.path packet.compression chunked opening ∧
    Carrying limits chunked behind packet.body

/-- Flags are those of an encoding and a form exactly when their bits say so. -/
theorem eq_flags_iff {compression : Option Compression} {chunked : Bool} {flags : UInt8} :
    flags = Header.flags compression chunked ↔
      flags &&& 0b11111000 = 0 ∧ encodings[(flags &&& 0b11).toNat]? = some compression ∧
        (flags &&& 0b100 != 0) = chunked := by
  constructor
  · rintro rfl
    rcases compression with _ | kind
    · cases chunked <;> exact ⟨rfl, rfl, rfl⟩
    · cases kind <;> cases chunked <;> exact ⟨rfl, rfl, rfl⟩
  · rintro ⟨meaningful, encoded, rfl⟩
    -- Without the higher bits there are eight flags, and each of them names its own encoding.
    have lowest : ∀ number < 256, UInt8.ofNat number &&& 0b11111000 = 0 → number < 8 := by
      decide +kernel
    have eight : ∀ number < 8,
        encodings[(UInt8.ofNat number &&& 0b11).toNat]?.map (fun compression =>
          Header.flags compression (UInt8.ofNat number &&& 0b100 != 0)) =
            some (UInt8.ofNat number) := by
      decide
    have small := lowest flags.toNat flags.toNat_lt (by simpa using meaningful)
    have again := eight flags.toNat small
    rw [UInt8.ofNat_toNat, encoded] at again
    exact (Option.some.inj again).symm

/-- A frame opens with its header and its path, however its body goes on. -/
theorem opening_iff {path : String} {compression : Option Compression} {chunked : Bool}
    {octets : Bytes} :
    Opening path compression chunked octets ↔
      (Bytes.ofString path).length < 256 ^ 2 ∧
        octets = frameMagic ++ [wireVersion, Header.flags compression chunked]
          ++ Bytes.ofNatBE 2 (Bytes.ofString path).length ++ Bytes.ofString path := by
  constructor
  · rintro @⟨flags, high, low, meaningful, encoded, formed, counted⟩
    have two : [high, low].length = 2 := rfl
    obtain ⟨small, digits⟩ :=
      Bytes.eq_ofNatBE_iff.mp ⟨two, (Bytes.toNatBE_pair high low).trans counted⟩
    rw [← eq_flags_iff.mpr ⟨meaningful, encoded, formed⟩, ← digits]
    exact ⟨small, rfl⟩
  · rintro ⟨small, rfl⟩
    obtain ⟨meaningful, encoded, formed⟩ := eq_flags_iff.mp
      (rfl : Header.flags compression chunked = _)
    -- The two octets of the length are opened up.
    have counted := Bytes.toNatBE_ofNatBE_of_lt small
    rw [Bytes.ofNatBE_two, Bytes.toNatBE_pair] at counted
    rw [Bytes.ofNatBE_two]
    exact .spelled meaningful encoded formed counted

variable {limits : Limits}

/-- Chunks in a row are pieces of a body that respect the ceiling, each put on the wire. -/
theorem chunkRow_iff {row data : Bytes} :
    ChunkRow limits row data ↔
      ∃ pieces : List Bytes, row = (pieces.map FrameBody.chunkBytes).flatten ∧
        data = pieces.flatten ∧
        ∀ piece ∈ pieces, piece ≠ [] ∧ piece.length ≤ limits.frameSize ∧
          piece.length < 256 ^ 4 := by
  constructor
  · intro chunks
    -- The induction follows the row, which is the list of its pieces.
    induction chunks with
    | nil => exact ⟨[], rfl, rfl, nofun⟩
    | @cons field piece row data four counted present framed others ih =>
      obtain ⟨pieces, rfl, rfl, bounded⟩ := ih
      obtain ⟨small, spelled⟩ := chunkBytes_of_field four counted.symm
      refine ⟨piece :: pieces, by simp [spelled], rfl, fun other member => ?_⟩
      rcases List.mem_cons.mp member with rfl | member
      · exact ⟨List.length_pos_iff.mp present, framed, small⟩
      · exact bounded other member
  · rintro ⟨pieces, rfl, rfl, bounded⟩
    -- A piece that is small enough is told from the octets that count it.
    induction pieces with
    | nil => exact .nil
    | cons piece pieces ih =>
      obtain ⟨present, framed, small⟩ := bounded piece (by simp)
      have others := ih fun other member => bounded other (by simp [member])
      exact .cons (Bytes.length_ofNatBE 4 piece.length) (Bytes.toNatBE_ofNatBE_of_lt small)
        (List.length_pos_iff.mpr present) framed others

/-- What carries a body is the body on the wire, within the ceilings. -/
theorem carrying_iff {chunked : Bool} {octets data : Bytes} :
    Carrying limits chunked octets data ↔
      ∃ body : FrameBody, body.Within limits ∧ body.isChunked = chunked ∧ body.data = data ∧
        body.toBytes = octets := by
  -- On the wire, a body in one piece is as one chunk, but with nothing behind it.
  constructor
  · rintro (⟨four, counted, fits⟩ | ⟨chunks, fits⟩)
    · obtain ⟨small, spelled⟩ := chunkBytes_of_field four counted.symm
      exact ⟨.whole data, ⟨fits, small⟩, rfl, rfl, spelled⟩
    · obtain ⟨pieces, rfl, rfl, bounded⟩ := chunkRow_iff.mp chunks
      exact ⟨.chunks pieces, ⟨bounded, fits⟩, rfl, rfl, rfl⟩
  · rintro ⟨body, within, rfl, rfl, rfl⟩
    cases body with
    | whole data =>
      exact .whole (Bytes.length_ofNatBE 4 data.length) (Bytes.toNatBE_ofNatBE_of_lt within.2)
        within.1
    | chunks pieces => exact .chunks (chunkRow_iff.mpr ⟨pieces, rfl, rfl, within.1⟩) within.2

/-- What is spelled is a frame within the ceilings, and the packet that it carries. -/
theorem spelled_iff {chunked : Bool} {packet : Packet} {octets : Bytes} :
    Spelled limits chunked packet octets ↔
      ∃ frame : Frame, frame.Within limits ∧ frame.body.isChunked = chunked ∧
        frame.packet = packet ∧ frame.toBytes = octets := by
  -- A frame is taken apart where its path ends.
  constructor
  · rintro ⟨opening, behind, rfl, opens, carries⟩
    obtain ⟨short, rfl⟩ := opening_iff.mp opens
    obtain ⟨body, within, rfl, data, rfl⟩ := carrying_iff.mp carries
    refine ⟨⟨packet.path, packet.compression, body⟩, ⟨short, within⟩, rfl, ?_, ?_⟩
    · rw [Frame.packet, data]
    · simp [Frame.toBytes, Frame.fixedBytes]
  · rintro ⟨frame, ⟨short, within⟩, rfl, rfl, rfl⟩
    refine ⟨_, _, (List.append_assoc ..).symm, opening_iff.mpr ⟨short, rfl⟩, ?_⟩
    exact carrying_iff.mpr ⟨frame.body, within, rfl, rfl, rfl⟩

/-- A packet is parsed exactly when the buffer opens with a frame that carries it. -/
theorem parse_eq_some_iff_frame {buffer : Bytes} {packet : Packet} {consumed : Nat} :
    parse buffer limits = .ok (some (packet, consumed)) ↔
      ∃ (frame : Frame) (rest : Bytes), buffer = frame.toBytes ++ rest ∧
        frame.toBytes.length = consumed ∧ frame.Within limits ∧ frame.packet = packet := by
  constructor
  · intro parsed
    obtain ⟨rest, found, counted⟩ := parse_eq_some_iff.mp parsed
    obtain ⟨frame, within, carried, rfl⟩ := cutFrame_eq_some_iff.mp found
    rw [List.length_append] at counted
    exact ⟨frame, rest, rfl, by omega, within, carried⟩
  · rintro ⟨frame, rest, rfl, rfl, within, rfl⟩
    exact parse_toBytes within rest

/-- A packet that came in one piece is put into a frame again as it came. -/
theorem toBytes_of_spelled_whole {packet : Packet} {octets : Bytes}
    (spelled : Spelled limits false packet octets) : packet.toBytes = .ok octets := by
  obtain ⟨⟨path, compression, body⟩, ⟨short, within⟩, form, rfl, rfl⟩ := spelled_iff.mp spelled
  cases body with
  | whole data => exact toBytes_of_short short within.2
  | chunks pieces => cases form

/-- A packet that came in chunks is put into a frame in one piece, if four octets can count it. -/
theorem toBytes_of_spelled_chunks {packet : Packet} {octets : Bytes}
    (spelled : Spelled limits true packet octets) (counted : packet.body.length ≤ 0xFFFFFFFF) :
    ∃ again, packet.toBytes = .ok again ∧ Spelled limits false packet again := by
  obtain ⟨⟨path, compression, body⟩, ⟨short, within⟩, form, rfl, rfl⟩ := spelled_iff.mp spelled
  cases body with
  | whole data => cases form
  | chunks pieces =>
    have small : pieces.flatten.length < 256 ^ 4 := by
      change pieces.flatten.length ≤ _ at counted
      omega
    refine ⟨_, toBytes_of_short short small, spelled_iff.mpr ?_⟩
    -- The chunks together are within the ceiling that a body in one piece is held to.
    exact ⟨⟨path, compression, .whole pieces.flatten⟩, ⟨short, within.2, small⟩, rfl, rfl, rfl⟩

/--
Parsing accepts the octets that spell a packet, and nothing else.

A packet that came in one piece is put into a frame again as it came. One that came in chunks
is put into a frame in one piece, as long as four octets can count it, and is parsed again.
-/
theorem parse_iff_spelled (limits : Limits) (buffer : Bytes) (packet : Packet) (consumed : Nat) :
    (parse buffer limits = .ok (some (packet, consumed)) ↔
      ∃ chunked octets rest, buffer = octets ++ rest ∧ octets.length = consumed ∧
        Spelled limits chunked packet octets) ∧
      (∀ octets, Spelled limits false packet octets → packet.toBytes = .ok octets) ∧
      ∀ octets, Spelled limits true packet octets → packet.body.length ≤ 0xFFFFFFFF →
        ∃ again, packet.toBytes = .ok again ∧
          parse again limits = .ok (some (packet, again.length)) := by
  have accepted {chunked : Bool} {octets : Bytes} (rest : Bytes)
      (spelled : Spelled limits chunked packet octets) :
      parse (octets ++ rest) limits = .ok (some (packet, octets.length)) := by
    obtain ⟨frame, within, _, carried, rfl⟩ := spelled_iff.mp spelled
    exact parse_eq_some_iff_frame.mpr ⟨frame, rest, rfl, rfl, within, carried⟩
  refine ⟨⟨fun parsed => ?_, ?_⟩, fun octets => toBytes_of_spelled_whole, ?_⟩
  · obtain ⟨frame, rest, rfl, rfl, within, carried⟩ := parse_eq_some_iff_frame.mp parsed
    exact ⟨_, _, rest, rfl, rfl, spelled_iff.mpr ⟨frame, within, rfl, carried, rfl⟩⟩
  · rintro ⟨chunked, octets, rest, rfl, rfl, spelled⟩
    exact accepted rest spelled
  · intro octets spelled counted
    obtain ⟨again, framed, whole⟩ := toBytes_of_spelled_chunks spelled counted
    have parsed := accepted [] whole
    rw [List.append_nil] at parsed
    exact ⟨again, framed, parsed⟩

/-- A body in two chunks, and the same body in one piece, with the start of another frame behind. -/
theorem parse_iff_spelled_joined :
    let limits : Limits := { messageSize := 3, frameSize := 2 }
    let packet : Packet := { path := "/a", compression := some .gzip, body := [7, 8, 9] }
    let octets : Bytes := [0x57, 0x43, 0x41, 0x4C, 1, 0b101, 0, 2, 0x2F, 0x61, 0, 0, 0, 2, 7, 8,
      0, 0, 0, 1, 9, 0, 0, 0, 0]
    let joined : Bytes := [0x57, 0x43, 0x41, 0x4C, 1, 0b001, 0, 2, 0x2F, 0x61, 0, 0, 0, 3, 7, 8, 9]
    Spelled limits true packet octets ∧ Spelled limits false packet joined ∧
      packet.body.length ≤ 0xFFFFFFFF ∧
      parse (octets ++ [0x57, 0x43]) limits = .ok (some (packet, octets.length)) ∧
      packet.toBytes = .ok joined ∧ parse joined limits = .ok (some (packet, joined.length)) := by
  intro limits packet octets joined
  have path : Bytes.ofString "/a" = [0x2F, 0x61] := by decide +kernel
  -- Both frames open alike, but for the flag that tells of chunks.
  have opens (flags : UInt8) {chunked : Bool} (meaningful : flags &&& 0b11111000 = 0)
      (encoded : encodings[(flags &&& 0b11).toNat]? = some (some .gzip))
      (formed : (flags &&& 0b100 != 0) = chunked) :
      Opening packet.path packet.compression chunked
        [0x57, 0x43, 0x41, 0x4C, 1, flags, 0, 2, 0x2F, 0x61] := by
    have counted : 256 * (0 : UInt8).toNat + (2 : UInt8).toNat = (Bytes.ofString "/a").length := by
      rw [path]
      rfl
    have opening := Opening.spelled meaningful encoded formed counted
    rwa [path] at opening
  have chunks : ChunkRow limits ([0, 0, 0, 2] ++ [7, 8] ++ ([0, 0, 0, 1] ++ [9] ++ []))
      ([7, 8] ++ ([9] ++ [])) :=
    .cons rfl rfl (by decide) (by decide) (.cons rfl rfl (by decide) (by decide) .nil)
  have carries : Carrying limits false ([0, 0, 0, 3] ++ [7, 8, 9]) [7, 8, 9] :=
    .whole rfl rfl (by decide)
  have spelled : Spelled limits true packet octets :=
    ⟨_, _, rfl, opens 0b101 rfl rfl rfl, .chunks chunks (by decide)⟩
  have whole : Spelled limits false packet joined := ⟨_, _, rfl, opens 0b001 rfl rfl rfl, carries⟩
  have small : packet.body.length ≤ 0xFFFFFFFF := by decide
  obtain ⟨accepts, framed, joins⟩ :=
    parse_iff_spelled limits (octets ++ [0x57, 0x43]) packet octets.length
  -- The packet that came in chunks goes out as the one that came in one piece.
  obtain ⟨again, put, parsed⟩ := joins octets spelled small
  have same := framed joined whole
  cases same.symm.trans put
  exact ⟨spelled, whole, small, accepts.mpr ⟨true, octets, _, rfl, rfl, spelled⟩, same, parsed⟩

end RemoteCall.Packet
