import RemoteCall.Bytes
import RemoteCall.Checksum.Xxh64
import RemoteCall.Compression.Delivery
import RemoteCall.Compression.Zstd.Literals
import RemoteCall.Compression.Zstd.Sequences

/-! Frames of blocks in the Zstandard format, one after another. -/

namespace RemoteCall.Zstd

/-- What a frame begins with. -/
def frameMagic : Bytes := [0x28, 0xB5, 0x2F, 0xFD]

/-- What the header of a frame says about its blocks. -/
structure FrameHeader where
  /-- How far back an offset may reach, which also bounds a block. -/
  window : Nat
  contentSize : Option Nat
  hasChecksum : Bool
  /-- Where the blocks begin. -/
  next : Nat

namespace FrameHeader

/-- The greatest window that a decoder makes room for. -/
def windowMax : Nat := 0x8000001

/-- The greatest exponent of a window. -/
def windowLogMax : Nat := 31

/-- The greatest size of a block. -/
def blockSizeMax : Nat := 128 * 1024

/-- The window that an octet tells. -/
def windowOf (octet : Nat) : Nat :=
  let base := 1024 <<< (octet / 8)
  base + base / 8 * (octet % 8)

/-- Reads the header that follows the magic at a position; no dictionary may be asked for. -/
def take? (data : ByteArray) (position : Nat) : Option FrameHeader := do
  if frameMagic ≠ (List.range 4).map (Bits.octet data <| position + ·) then none
  let told := (Bits.octet data (position + 4)).toNat
  if told / 8 % 2 = 1 then none
  let isSingle := told / 32 % 2 = 1
  let windowOctet := (Bits.octet data (position + 5)).toNat
  let dictionary := position + if isSingle then 5 else 6
  let dictionaryWidth := [0, 1, 2, 4].getD (told % 4) 0
  let content := dictionary + dictionaryWidth
  let contentWidth := [if isSingle then 1 else 0, 2, 4, 8].getD (told / 64) 0
  let next := content + contentWidth
  if data.size < next ∨ Bits.octets data dictionary dictionaryWidth ≠ 0 then none
  let number := Bits.octets data content contentWidth + if contentWidth = 2 then 256 else 0
  if ¬ isSingle ∧ windowLogMax < 10 + windowOctet / 8 then none
  return {
    window := if isSingle then number else windowOf windowOctet
    contentSize := if contentWidth = 0 then none else some number
    hasChecksum := told / 4 % 2 = 1
    next }

/-- A frame whose content fits a single read is decoded at once. -/
def isWhole (header : FrameHeader) : Bool :=
  header.contentSize.any (· ≤ readSize)

/-- The greatest size of a block of the frame. -/
def blockMax (header : FrameHeader) : Nat := min header.window blockSizeMax

/-- The greatest size of what a block of the frame decodes to. -/
def outputMax (header : FrameHeader) : Nat :=
  if header.isWhole then blockSizeMax else header.blockMax

end FrameHeader

/-- A step in a frame, which keeps what earlier blocks gave also when the step fails. -/
abbrev FrameM := EStateM DecodeFault ByteArray

/-- Fails where a decoder found no answer. -/
def orCorrupt : Option α → FrameM α
  | some result => pure result
  | none => throw .corrupt

/-- What blocks leave for later ones. -/
structure BlockState where
  code : Option PrefixCode := none
  carried : Carried := {}

/-- Decodes literals and sequences of a block, after what earlier blocks gave. -/
def decodeBlock (header : FrameHeader) (data : ByteArray) (start stop : Nat)
    (earlier : ByteArray) (state : BlockState) : Option (ByteArray × BlockState) := do
  if stop < start + 2 then none
  let literals ← Literals.take? data start stop header.blockMax state.code
  let (output, carried) ← decodeSequences data literals.next stop earlier literals.octets
    header.outputMax state.carried
  return (output, { code := literals.code, carried })

/-- Tells where a checksum ends, if there is one, and compares it. -/
def takeChecksum (header : FrameHeader) (data : ByteArray) (position : Nat) : FrameM Nat := do
  unless header.hasChecksum do return position
  if data.size < position + 4 then throw .truncated
  let check := (Xxh64.ofByteArray (← get)).toNat % 0x100000000
  if check ≠ Bits.octets data position 4 then throw .corrupt
  return position + 4

/--
Decodes blocks up to the last one, and tells where the frame ends.

Each block has a header of three octets, which bounds the fuel. The size of the content is checked
together with the last block, unless that is empty and the frame is not decoded at once.
-/
def takeBlocks (header : FrameHeader) (data : ByteArray) :
    (fuel position : Nat) → BlockState → FrameM Nat
  | 0, _, _ => throw .truncated
  | fuel + 1, position, state => do
    if data.size < position + 3 then throw .truncated
    let told := Bits.octets data position 3
    let isLast := told % 2 = 1
    let size := told / 8
    let start := position + 3
    let form := told / 2 % 4
    let stop := start + if form = 1 then 1 else size
    if form = 3 ∨ (form = 2 ∧ header.blockMax < size) then throw .corrupt
    if form < 2 ∧ header.outputMax < size then throw .corrupt
    if data.size < stop then throw .truncated
    let (output, state) ←
      match form with
      | 0 => pure (data.extract start stop, state)
      | 1 => pure (⟨Array.replicate size (Bits.octet data start)⟩, state)
      | _ =>
        if size = 0 ∧ ¬ header.isWhole then pure (.empty, state)
        else orCorrupt (decodeBlock header data start stop (← get) state)
    if isLast ∧ (start < stop ∨ header.isWhole) then
      if header.contentSize.any (· ≠ (← get).size + output.size) then throw .corrupt
    modify (· ++ output)
    if isLast then takeChecksum header data stop else takeBlocks header data fuel stop state

/-- Where a frame that is to be skipped ends, if one begins at a position. -/
def skippedFrame? (data : ByteArray) (position : Nat) : Option Nat :=
  let magic := Bits.octets data position 4
  if data.size < position + 4 ∨ magic / 16 ≠ 0x184D2A5 then none
  else
    let next := position + 8
    if data.size < next then some next else some (next + Bits.octets data (position + 4) 4)

/-- The reads that a frame gives, and where it ends if it is intact. -/
def takeFrame (data : ByteArray) (position : Nat) : Array Bytes × Option Nat :=
  match FrameHeader.take? data position with
  | none => (#[], none)
  | some header =>
    let isTooWide := FrameHeader.windowMax < header.window
    if isTooWide ∧ ¬ header.isWhole then (#[], none)
    else
      match takeBlocks header data (data.size + 1) header.next {} .empty with
      | .ok next output => (Delivery.ofOutput output output.size, some next)
      | .error .truncated output =>
        (if isTooWide then #[] else Delivery.ofOutput output output.size, none)
      | .error .corrupt output =>
        (Delivery.ofOutput output (Delivery.fullStretches readSize output.size), none)

/-- What frames give from a position on; each takes an octet at least, which bounds the fuel. -/
def deliverFrom (data : ByteArray) : (fuel position : Nat) → (pieces : Array Bytes) → Delivery
  | 0, _, pieces => { pieces, intact := false }
  | fuel + 1, position, pieces =>
    if data.size ≤ position then { pieces, intact := position == data.size }
    else
      match skippedFrame? data position with
      | some next => deliverFrom data fuel next pieces
      | none =>
        match takeFrame data position with
        | (more, none) => { pieces := pieces ++ more, intact := false }
        | (more, some next) => deliverFrom data fuel next (pieces ++ more)

/-- What a sequence of frames delivers, of which there has to be one at least. -/
def deliver (bytes : Bytes) : Delivery :=
  let data : ByteArray := ⟨bytes.toArray⟩
  if bytes.isEmpty then { pieces := #[], intact := false }
  else deliverFrom data (data.size + 1) 0 #[]

/-- Whatever a frame gives, it gives in short reads. -/
theorem takeFrame_short (data : ByteArray) (position : Nat) :
    Delivery.ShortPieces (takeFrame data position).1 := by
  unfold takeFrame
  split
  -- Without a header, or with too wide a window, nothing is read.
  · exact .empty
  · simp only
    split
    · exact .empty
    · split
      -- The blocks end well, are cut short, or contradict themselves.
      · exact Delivery.ofOutput_short _ _
      · simp only
        split
        · exact .empty
        · exact Delivery.ofOutput_short _ _
      · exact Delivery.ofOutput_short _ _

/-- Frame after frame, what is delivered stays in short reads. -/
theorem deliverFrom_short (data : ByteArray) {fuel position : Nat} {pieces : Array Bytes}
    (before : Delivery.ShortPieces pieces) :
    Delivery.ShortPieces (deliverFrom data fuel position pieces).pieces := by
  -- The induction follows the frames; only a frame that holds blocks adds reads.
  fun_induction deliverFrom data fuel position pieces with
  | case1 | case2 => exact before
  | case3 fuel position pieces _ next _ ih => exact ih before
  | case4 fuel position pieces _ _ more taken =>
    have short := takeFrame_short data position
    rw [taken] at short
    exact before.append short
  | case5 fuel position pieces _ _ more next taken ih =>
    have short := takeFrame_short data position
    rw [taken] at short
    exact ih (before.append short)

theorem deliver_short (bytes : Bytes) : (deliver bytes).results.Short := by
  apply Delivery.results_short
  unfold deliver
  simp only
  split
  · exact .empty
  · exact deliverFrom_short _ .empty

/-- Blocks of bytes as they are, of which the last is marked. -/
def storedBlocks (bytes : Bytes) : Bytes :=
  let block := bytes.take FrameHeader.blockSizeMax
  let rest := bytes.drop FrameHeader.blockSizeMax
  if _ended : rest.isEmpty then Bytes.ofNatLE 3 (8 * block.length + 1) ++ block
  else Bytes.ofNatLE 3 (8 * block.length) ++ block ++ storedBlocks rest
termination_by bytes.length
decreasing_by
  simp only [List.isEmpty_iff, rest, List.drop_eq_nil_iff, FrameHeader.blockSizeMax] at _ended
  simp only [List.length_drop, FrameHeader.blockSizeMax]
  omega

/-- A frame that holds bytes as they are, in a window of the greatest size of a block. -/
def store (bytes : Bytes) : Bytes :=
  frameMagic ++ [0, 56] ++ storedBlocks bytes

end RemoteCall.Zstd
