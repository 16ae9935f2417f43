import RemoteCall.Checksum.Crc32
import RemoteCall.Compression.Delivery
import RemoteCall.Compression.Inflate

/-! Members of the gzip format: a header, deflated data, and a check of what was deflated. -/

namespace RemoteCall.Gzip

/-- The greatest length of a name or a comment in a header. -/
def textMax : Nat := 65535

/-- What follows a text that a zero ends. -/
def skipText (bytes : Bytes) : Option Bytes :=
  match bytes.span (· ≠ 0) with
  | (text, _ :: rest) => if text.length ≤ textMax then some rest else none
  | (_, []) => none

/-- What follows a header, if the header is in order. -/
def skipHeader (bytes : Bytes) : Option Bytes :=
  match bytes with
  | 0x1F :: 0x8B :: 8 :: flags :: _ :: _ :: _ :: _ :: _ :: _ :: rest => do
    let has (flag : UInt8) : Bool := flags &&& flag ≠ 0
    if has 0xE0 then none
    let rest ←
      if has 4 then do
        let (field, rest) ← Bytes.splitExact? 2 rest
        let (_, rest) ← Bytes.splitExact? (Bytes.toNatLE field) rest
        pure rest
      else pure rest
    let rest ← if has 8 then skipText rest else pure rest
    let rest ← if has 16 then skipText rest else pure rest
    if has 2 then do
      let (field, after) ← Bytes.splitExact? 2 rest
      let check := Crc32.ofBytes (bytes.take (bytes.length - rest.length))
      if Bytes.toNatLE field = check.toNat % 0x10000 then some after else none
    else some rest
  | _ => none

/-- The stretch that a decoder decodes ahead of what is read from it. -/
def windowSize : Nat := 32768

/--
What the first member of a sequence delivers.

A contradiction in the deflated data is noticed while its stretch is decoded, and then nothing of
the stretch is delivered; a missing end or a wrong check is noticed when all else is delivered.
-/
def deliver (bytes : Bytes) : Delivery :=
  match skipHeader bytes with
  | none => { pieces := #[], intact := false }
  | some deflated =>
    let data : ByteArray := ⟨deflated.toArray⟩
    match Inflate.run data 0 with
    | .error .corrupt state =>
      let length := Delivery.fullStretches windowSize state.output.size
      { pieces := Delivery.ofOutput state.output length, intact := false }
    | .error .truncated state =>
      { pieces := Delivery.ofOutput state.output state.output.size, intact := false }
    | .ok () state =>
      let output := state.output
      let trailer := (state.position + 7) / 8
      let check := Bits.octets data trailer 4
      let size := Bits.octets data (trailer + 4) 4
      { pieces := Delivery.ofOutput output output.size
        intact := trailer + 8 ≤ data.size && check == (Crc32.ofByteArray output).toNat
          && size == output.size % 0x100000000 }

/-- A member of the gzip format is delivered in short reads, intact or not. -/
theorem deliver_short (bytes : Bytes) : (deliver bytes).results.Short := by
  apply Delivery.results_short
  unfold deliver
  split
  · exact .empty
  · simp only
    split <;> exact Delivery.ofOutput_short _ _

/-- The fixed part of a header that says nothing beyond the method. -/
def plainHeader : Bytes := [0x1F, 0x8B, 8, 0, 0, 0, 0, 0, 0, 0xFF]

/-- Blocks of bytes as they are, of which the last is marked. -/
def storedBlocks (bytes : Bytes) : Bytes :=
  let block := bytes.take 65535
  let rest := bytes.drop 65535
  let final : UInt8 := if rest.isEmpty then 1 else 0
  let length := block.length
  let field := Bytes.ofNatLE 2 length ++ Bytes.ofNatLE 2 (65535 - length)
  if _ended : rest.isEmpty then final :: (field ++ block)
  else final :: (field ++ block ++ storedBlocks rest)
termination_by bytes.length
decreasing_by
  simp only [List.isEmpty_iff, rest, List.drop_eq_nil_iff] at _ended
  simp only [List.length_drop]
  omega

/-- A member that holds bytes as they are. -/
def store (bytes : Bytes) : Bytes :=
  plainHeader ++ storedBlocks bytes ++ Bytes.ofNatLE 4 (Crc32.ofBytes bytes).toNat
    ++ Bytes.ofNatLE 4 bytes.length

end RemoteCall.Gzip
