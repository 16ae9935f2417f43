import RemoteCall.Bytes

/-! The cyclic redundancy check that guards compressed members and their headers. -/

namespace RemoteCall.Crc32

/-- One step of the division, by the polynomial with its bits reversed. -/
private def step (remainder : UInt32) : UInt32 :=
  if remainder % 2 = 1 then (remainder >>> 1) ^^^ 0xEDB88320 else remainder >>> 1

/-- The remainder of every octet. -/
private def table : Array UInt32 :=
  (Array.range 256).map fun octet => Nat.repeat step 8 octet.toUInt32

/-- Takes one more octet into the check. -/
def update (check : UInt32) (octet : UInt8) : UInt32 :=
  table.getD ((check ^^^ octet.toUInt32) % 256).toNat 0 ^^^ (check >>> 8)

/-- The check of a byte sequence. -/
def ofBytes (bytes : Bytes) : UInt32 :=
  bytes.foldl update 0xFFFFFFFF ^^^ 0xFFFFFFFF

/-- The check of a byte array. -/
def ofByteArray (bytes : ByteArray) : UInt32 :=
  bytes.foldl update 0xFFFFFFFF ^^^ 0xFFFFFFFF

end RemoteCall.Crc32
