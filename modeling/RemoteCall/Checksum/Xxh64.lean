/-! The 64-bit hash of octets by multiplication and rotation that guards frames of blocks. -/

namespace RemoteCall.Xxh64

/-- The odd factors of the hash. -/
def factors : Vector UInt64 5 :=
  #v[0x9E3779B185EBCA87, 0xC2B2AE3D27D4EB4F, 0x165667B19E3779F9, 0x85EBCA77C2B2AE63,
    0x27D4EB2F165667C5]

/-- Moves the bits up, those at the top to the bottom. -/
def rotate (word : UInt64) (distance : UInt64) : UInt64 :=
  (word <<< distance) ||| (word >>> (64 - distance))

/-- Mixes one word into a lane. -/
def mix (lane word : UInt64) : UInt64 :=
  rotate (lane + word * factors[1]) 31 * factors[0]

/-- Mixes a lane into the hash of all four. -/
def merge (hash lane : UInt64) : UInt64 :=
  (hash ^^^ mix 0 lane) * factors[0] + factors[3]

/-- The word of so many octets at a position, least significant first. -/
def word (data : ByteArray) (position : Nat) : (count : Nat) → UInt64
  | 0 => 0
  | count + 1 =>
    let octet := if inside : position < data.size then data[position] else 0
    octet.toUInt64 ||| (word data (position + 1) count <<< 8)

/-- Four lanes, each of which takes every fourth word. -/
structure Lanes where
  first : UInt64 := factors[0] + factors[1]
  second : UInt64 := factors[1]
  third : UInt64 := 0
  fourth : UInt64 := -factors[0]

namespace Lanes

/-- Mixes a stripe of four words in. -/
def mixStripe (lanes : Lanes) (data : ByteArray) (position : Nat) : Lanes where
  first := mix lanes.first (word data position 8)
  second := mix lanes.second (word data (position + 8) 8)
  third := mix lanes.third (word data (position + 16) 8)
  fourth := mix lanes.fourth (word data (position + 24) 8)

/-- The hash of all lanes. -/
def join (lanes : Lanes) : UInt64 :=
  let sum := rotate lanes.first 1 + rotate lanes.second 7 + rotate lanes.third 12
    + rotate lanes.fourth 18
  [lanes.first, lanes.second, lanes.third, lanes.fourth].foldl merge sum

end Lanes

/-- Mixes so many single octets in. -/
def mixOctets (data : ByteArray) (position : Nat) : (count : Nat) → UInt64 → UInt64
  | 0, hash => hash
  | count + 1, hash =>
    mixOctets data (position + 1) count
      (rotate (hash ^^^ word data position 1 * factors[4]) 11 * factors[0])

/-- Mixes in what no stripe holds: whole words, then half a word, then octets. -/
def mixRest (data : ByteArray) (position : Nat) (hash : UInt64) : UInt64 :=
  if position + 8 ≤ data.size then
    mixRest data (position + 8)
      (rotate (hash ^^^ mix 0 (word data position 8)) 27 * factors[0] + factors[3])
  else if position + 4 ≤ data.size then
    let hash := rotate (hash ^^^ word data position 4 * factors[0]) 23 * factors[1] + factors[2]
    mixOctets data (position + 4) (data.size - (position + 4)) hash
  else mixOctets data position (data.size - position) hash
termination_by data.size - position

/-- Spreads every bit over the whole hash. -/
def spread (hash : UInt64) : UInt64 :=
  let hash := (hash ^^^ (hash >>> 33)) * factors[1]
  let hash := (hash ^^^ (hash >>> 29)) * factors[2]
  hash ^^^ (hash >>> 32)

/-- The hash of a byte array. -/
def ofByteArray (data : ByteArray) : UInt64 :=
  let stripes := data.size / 32
  let start :=
    if stripes = 0 then factors[4]
    else (stripes.fold (fun index _ lanes => lanes.mixStripe data (32 * index)) ({} : Lanes)).join
  spread (mixRest data (32 * stripes) (start + data.size.toUInt64))

end RemoteCall.Xxh64
