import RemoteCall.Failure

/-! The content encodings that a body may carry. -/

namespace RemoteCall

/-- A content encoding. -/
inductive Compression where
  | gzip
  | lz4
  | zstd
  deriving DecidableEq, Repr

namespace Compression

/-- All content encodings. -/
def all : List Compression := [.gzip, .lz4, .zstd]

/-- The two flag bits that stand for an encoding in a frame. -/
def flag : Compression → UInt8
  | .gzip => 1
  | .lz4 => 2
  | .zstd => 3

/-- The flag bits of an encoding or of its absence. -/
def flagOf : Option Compression → UInt8
  | none => 0
  | some kind => kind.flag

/-- The encoding that flag bits stand for, none being an unencoded body. -/
def ofFlag (bits : UInt8) : Except Failure (Option Compression) :=
  match bits.toNat with
  | 0 => .ok none
  | 1 => .ok (some .gzip)
  | 2 => .ok (some .lz4)
  | 3 => .ok (some .zstd)
  | _ => .error .invalidHeader

/-- The name of an encoding. -/
def name : Compression → String
  | .gzip => "gzip"
  | .lz4 => "lz4"
  | .zstd => "zstd"

/-- The encoding of a name. -/
def ofName? : String → Option Compression
  | "gzip" => some .gzip
  | "lz4" => some .lz4
  | "zstd" => some .zstd
  | _ => none

end Compression

end RemoteCall
