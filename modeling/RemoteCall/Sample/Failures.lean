import RemoteCall.Failure
import RemoteCall.Limits

/-! Failures that the sample server is asked for, with what they say packed into one text. -/

namespace RemoteCall.Sample

/-- The ceiling that a word stands for. -/
def ceilingOf : String → Ceiling
  | "message" => .messageSize
  | "frame" => .frameSize
  | _ => .recursionDepth

/-- The number that a text denotes, or zero where it denotes none up to a bound. -/
private def numberOf (bound : Nat) (text : String) : Nat :=
  ((Decimal.unsigned? text.toList).filter (· ≤ bound)).getD 0

/-- The failure of a kind; a kind that is not known makes one of no particular kind. -/
def failureOf (kind text : String) : Failure :=
  let parts := text.splitOn "|"
  let part (index : Nat) : String := parts.getD index ""
  match kind with
  | "Io" => .stream (.described text)
  | "Serialization" => .malformed (.described text)
  | "LimitExceeded" =>
    .limitExceeded (ceilingOf (part 0)) (numberOf wordMax (part 1)) (numberOf wordMax (part 2))
  | "InvalidHeader" => .invalidHeader
  | "UnsupportedVersion" => .unsupportedVersion (UInt8.ofNat (numberOf 255 text))
  | "CompressionFailure" => .compression
  | "DecompressionFailure" => .decompression
  | "ConfigError" => .misconfigured (.described text)
  | "HandlerNotFound" => .handlerNotFound text
  | "DuplicateHandler" => .duplicateHandler text
  | "UnknownService" => .unknownService text
  | "RemoteExecution" => .remoteExecution (part 0) (part 1)
  | "Communication" => .communication text
  | "Timeout" => .timeout
  | "NotAuthorized" => .notAuthorized text
  | "NotAuthenticated" => .notAuthenticated text
  | _ => .custom text

end RemoteCall.Sample
