import RemoteCall.Settings.Fault
import RemoteCall.Settings.Problem
import RemoteCall.Text.Utf8
import RemoteCall.Typed.Mismatch

/-! Everything that can go wrong in a remote call, as causes, with their kinds and texts. -/

namespace RemoteCall

/-- A bound on what the codec accepts or produces. -/
inductive Ceiling where
  /-- The encoded size of one message. -/
  | messageSize
  /-- The size of a single length-prefixed item, or of a chunk. -/
  | frameSize
  /-- How deep containers nest. -/
  | recursionDepth
  deriving DecidableEq, Repr

/-- The name of a ceiling. -/
def Ceiling.name : Ceiling → String
  | .messageSize => "max message size"
  | .frameSize => "max frame size"
  | .recursionDepth => "recursion depth"

/-- Why a read or a write of a byte stream did not succeed. -/
inductive StreamError where
  /-- The source ended before a field was complete. -/
  | exhausted
  /-- The source ended inside the body of a frame. -/
  | bodyEndedEarly
  /-- The sink accepted nothing of a write. -/
  | nothingAccepted
  /-- The sink accepted nothing of what a buffer passed on. -/
  | bufferRefused
  /-- The sink has reached its capacity. -/
  | sinkFull
  /-- The source is broken. -/
  | sourceFailed
  /-- A cause known by its text alone. -/
  | described (text : String)
  deriving DecidableEq, Repr

namespace StreamError

/-- The text of a stream error. -/
def message : StreamError → String
  | .exhausted => "failed to fill whole buffer"
  | .bodyEndedEarly => "frame body ended early"
  | .nothingAccepted => "failed to write whole buffer"
  | .bufferRefused => "failed to write the buffered data"
  | .sinkFull => "sink full"
  | .sourceFailed => "source failed"
  | .described text => text

/-- The source ended where more data was due. -/
def isUnexpectedEnd : StreamError → Bool
  | .exhausted | .bodyEndedEarly => true
  | _ => false

end StreamError

/-- Why bytes are no message, or a message is not the one expected. -/
inductive Malformation where
  | unexpectedEnd
  | trailingBytes
  /-- A value opens with a tag that stands for nothing; the offset counts the stream's bytes. -/
  | unknownTag (tag : UInt8) (offset : Nat)
  | invalidText (fault : Utf8Fault)
  /-- A value is tagged otherwise than expected, or not at all. -/
  | wrongTag (expected found : String)
  /-- A field of a tagged object holds a value of another kind. -/
  | wrongField (typeName field expected found : String)
  | fieldOutOfRange (typeName field : String) (number : Nat)
  /-- Only named fields can carry a type name. -/
  | notFields (typeName found : String)
  | mismatch (cause : Mismatch)
  | untaggedRequest
  | missingArgument (interface method : String)
  /-- A cause known by its text alone. -/
  | described (text : String)
  deriving DecidableEq, Repr

/-- An octet in two hexadecimal digits. -/
private def hexOctet (byte : UInt8) : String :=
  String.ofList [Nat.digitChar (byte.toNat / 16), Nat.digitChar (byte.toNat % 16)]

/-- The text of a malformation. -/
def Malformation.message : Malformation → String
  | .unexpectedEnd => "Unexpected end of message"
  | .trailingBytes => "Trailing bytes after message"
  | .unknownTag tag offset => s!"unknown value tag 0x{hexOctet tag} at offset {offset}"
  | .invalidText fault => "invalid utf-8 in string: " ++ fault.message
  | .wrongTag expected found => s!"expected {expected}, found {found}"
  | .wrongField typeName field expected found =>
    s!"{typeName}.{field}: expected {expected}, found {found}"
  | .fieldOutOfRange typeName field number => s!"{typeName}.{field}: {number} is out of range"
  | .notFields typeName found =>
    s!"{typeName} must serialize as a struct with named fields, found {found}"
  | .mismatch cause => cause.message .compact
  | .untaggedRequest => "Request is not a tagged object"
  | .missingArgument interface method => s!"{interface}.{method}: missing argument"
  | .described text => text

/-- Why a file cannot be opened or written. -/
inductive FileError where
  | notFound
  deriving DecidableEq, Repr

/-- The text of a file error. -/
def FileError.message : FileError → String
  | .notFound => "No such file or directory (os error 2)"

/-- What is wrong with how the parties were set up. -/
inductive Misconfiguration where
  | noEndpoint (path : String)
  | pathTooLong (path : String)
  /-- The file of the settings cannot be opened. -/
  | cannotOpen (cause : FileError)
  /-- The file of the settings holds no text. -/
  | notText
  | cannotParse (fault : SettingsFault)
  /-- A setting exceeds the numbers of the written form. -/
  | numberTooLarge
  | cannotWrite (cause : FileError)
  | invalid (problems : List SettingsProblem)
  /-- A cause known by its text alone. -/
  | described (text : String)
  deriving DecidableEq, Repr

/-- The text of a misconfiguration. -/
def Misconfiguration.message : Misconfiguration → String
  | .noEndpoint path => s!"no endpoint at path {path}"
  | .pathTooLong path => s!"endpoint path too long: {path}"
  | .cannotOpen cause => "Failed to open config file: " ++ cause.message
  | .notText => "Failed to read config file: stream did not contain valid UTF-8"
  | .cannotParse fault => "Failed to parse TOML: " ++ fault.message
  | .numberTooLarge => "Failed to serialize config: out-of-range value for u64 type"
  | .cannotWrite cause => "Failed to write config file: " ++ cause.message
  | .invalid problems =>
    "Configuration validation failed:\n  - "
      ++ "\n  - ".intercalate (problems.map SettingsProblem.message)
  | .described text => text

/-- Why a remote call, or a step of one, failed. -/
inductive Failure where
  | stream (cause : StreamError)
  | malformed (cause : Malformation)
  | limitExceeded (ceiling : Ceiling) (limit actual : Nat)
  | invalidHeader
  | unsupportedVersion (version : UInt8)
  | compression
  | decompression
  | misconfigured (cause : Misconfiguration)
  | handlerNotFound (typeName : String)
  | duplicateHandler (typeName : String)
  | unknownService (name : String)
  /-- The far side failed, and told the kind and text of its failure. -/
  | remoteExecution (errorType message : String)
  | communication (text : String)
  | timeout
  | notAuthorized (text : String)
  | notAuthenticated (text : String)
  | custom (text : String)
  deriving DecidableEq, Repr

namespace Failure

/-- What callers are told first when a call did not go through. -/
private def postFailed : String := "unable to post request to server"

/-- The text of a failure. -/
def message : Failure → String
  | .stream cause => "I/O error: " ++ cause.message
  | .malformed cause => "Serialization error: " ++ cause.message
  | .limitExceeded ceiling limit actual => s!"{ceiling.name} exceeded: {actual} > {limit}"
  | .invalidHeader => "Invalid frame header"
  | .unsupportedVersion version => s!"Unsupported protocol version: {version.toNat}"
  | .compression => "Compression failed"
  | .decompression => "Decompression failed"
  | .misconfigured cause => "Configuration error: " ++ cause.message
  | .handlerNotFound typeName => "No handler registered for request type " ++ typeName
  | .duplicateHandler typeName => "Multiple handlers registered for request type " ++ typeName
  | .unknownService name => "No remote service registered for interface " ++ name
  | .remoteExecution _ message => s!"{postFailed}: {message}"
  | .communication text => s!"{postFailed}: {text}"
  | .timeout => "Timeout occurred"
  | .notAuthorized text => text
  | .notAuthenticated text => "Not authenticated: " ++ text
  | .custom text => "Custom error: " ++ text

/-- The short stable name that a failure goes by on the wire. -/
def kind : Failure → String
  | .stream _ => "Io"
  | .malformed _ => "Serialization"
  | .limitExceeded .. => "LimitExceeded"
  | .invalidHeader => "InvalidHeader"
  | .unsupportedVersion _ => "UnsupportedVersion"
  | .compression => "CompressionFailure"
  | .decompression => "DecompressionFailure"
  | .misconfigured _ => "ConfigError"
  | .handlerNotFound _ => "HandlerNotFound"
  | .duplicateHandler _ => "DuplicateHandler"
  | .unknownService _ => "UnknownService"
  | .remoteExecution .. => "RemoteExecution"
  | .communication _ => "Communication"
  | .timeout => "Timeout"
  | .notAuthorized _ => "NotAuthorized"
  | .notAuthenticated _ => "NotAuthenticated"
  | .custom _ => "Custom"

/-- Malformed bytes or an exceeded ceiling, which no retry can mend. -/
def isProtocol : Failure → Bool
  | .malformed _ | .limitExceeded .. | .invalidHeader | .unsupportedVersion _
  | .compression | .decompression => true
  | _ => false

/-- A mistake in how the parties were set up. -/
def isConfiguration : Failure → Bool
  | .misconfigured _ | .handlerNotFound _ | .duplicateHandler _ | .unknownService _ => true
  | _ => false

/-- The request never arrived, or the answer never came back. -/
def isCommunication : Failure → Bool
  | .communication _ | .stream _ | .timeout => true
  | _ => false

end Failure

end RemoteCall
