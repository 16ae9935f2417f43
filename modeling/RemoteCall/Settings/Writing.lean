import RemoteCall.Settings.Basic
import RemoteCall.Toml.Format

/-! Writing of settings to documents. -/

namespace RemoteCall

open Toml

/-- A number, which the written form holds only below two to the sixty-third. -/
def writtenWord (number : UInt64) : Except Failure Scalar :=
  if number < 0x8000000000000000 then .ok (.integer number.toInt64)
  else .error (.misconfigured .numberTooLarge)

/-- A span of time in milliseconds, which wrap around past sixty-four bits. -/
def Duration.written (span : Duration) : Except Failure Scalar :=
  writtenWord span.toMilliseconds.toUInt64

/-- An entry, unless there is nothing to write. -/
def writtenOption {α : Type} (key : String) (write : α → Except Failure Scalar) :
    Option α → Except Failure (List (String × Scalar))
  | none => .ok []
  | some content => do return [(key, ← write content)]

/-- The entries of the settings of a server. -/
def ServerSettings.entries (settings : ServerSettings) :
    Except Failure (List (String × Scalar)) := do
  return [("address", .string settings.address)]
    ++ (← writtenOption "host_label" (fun label => .ok (.string label)) settings.hostLabel)
    ++ [("max_connections", ← writtenWord settings.maxConnections),
      ("shutdown_timeout", ← settings.shutdownTimeout.written)]

/-- The entries of the settings of a caller. -/
def ClientSettings.entries (settings : ClientSettings) :
    Except Failure (List (String × Scalar)) := do
  return [("http_server", .string settings.httpServer),
    ("localization_server", .string settings.localizationServer),
    ("endpoint_path", .string settings.endpointPath),
    ("connection_timeout", ← settings.connectionTimeout.written),
    ("response_timeout", ← settings.responseTimeout.written),
    ("slow_call_threshold", ← settings.slowCallThreshold.written)]

/-- The entries of the settings for bodies. -/
def TransportSettings.entries (settings : TransportSettings) :
    Except Failure (List (String × Scalar)) := do
  return [("stream_requests", .boolean settings.streamRequests)]
    ++ (← writtenOption "compression" (fun kind => .ok (.string kind.name)) settings.compression)
    ++ (← writtenOption "rate_limit_bytes_per_sec" writtenWord settings.rateLimit)
    ++ (← writtenOption "rate_limit_burst" writtenWord settings.rateLimitBurst)

/-- The entries of the settings for logs. -/
def LoggingSettings.entries (settings : LoggingSettings) : List (String × Scalar) :=
  [("app_name", .string settings.appName), ("log_level", .string settings.level.name),
    ("json_format", .boolean settings.jsonFormat)]

namespace Settings

/-- The sections of a document that holds the settings. -/
def toSections (settings : Settings) : Except Failure Sections := do
  return [("server", ← settings.server.entries), ("client", ← settings.client.entries),
    ("transport", ← settings.transport.entries), ("logging", settings.logging.entries)]

/-- The text of a document that holds the settings. -/
def toText (settings : Settings) (format : Format := .standard) : Except Failure String :=
  return format.write (← settings.toSections)

/-- The text of a document that holds the default settings. -/
def exampleText (format : Format := .standard) : Except Failure String :=
  ({} : Settings).toText format

/-- Saves the settings to a file, whose writing may fail. -/
def toFile {α : Type} (settings : Settings) (write : String → Except FileError α)
    (format : Format := .standard) : Except Failure α := do
  (write (← settings.toText format)).mapError fun cause => .misconfigured (.cannotWrite cause)

end Settings

end RemoteCall
