import RemoteCall.Settings.Basic
import RemoteCall.Settings.RecordField
import RemoteCall.Toml.Format

/-! Reading of settings from documents. -/

namespace RemoteCall

namespace Reading

/-- Reads a span of time, given in milliseconds. -/
def duration (value : Toml.Value) : Reading Duration :=
  .ofMilliseconds <$> word "u64" value

/-- Reads the level of a name or number. -/
def level (value : Toml.Value) : Reading LogLevel := do
  let name ← string value
  match LogLevel.ofText? name with
  | some level => return level
  | none => throw (.unknownLevel name)

/-- Reads a content encoding by its name. -/
def namedCompression (name : String) : Reading Compression :=
  match Compression.ofName? name with
  | some kind => .ok kind
  | none => .error (.unknownChoice name (Compression.all.map Compression.name))

/-- Reads a content encoding: its name, or a table with that name and nothing in its place. -/
def compression : Toml.Value → Reading Compression
  | .string name => namedCompression name
  | .table [(name, content)] => do
    let kind ← namedCompression name
    match content with
    | .table [] | .array [] => return kind
    | _ => throw .noChoice
  | _ => .error .noChoice

end Reading

open RecordField Reading

/-- The fields of the settings of a server. -/
def ServerSettings.fields : List (RecordField ServerSettings) :=
  [required "address" string fun settings address => { settings with address },
    allowed "host_label" string fun settings label => { settings with hostLabel := some label },
    required "max_connections" (word "usize") fun settings maxConnections =>
      { settings with maxConnections },
    required "shutdown_timeout" duration fun settings shutdownTimeout =>
      { settings with shutdownTimeout }]

/-- The fields of the settings of a caller. -/
def ClientSettings.fields : List (RecordField ClientSettings) :=
  [required "http_server" string fun settings httpServer => { settings with httpServer },
    required "localization_server" string fun settings localizationServer =>
      { settings with localizationServer },
    required "endpoint_path" string fun settings endpointPath => { settings with endpointPath },
    required "connection_timeout" duration fun settings connectionTimeout =>
      { settings with connectionTimeout },
    required "response_timeout" duration fun settings responseTimeout =>
      { settings with responseTimeout },
    required "slow_call_threshold" duration fun settings slowCallThreshold =>
      { settings with slowCallThreshold }]

/-- The fields of the settings for bodies. -/
def TransportSettings.fields : List (RecordField TransportSettings) :=
  [required "stream_requests" boolean fun settings streamRequests =>
      { settings with streamRequests },
    allowed "compression" Reading.compression fun settings kind =>
      { settings with compression := some kind },
    allowed "rate_limit_bytes_per_sec" (word "u64") fun settings rate =>
      { settings with rateLimit := some rate },
    allowed "rate_limit_burst" (word "u64") fun settings burst =>
      { settings with rateLimitBurst := some burst }]

/-- The fields of the settings for logs. -/
def LoggingSettings.fields : List (RecordField LoggingSettings) :=
  [required "app_name" string fun settings appName => { settings with appName },
    required "log_level" Reading.level fun settings level => { settings with level },
    required "json_format" boolean fun settings jsonFormat => { settings with jsonFormat }]

namespace Settings

/-- The sections, each of which keeps its defaults where it is missing. -/
def fields : List (RecordField Settings) :=
  [allowed "server" (readRecord "ServerConfig" ServerSettings.fields {}) fun settings server =>
      { settings with server },
    allowed "client" (readRecord "ClientConfig" ClientSettings.fields {}) fun settings client =>
      { settings with client },
    allowed "transport" (readRecord "TransportConfig" TransportSettings.fields {})
      fun settings transport => { settings with transport },
    allowed "logging" (readRecord "LoggingConfig" LoggingSettings.fields {})
      fun settings logging => { settings with logging }]

/-- The settings that a table holds. -/
def ofTable (table : Toml.Table) : Reading Settings :=
  readTable fields {} table

/-- The settings that a text describes. -/
def ofText (text : String) (format : Toml.Format := .standard) : Except Failure Settings :=
  match format.parse? text with
  | none => .error (.misconfigured (.cannotParse .noDocument))
  | some table => (ofTable table).mapError fun fault => .misconfigured (.cannotParse fault)

/-- The settings in a file, which could be opened and held so many bytes, or could not. -/
def ofFile (contents : Except FileError Bytes) (format : Toml.Format := .standard) :
    Except Failure Settings := do
  let bytes ← contents.mapError fun cause => .misconfigured (.cannotOpen cause)
  let text ← (Bytes.toString? bytes).mapError fun _ => .misconfigured .notText
  ofText text format

end Settings

end RemoteCall
