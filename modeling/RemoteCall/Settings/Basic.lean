import RemoteCall.Compression.Kind
import RemoteCall.Duration
import RemoteCall.Settings.Level

/-! The settings of a server and its callers. -/

namespace RemoteCall

/-- The settings of a server. -/
structure ServerSettings where
  /-- Where the server listens. -/
  address : String := "127.0.0.1:9581"
  /-- What the host is called in envelopes, if not by its own name. -/
  hostLabel : Option String := none
  maxConnections : UInt64 := 1000
  /-- How long open calls may take when the server shuts down. -/
  shutdownTimeout : Duration := .ofSeconds 10
  deriving DecidableEq, Repr, Inhabited

/-- The settings of a caller. -/
structure ClientSettings where
  /-- Where general requests go. -/
  httpServer : String := "127.0.0.1:9581"
  /-- Where requests for localized data go. -/
  localizationServer : String := "127.0.0.1:9581"
  /-- The path that requests are posted to at either server. -/
  endpointPath : String := "/invoke"
  connectionTimeout : Duration := .ofSeconds 10
  responseTimeout : Duration := .ofSeconds 60
  /-- The least time that makes a call a slow one. -/
  slowCallThreshold : Duration := .ofMilliseconds 5000
  deriving DecidableEq, Repr, Inhabited

/-- How bodies go out. -/
structure TransportSettings where
  streamRequests : Bool := true
  compression : Option Compression := none
  /-- The bytes that may go out in a second, in the long run. -/
  rateLimit : Option UInt64 := none
  /-- The bytes that may go out at once. -/
  rateLimitBurst : Option UInt64 := none
  deriving DecidableEq, Repr, Inhabited

/-- How logs are written. -/
structure LoggingSettings where
  appName : String := "wirecall"
  level : LogLevel := .info
  jsonFormat : Bool := false
  deriving DecidableEq, Repr, Inhabited

/-- All settings. -/
structure Settings where
  server : ServerSettings := {}
  client : ClientSettings := {}
  transport : TransportSettings := {}
  logging : LoggingSettings := {}
  deriving DecidableEq, Repr, Inhabited

namespace Settings

/-- The default settings, changed where variables are set to something usable. -/
def ofLookup (lookup : String → Option String) : Settings :=
  let default : Settings := {}
  let milliseconds (name : String) : Option Duration := do
    let number ← Decimal.unsigned? (← lookup name).toList
    if number ≤ wordMax then some (.ofMilliseconds number.toUInt64) else none
  let server := { default.server with
    address := (lookup "WIRECALL_SERVER_ADDRESS").getD default.server.address }
  let client := { default.client with
    httpServer := (lookup "WIRECALL_HTTP_SERVER").getD default.client.httpServer
    localizationServer :=
      (lookup "WIRECALL_LOCALIZATION_SERVER").getD default.client.localizationServer
    slowCallThreshold :=
      (milliseconds "WIRECALL_SLOW_CALL_MS").getD default.client.slowCallThreshold
    responseTimeout :=
      (milliseconds "WIRECALL_RESPONSE_TIMEOUT_MS").getD default.client.responseTimeout }
  { default with server, client }

end Settings

end RemoteCall
