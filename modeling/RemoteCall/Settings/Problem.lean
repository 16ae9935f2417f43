/-! What can be wrong with settings that are complete and of the right types. -/

namespace RemoteCall

/-- A setting, or a combination of settings, that cannot work or is unlikely to be meant. -/
inductive SettingsProblem where
  | serverAddressEmpty
  | serverAddressInvalid (address : String)
  | hostLabelBlank
  | noConnections
  | manyConnections (count : UInt64)
  | shutdownTooShort
  | shutdownTooLong
  | httpServerEmpty
  | localizationServerEmpty
  | endpointPathRelative (path : String)
  | endpointPathTooLong
  | connectionTimeoutTooShort
  | responseTimeoutTooShort
  | slowThresholdZero
  | rateZero
  | burstZero
  | burstWithoutRate
  | appNameEmpty
  /-- The size counts the bytes of the name. -/
  | appNameTooLong (size : Nat)
  deriving DecidableEq, Repr

/-- The text of a problem. -/
def SettingsProblem.message : SettingsProblem → String
  | .serverAddressEmpty => "Server address cannot be empty"
  | .serverAddressInvalid address =>
    s!"Invalid server address format: '{address}' (expected format: '0.0.0.0:9581')"
  | .hostLabelBlank => "Host label cannot be blank when set"
  | .noConnections => "Max connections must be greater than 0"
  | .manyConnections count =>
    s!"Max connections very high: {count} (ensure system resources can support this)"
  | .shutdownTooShort => "Shutdown timeout too short (minimum: 1s)"
  | .shutdownTooLong => "Shutdown timeout too long (maximum: 60s)"
  | .httpServerEmpty => "HTTP server address cannot be empty"
  | .localizationServerEmpty => "Localization server address cannot be empty"
  | .endpointPathRelative path => s!"Endpoint path must start with '/': '{path}'"
  | .endpointPathTooLong => "Endpoint path too long"
  | .connectionTimeoutTooShort => "Connection timeout too short (minimum: 100ms)"
  | .responseTimeoutTooShort => "Response timeout too short (minimum: 100ms)"
  | .slowThresholdZero => "Slow call threshold must be greater than 0"
  | .rateZero => "Rate limit must be greater than 0 when set"
  | .burstZero => "Rate limit burst must be greater than 0 when set"
  | .burstWithoutRate => "Rate limit burst requires rate_limit_bytes_per_sec"
  | .appNameEmpty => "Application name cannot be empty"
  | .appNameTooLong size => s!"Application name too long: {size} characters (maximum: 64)"

end RemoteCall
