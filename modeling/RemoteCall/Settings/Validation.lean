import RemoteCall.Settings.Basic
import RemoteCall.Settings.SocketAddress

/-! Checks of settings before they are used. -/

namespace RemoteCall

/-- The first of several problems whose condition holds. -/
private def firstOf : List (Bool × SettingsProblem) → List SettingsProblem
  | [] => []
  | (holds, problem) :: others => if holds then [problem] else firstOf others

/-- What is wrong with the settings of a server. -/
def ServerSettings.problems (settings : ServerSettings) : List SettingsProblem :=
  firstOf
    [(settings.address.isEmpty, .serverAddressEmpty),
      (!SocketAddress.isValid settings.address, .serverAddressInvalid settings.address)]
  ++ firstOf
    [(settings.hostLabel.any fun label => trimBlank label.toList = [], .hostLabelBlank)]
  ++ firstOf
    [(settings.maxConnections = 0, .noConnections),
      (100000 < settings.maxConnections, .manyConnections settings.maxConnections)]
  ++ firstOf
    [(settings.shutdownTimeout.seconds < 1, .shutdownTooShort),
      (60 < settings.shutdownTimeout.seconds, .shutdownTooLong)]

/-- What is wrong with the settings of a caller. -/
def ClientSettings.problems (settings : ClientSettings) : List SettingsProblem :=
  firstOf [(settings.httpServer.isEmpty, .httpServerEmpty)]
  ++ firstOf [(settings.localizationServer.isEmpty, .localizationServerEmpty)]
  ++ firstOf
    [(settings.endpointPath.toList.head? ≠ some '/', .endpointPathRelative settings.endpointPath),
      (65535 < settings.endpointPath.utf8ByteSize, .endpointPathTooLong)]
  ++ firstOf [(settings.connectionTimeout.toMilliseconds < 100, .connectionTimeoutTooShort)]
  ++ firstOf [(settings.responseTimeout.toMilliseconds < 100, .responseTimeoutTooShort)]
  ++ firstOf [(settings.slowCallThreshold.isZero, .slowThresholdZero)]

/-- What is wrong with the settings for bodies. -/
def TransportSettings.problems (settings : TransportSettings) : List SettingsProblem :=
  firstOf [(settings.rateLimit = some 0, .rateZero)]
  ++ firstOf [(settings.rateLimitBurst = some 0, .burstZero)]
  ++ firstOf [(settings.rateLimitBurst.isSome && settings.rateLimit.isNone, .burstWithoutRate)]

/-- What is wrong with the settings for logs. -/
def LoggingSettings.problems (settings : LoggingSettings) : List SettingsProblem :=
  let size := settings.appName.utf8ByteSize
  firstOf [(size = 0, .appNameEmpty), (64 < size, .appNameTooLong size)]

namespace Settings

/-- What is wrong with settings, section by section. -/
def problems (settings : Settings) : List SettingsProblem :=
  settings.server.problems ++ settings.client.problems ++ settings.transport.problems
    ++ settings.logging.problems

/-- Refuses settings with problems, and tells all of them. -/
def check (settings : Settings) : Except Failure Unit :=
  if settings.problems = [] then .ok ()
  else .error (.misconfigured (.invalid settings.problems))

end Settings

end RemoteCall
