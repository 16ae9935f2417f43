/-! Counts of what happens to calls, on both sides of them. -/

namespace RemoteCall

/-- Something that is counted. -/
inductive Tally where
  /-- A request was posted, with so many bytes of a body whose length was known. -/
  | requestSent (bytes : UInt64)
  /-- A response came back. -/
  | responseReceived (bytes : UInt64)
  /-- A request failed before there was a response. -/
  | requestFailed
  /-- A call took long. -/
  | slowCall
  /-- A handler was found for a request. -/
  | dispatched
  /-- A privileged request was refused. -/
  | authorizationDenied
  /-- A handler gave no response. -/
  | handlerFailed
  /-- A request was rejected that followed no protocol. -/
  | protocolError
  deriving DecidableEq, Repr

/-- Counters that start over after the greatest word. -/
structure Metrics where
  requestsSent : UInt64 := 0
  requestsFailed : UInt64 := 0
  slowCalls : UInt64 := 0
  bytesSent : UInt64 := 0
  bytesReceived : UInt64 := 0
  dispatched : UInt64 := 0
  authorizationDenials : UInt64 := 0
  handlerFailures : UInt64 := 0
  protocolErrors : UInt64 := 0
  deriving DecidableEq, Repr, Inhabited

namespace Metrics

/-- Counts one more thing. -/
def count (metrics : Metrics) : Tally → Metrics
  | .requestSent bytes =>
    { metrics with
      requestsSent := metrics.requestsSent + 1, bytesSent := metrics.bytesSent + bytes }
  | .responseReceived bytes => { metrics with bytesReceived := metrics.bytesReceived + bytes }
  | .requestFailed => { metrics with requestsFailed := metrics.requestsFailed + 1 }
  | .slowCall => { metrics with slowCalls := metrics.slowCalls + 1 }
  | .dispatched => { metrics with dispatched := metrics.dispatched + 1 }
  | .authorizationDenied =>
    { metrics with authorizationDenials := metrics.authorizationDenials + 1 }
  | .handlerFailed => { metrics with handlerFailures := metrics.handlerFailures + 1 }
  | .protocolError => { metrics with protocolErrors := metrics.protocolErrors + 1 }

/-- Each counter under its name. -/
def counters (metrics : Metrics) : List (String × UInt64) :=
  [("requests_sent", metrics.requestsSent), ("requests_failed", metrics.requestsFailed),
    ("slow_calls", metrics.slowCalls), ("bytes_sent", metrics.bytesSent),
    ("bytes_received", metrics.bytesReceived), ("dispatched", metrics.dispatched),
    ("authorization_denials", metrics.authorizationDenials),
    ("handler_failures", metrics.handlerFailures), ("protocol_errors", metrics.protocolErrors)]

end Metrics

end RemoteCall
