import RemoteCall.Limits

/-! How much is logged. -/

namespace RemoteCall

/-- The least severity that is logged. -/
inductive LogLevel where
  | error
  | warn
  | info
  | debug
  | trace
  deriving DecidableEq, Repr

namespace LogLevel

/-- All levels, from the most severe on. -/
def all : List LogLevel := [.error, .warn, .info, .debug, .trace]

/-- The name of a level. -/
def name : LogLevel → String
  | .error => "error"
  | .warn => "warn"
  | .info => "info"
  | .debug => "debug"
  | .trace => "trace"

/-- The level that a text names in letters of either case, or numbers from one on. -/
def ofText? (text : String) : Option LogLevel :=
  let numbered := (Decimal.unsigned? text.toList).bind fun number =>
    if number = 0 then none else all[number - 1]?
  numbered.or (all.find? fun level => text.toLower = level.name)

end LogLevel

end RemoteCall
