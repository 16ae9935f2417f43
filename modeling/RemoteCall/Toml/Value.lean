import RemoteCall.Number.Binary

/-! The data that a TOML document holds. -/

namespace RemoteCall.Toml

/-- A day of the calendar. -/
structure Date where
  year : Nat
  month : Nat
  day : Nat
  deriving DecidableEq, Repr

/-- A time of day, to the nanosecond. -/
structure Time where
  hour : Nat
  minute : Nat
  second : Nat
  nanosecond : Nat
  deriving DecidableEq, Repr

/-- A date, a time, or both, and then perhaps with minutes ahead of universal time. -/
inductive Moment where
  | date (date : Date)
  | time (time : Time)
  | both (date : Date) (time : Time) (offset : Option Int)
  deriving DecidableEq, Repr

/-- A value, whose tables keep the order in which their keys first appear. -/
inductive Value where
  | string (text : String)
  | integer (number : Int64)
  | float (number : Double)
  | boolean (flag : Bool)
  | moment (moment : Moment)
  | array (items : List Value)
  | table (entries : List (String × Value))

/-- Values by their keys. -/
abbrev Table := List (String × Value)

end RemoteCall.Toml
