import RemoteCall.Number.Arithmetic

/-! Spans of time. -/

namespace RemoteCall

/-- A span of time: whole seconds, and the nanoseconds beyond them. -/
structure Duration where
  seconds : UInt64
  nanoseconds : Fin 1000000000
  deriving DecidableEq, Repr

namespace Duration

/-- A span of whole seconds. -/
def ofSeconds (seconds : UInt64) : Duration := ⟨seconds, 0⟩

/-- A span of whole milliseconds. -/
def ofMilliseconds (count : UInt64) : Duration :=
  ⟨count / 1000, Fin.ofNat _ (count.toNat % 1000 * 1000000)⟩

/-- The nanoseconds of the whole span. -/
def toNanoseconds (span : Duration) : Nat :=
  span.seconds.toNat * 1000000000 + span.nanoseconds

/-- The milliseconds that a span has in full. -/
def toMilliseconds (span : Duration) : Nat :=
  span.seconds.toNat * 1000 + span.nanoseconds / 1000000

/-- The seconds of a span, with fractions. -/
def toDouble (span : Duration) : Double :=
  let fraction := (Double.ofInt span.nanoseconds.val).dividedBy (.ofInt 1000000000)
  (Double.ofInt span.seconds.toNat).plus fraction

/-- The span of a number of seconds, to the nearest nanosecond, if a word can count the seconds. -/
def ofDouble? (seconds : Double) : Option Duration :=
  let nanoseconds := roundQuotient (seconds.units * 1000000000) Double.unitsOfOne
  if seconds.units < Double.unitsOfOne <<< 64 then
    some ⟨(nanoseconds / 1000000000).toUInt64, Fin.ofNat _ nanoseconds⟩
  else none

/-- The span of no time. -/
def isZero (span : Duration) : Bool := span.toNanoseconds == 0

instance : LE Duration := ⟨fun span other => span.toNanoseconds ≤ other.toNanoseconds⟩

instance (span other : Duration) : Decidable (span ≤ other) :=
  inferInstanceAs (Decidable (span.toNanoseconds ≤ other.toNanoseconds))

end Duration

end RemoteCall
