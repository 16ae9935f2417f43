import RemoteCall.Duration
import RemoteCall.Stream.Throttled

/-! A bucket that fills up with tokens as time passes, and grants as many as it holds. -/

namespace RemoteCall

/-- A bucket of tokens, counted in double precision. -/
structure TokenBucket where
  /-- The tokens that a second adds. -/
  rate : Double
  capacity : Nat
  tokens : Double
  deriving DecidableEq, Repr

namespace TokenBucket

/-- A full bucket, with a rate and a capacity of at least one. -/
def full (rate capacity : Nat) : TokenBucket :=
  let capacity := max capacity 1
  { rate := .ofInt (max rate 1), capacity, tokens := .ofInt capacity }

/-- Adds the tokens of the time that has passed, as far as the bucket can hold them. -/
def refill (bucket : TokenBucket) (passed : Duration) : TokenBucket :=
  let tokens := bucket.tokens.plus (passed.toDouble.times bucket.rate)
  { bucket with tokens := tokens.least (.ofInt bucket.capacity) }

/-- The whole tokens at hand when some time has passed, and the bucket then. -/
def available (bucket : TokenBucket) (passed : Duration) : Nat × TokenBucket :=
  let bucket := bucket.refill passed
  (bucket.tokens.toWord, bucket)

/-- What comes of asking for tokens. -/
inductive Attempt where
  | taken
  /-- Some tokens are missing, and expected after a while. -/
  | missing (wait : Duration)
  /-- No span of time is long enough for those that are missing. -/
  | hopeless
  deriving DecidableEq, Repr

/-- Takes tokens if there are as many when some time has passed, and tells of it. -/
def tryTake (bucket : TokenBucket) (amount : Nat) (passed : Duration) : Attempt × TokenBucket :=
  let bucket := bucket.refill passed
  let wanted := Double.ofInt amount
  if wanted.units ≤ bucket.tokens.units then
    (.taken, { bucket with tokens := bucket.tokens.minus wanted })
  else
    match Duration.ofDouble? ((wanted.minus bucket.tokens).dividedBy bucket.rate) with
    | some wait => (.missing wait, bucket)
    | none => (.hopeless, bucket)

/-- Asks for tokens over and over, with some time before each turn, until they are taken. -/
def takeWithin (amount : Nat) : List Duration → TokenBucket → Option TokenBucket
  | [], _ => none
  | passed :: turns, bucket =>
    match bucket.tryTake amount passed with
    | (.taken, bucket) => some bucket
    | (.missing _, bucket) => takeWithin amount turns bucket
    | (.hopeless, _) => none

/-- Takes tokens, but never more than the bucket can hold, as soon as they are there. -/
def acquire (bucket : TokenBucket) (amount : Nat) (turns : List Duration) : Option TokenBucket :=
  takeWithin (min amount bucket.capacity) turns bucket

/-- A bucket grants its whole capacity at once. -/
def limiter (bucket : TokenBucket) : RateLimiter := ⟨fun _ => bucket.capacity⟩

end TokenBucket

end RemoteCall
