import RemoteCall.Proofs.Number.Binary
import RemoteCall.Stream.TokenBucket

/-! What a bucket gives out is what it was asked for, as long as it counts in single tokens. -/

namespace RemoteCall.TokenBucket

variable {bucket ready after : TokenBucket} {amount : Nat} {turns : List Duration}

/-- Time passes over a bucket for one turn or more, and nothing is taken meanwhile. -/
inductive Waits : TokenBucket → List Duration → TokenBucket → Prop where
  /-- The first turn is enough. -/
  | once {bucket : TokenBucket} {passed : Duration} {turns : List Duration} :
      Waits bucket (passed :: turns) (bucket.refill passed)
  /-- It takes another turn besides. -/
  | more {bucket ready : TokenBucket} {passed : Duration} {turns : List Duration}
      (later : Waits (bucket.refill passed) turns ready) : Waits bucket (passed :: turns) ready

/-- However long it takes, a bucket has its rate and its capacity, and no more tokens than fit. -/
theorem Waits.bounded (waits : bucket.Waits turns ready) :
    ready.rate = bucket.rate ∧ ready.capacity = bucket.capacity ∧
      ready.tokens.units ≤ (Double.ofInt bucket.capacity).units := by
  induction waits with
  | once =>
    refine ⟨rfl, rfl, ?_⟩
    simp only [refill, Double.least]
    split
    · assumption
    · exact Nat.le_refl _
  | more _ ih => exact ih

/-- If there are enough tokens, they are taken. -/
theorem tryTake_of_enough {passed : Duration}
    (enough : (Double.ofInt amount).units ≤ (bucket.refill passed).tokens.units) :
    bucket.tryTake amount passed =
      let ready := bucket.refill passed
      (.taken, { ready with tokens := ready.tokens.minus (.ofInt amount) }) :=
  if_pos enough

/-- If tokens are missing, the bucket keeps those that were added. -/
theorem tryTake_of_short {passed : Duration}
    (short : ¬ (Double.ofInt amount).units ≤ (bucket.refill passed).tokens.units) :
    ∃ attempt, attempt ≠ .taken ∧
      bucket.tryTake amount passed = (attempt, bucket.refill passed) := by
  rw [tryTake, if_neg short]
  -- The time to wait for the rest may be more than a span can tell.
  let missing := (Double.ofInt amount).minus (bucket.refill passed).tokens
  cases Duration.ofDouble? (missing.dividedBy (bucket.refill passed).rate) with
  | none => exact ⟨.hopeless, nofun, rfl⟩
  | some wait => exact ⟨.missing wait, nofun, rfl⟩

/-- Tokens are taken at the first turn at which there are enough. -/
theorem exists_ready_of_takeWithin (taken : takeWithin amount turns bucket = some after) :
    ∃ ready, bucket.Waits turns ready ∧ (Double.ofInt amount).units ≤ ready.tokens.units ∧
      after = { ready with tokens := ready.tokens.minus (.ofInt amount) } := by
  induction turns generalizing bucket with
  | nil => cases taken
  | cons passed turns ih =>
    by_cases enough : (Double.ofInt amount).units ≤ (bucket.refill passed).tokens.units
    · -- This turn is the one.
      rw [takeWithin, tryTake_of_enough enough] at taken
      exact ⟨_, .once, enough, (Option.some.inj taken).symm⟩
    · obtain ⟨attempt, refused, tried⟩ := tryTake_of_short enough
      rw [takeWithin, tried] at taken
      cases attempt with
      | taken => exact absurd rfl refused
      | missing wait =>
        -- The next turn begins with the tokens that this one has added.
        obtain ⟨ready, later, known⟩ := ih taken
        exact ⟨ready, .more later, known⟩
      | hopeless => cases taken

/--
What is acquired is taken from the bucket in full.

Up to a capacity of as many bits as a double has for its digits, single tokens count.
-/
theorem acquire_exact (fine : bucket.capacity ≤ 2 ^ 53) (fits : amount ≤ bucket.capacity)
    (acquired : bucket.acquire amount turns = some after) :
    ∃ ready, bucket.Waits turns ready ∧ after = { ready with tokens := after.tokens } ∧
      after.tokens.units + amount * Double.unitsOfOne = ready.tokens.units := by
  -- The amount fits, so it is not cut down.
  rw [acquire, Nat.min_eq_left fits] at acquired
  obtain ⟨ready, waits, enough, rfl⟩ := exists_ready_of_takeWithin acquired
  refine ⟨ready, waits, rfl, Double.units_minus ?_ enough ?_⟩
  · exact Double.units_ofInt (Nat.le_trans fits fine)
  · -- There are never more tokens than fit.
    refine Nat.le_trans waits.bounded.2.2 ?_
    rw [Double.units_ofInt fine]
    exact Nat.mul_le_mul_right _ fine

end RemoteCall.TokenBucket
