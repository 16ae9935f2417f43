import RemoteCall.Outbound.Request
import RemoteCall.Proofs.Steps

/-! Requests with their charges kept: what is sent is the same as without them. -/

namespace RemoteCall

variable {σ α β : Type}

namespace SendM

/-- A step that is not charged for. -/
def free (step : SendM σ α) : SendM (σ × List Nat) α := fun (sink, charges) =>
  match step sink with
  | .ok answer sink => .ok answer (sink, charges)
  | .error failure sink => .error failure (sink, charges)

/-- What a step comes to when the charges are forgotten. -/
def forget : EStateM.Result Failure (σ × List Nat) α → EStateM.Result Failure σ α
  | .ok answer (sink, _) => .ok answer sink
  | .error failure (sink, _) => .error failure sink

/-- A step with charges, of which none were made before, does what another does without them. -/
def AccountsFor (charged : SendM (σ × List Nat) α) (step : SendM σ α) : Prop :=
  -- What may be granted depends on the charges before, so they have to be the same for both.
  ∀ sink, forget (charged (sink, [])) = step sink

namespace AccountsFor

/-- A step that is not charged for may come first. -/
theorem free_bind {first : SendM σ α} {charged : α → SendM (σ × List Nat) β}
    {next : α → SendM σ β} (charges : ∀ answer, AccountsFor (charged answer) (next answer)) :
    AccountsFor (free first >>= charged) (first >>= next) := by
  intro sink
  simp only [run_bind, free]
  cases first sink with
  | ok answer between => exact charges answer between
  | error failure after => rfl

/-- A step that is not charged for may come last. -/
theorem bind_free {charged : SendM (σ × List Nat) α} {first : SendM σ α} {last : α → SendM σ β}
    (charges : AccountsFor charged first) :
    AccountsFor (charged >>= fun answer => free (last answer)) (first >>= last) := by
  intro sink
  simp only [run_bind, ← charges sink]
  cases charged (sink, []) with
  | error failure after => rfl
  | ok answer between =>
    -- By now there may be charges, but the last step does not look at them.
    obtain ⟨between, spent⟩ := between
    simp only [forget, free]
    cases last answer between with
    | ok result after => rfl
    | error failure after => rfl

/-- A result at hand is not charged for. -/
theorem ofExcept_bind {result : Except Failure α} {charged : α → SendM (σ × List Nat) β}
    {next : α → SendM σ β} (charges : ∀ answer, AccountsFor (charged answer) (next answer)) :
    AccountsFor (MonadExcept.ofExcept result >>= charged)
      (MonadExcept.ofExcept result >>= next) := by
  cases result with
  | ok answer => exact charges answer
  | error failure => exact fun _ => rfl

end AccountsFor

end SendM

variable [Sink σ]

/-- Sends the body, and keeps what is charged for it. -/
def Entity.writeToCharged (entity : Entity) : SendM (σ × List Nat) Unit :=
  match entity.limiter with
  | none => SendM.free entity.sendBody
  | some limiter => entity.sendCharged limiter

/-- Sends the body of a request in chunks, and keeps what is charged for it. -/
def Entity.writeChunkedCharged (entity : Entity) (limits : Limits) : SendM (σ × List Nat) Unit :=
  fun (sink, charges) =>
    let step : SendM (Chunked σ × List Nat) Unit := do
      entity.writeToCharged
      SendM.free (SendM.ofStream Chunked.finish)
    match step (.onto sink limits, charges) with
    | .ok () (chunked, charges) => .ok () (chunked.inner, charges)
    | .error failure (chunked, charges) => .error failure (chunked.inner, charges)

/-- Frames an entity as a request to a path, sends it, and keeps what is charged for it. -/
def sendRequestCharged (path : String) (entity : Entity) (limits : Limits) :
    SendM (σ × List Nat) Unit := do
  match ← MonadExcept.ofExcept entity.contentLength with
  | some length =>
    let field ← MonadExcept.ofExcept (bodyLength length)
    SendM.free (sendHeader path entity.compression false)
    SendM.free (send field)
    entity.writeToCharged
  | none =>
    SendM.free (sendHeader path entity.compression true)
    entity.writeChunkedCharged limits
  SendM.free (SendM.ofStream Sink.flush)

/-- Without its charges, a body is sent as ever. -/
theorem Entity.writeToCharged_accountsFor (entity : Entity) :
    SendM.AccountsFor (entity.writeToCharged (σ := σ)) entity.writeTo := by
  intro sink
  cases budget : entity.limiter with
  | none =>
    simp only [writeTo, writeToCharged, budget, SendM.free]
    cases entity.sendBody sink with
    | ok answer after => rfl
    | error failure after => rfl
  | some limiter =>
    simp only [writeTo, writeToCharged, budget]
    cases entity.sendCharged limiter (sink, []) with
    | ok answer after => rfl
    | error failure after => rfl

/-- Without their charges, chunks are sent as ever. -/
theorem Entity.writeChunkedCharged_accountsFor (entity : Entity) (limits : Limits) :
    SendM.AccountsFor (entity.writeChunkedCharged (σ := σ) limits)
      (entity.writeChunked limits) := by
  intro sink
  -- The end of the body is not charged for.
  have charges : SendM.AccountsFor _
      (do entity.writeTo; SendM.ofStream Chunked.finish : SendM (Chunked σ) Unit) :=
    entity.writeToCharged_accountsFor.bind_free
  simp only [writeChunked, writeChunkedCharged, ← charges (Chunked.onto sink limits)]
  cases (entity.writeToCharged >>= fun _ => SendM.free (SendM.ofStream Chunked.finish) :
      SendM (Chunked σ × List Nat) Unit) (Chunked.onto sink limits, []) with
  | ok answer after => rfl
  | error failure after => rfl

/-- Without its charges, a request is sent as ever. -/
theorem sendRequestCharged_accountsFor (path : String) (entity : Entity) (limits : Limits) :
    SendM.AccountsFor (sendRequestCharged (σ := σ) path entity limits)
      (sendRequest path entity limits) := by
  refine .ofExcept_bind fun length => ?_
  cases length with
  | none => exact .free_bind fun _ => (entity.writeChunkedCharged_accountsFor limits).bind_free
  | some length =>
    refine .ofExcept_bind fun field => .free_bind fun _ => .free_bind fun _ => ?_
    exact entity.writeToCharged_accountsFor.bind_free

end RemoteCall
