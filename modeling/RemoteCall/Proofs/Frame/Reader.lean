import RemoteCall.Frame.Reader
import RemoteCall.Proofs.Frame.Cutting
import RemoteCall.Proofs.Frame.Header
import RemoteCall.Proofs.Steps
import RemoteCall.Proofs.Stream.Source

/-! A frame that is received from a source is the one that is cut off a buffer of its bytes. -/

namespace RemoteCall

/-- A stream ended where more data was due. -/
def Failure.EndsEarly : Failure → Prop
  -- Only streams end; whatever else fails has seen all that it looked at.
  | .stream cause => cause.isUnexpectedEnd = true
  | _ => False

namespace Packet

variable {α β : Type} {limits : Limits}

/--
Receiving from a source came to what cutting came to on a buffer of the same bytes.

The cut is the first of the two outcomes.
-/
inductive Agrees (source : Source) :
    Except Failure (Option (α × Bytes)) → EStateM.Result Failure Source α → Prop where
  /-- The answer is the same, and what the cut left is still to come from the source. -/
  | complete {answer : α} {rest : Bytes} {count : Nat} (within : count ≤ source.rest.length)
      (left : source.rest.drop count = rest) :
      Agrees source (.ok (some (answer, rest))) (.ok answer (source.skip count))
  /-- The cut waits for more bytes, and the source has no more of them. -/
  | incomplete {cause : StreamError} {after : Source} (early : cause.isUnexpectedEnd = true) :
      Agrees source (.ok none) (.error (.stream cause) after)
  /-- The bytes are refused for one and the same reason. -/
  | refused {failure : Failure} {after : Source} (wrong : ¬ failure.EndsEarly) :
      Agrees source (.error failure) (.error failure after)

/-- A step that receives does with every source what a cut does with a buffer of its bytes. -/
def Follows (receiving : ReceiveM α) (step : Bytes → Cutting (α × Bytes)) : Prop :=
  -- A source that breaks has no counterpart among buffers.
  ∀ source : Source, source.Intact → Agrees source (step source.rest).run (receiving source)

/-- An agreement behind some bytes of a source is one on the whole source. -/
theorem Agrees.of_skip {source : Source} {count : Nat} (within : count ≤ source.rest.length)
    {cut : Except Failure (Option (α × Bytes))} {received : EStateM.Result Failure Source α}
    (agrees : Agrees (source.skip count) cut received) : Agrees source cut received := by
  cases agrees with
  | @complete answer rest further behind left =>
    -- The bytes that were taken before come on top of those that were taken now.
    simp only [Source.skip, List.length_drop, List.drop_drop] at behind left
    rw [Source.skip_skip]
    exact .complete (by omega) left
  | incomplete early => exact .incomplete early
  | refused wrong => exact .refused wrong

/-- A piece that is there is received as it would be cut off. -/
theorem receive_of_split {source : Source} (intact : source.Intact) {length : Nat}
    {front rest : Bytes} (early : StreamError)
    (split : source.rest.splitExact? length = some (front, rest)) :
    receive length early source = .ok front (source.skip length) ∧
      length ≤ source.rest.length ∧ source.rest.drop length = rest := by
  obtain ⟨whole, joined⟩ := splitExact?_eq_some split
  have left : source.rest.drop length = rest := by rw [← joined, ← whole, List.drop_left]
  -- The source reaches to the end of the piece, and further.
  have taken : Source.take length source = .ok front (source.skip length) :=
    Source.take_eq_ok_iff.mpr
      ⟨whole, intact.reaches length, by simp only [Source.skip, left, joined], rfl⟩
  refine ⟨by simp only [receive, taken], ?_, left⟩
  rw [← joined, List.length_append]
  omega

/-- A piece that is not all there ends the source. -/
theorem receive_of_short {source : Source} (intact : source.Intact) {length : Nat}
    (early : StreamError) (split : source.rest.splitExact? length = none) :
    ∃ after, receive length early source = .error (.stream early) after := by
  -- Only a front that is too short is not split off.
  have short : source.rest.length < length := by
    simp only [Bytes.splitExact?, List.splitAt_eq, List.length_take] at split
    split at split
    · cases split
    · omega
  obtain ⟨after, taken⟩ := intact.take_of_short short
  exact ⟨after, by simp only [receive, taken]⟩

/-- A piece is received just as it is cut off. -/
theorem follows_cut (length : Nat) {early : StreamError} (ends : early.isUnexpectedEnd = true) :
    Follows (receive length early) (cut length) := by
  intro source intact
  change Agrees source (.ok (source.rest.splitExact? length)) _
  cases split : source.rest.splitExact? length with
  | none =>
    obtain ⟨after, received⟩ := receive_of_short intact early split
    rw [received]
    exact .incomplete ends
  | some pieces =>
    obtain ⟨front, rest⟩ := pieces
    obtain ⟨received, within, left⟩ := receive_of_split intact early split
    rw [received]
    exact .complete within left

/-- An answer at hand takes nothing off either of them. -/
theorem follows_pure (answer : α) : Follows (pure answer) fun buffer => pure (answer, buffer) := by
  intro source _
  -- Nothing is skipped, and the whole source is left.
  exact .complete (Nat.zero_le source.rest.length) rfl

/-- Steps in sequence agree if each of them does. -/
theorem Follows.bind {receiving : ReceiveM α} {receivingNext : α → ReceiveM β}
    {first : Bytes → Cutting (α × Bytes)} {next : α × Bytes → Cutting (β × Bytes)}
    (follows : Follows receiving first)
    (followsNext : ∀ answer, Follows (receivingNext answer) fun rest => next (answer, rest)) :
    Follows (receiving >>= receivingNext) fun buffer => first buffer >>= next := by
  intro source intact
  have agrees := follows source intact
  simp only [OptionT.run_bind, run_bind]
  generalize (first source.rest).run = cut at agrees
  generalize receiving source = received at agrees
  cases agrees with
  | @complete answer rest count within left =>
    -- The second step starts where the first one left off, on both sides.
    have further := followsNext answer (source.skip count) intact
    subst left
    exact further.of_skip within
  | incomplete early => exact .incomplete early
  | refused wrong => exact .refused wrong

/-- A check is not failed for want of bytes. -/
def Conclusive (check : Except Failure α) : Prop :=
  -- Whatever it looks at is complete by then.
  ∀ failure, check = .error failure → ¬ failure.EndsEarly

/-- A check that does not look at the stream may come before a step. -/
theorem Follows.check {receivingNext : α → ReceiveM β} {next : α → Bytes → Cutting (β × Bytes)}
    {check : Except Failure α} (conclusive : Conclusive check)
    (follows : ∀ answer, Follows (receivingNext answer) fun buffer => next answer buffer) :
    Follows (MonadExcept.ofExcept check >>= receivingNext)
      fun buffer => OptionT.lift check >>= fun answer => next answer buffer := by
  -- The check comes to the same on both sides.
  cases check with
  | ok answer => exact follows answer
  | error failure =>
    intro source _
    exact .refused (conclusive failure rfl)

/-- The fixed part of a header is complete when it is looked at. -/
theorem conclusive_ofBytes (bytes : Bytes) : Conclusive (Header.ofBytes bytes) := by
  intro failure refused
  rcases octets : bytes.drop 4 with _ | ⟨version, _ | ⟨flags, _ | ⟨high, _ | ⟨low, _ | _⟩⟩⟩⟩
  case cons.cons.cons.cons.nil =>
    rw [Header.ofBytes_of_octets octets] at refused
    -- Each check has its own reason, and none of them is that bytes are missing.
    split at refused
    · cases refused; exact id
    · split at refused
      · cases refused; exact id
      · split at refused
        · cases refused; exact id
        · cases coding : Compression.ofFlag (flags % 4) with
          | ok compression => rw [coding] at refused; cases refused
          | error cause =>
            rw [coding] at refused
            cases refused
            unfold Compression.ofFlag at coding
            split at coding <;> cases coding
            exact id
  all_goals
    simp only [Header.ofBytes, octets] at refused
    cases refused
    exact id

/-- The octets of a path are all there when they are looked at. -/
theorem conclusive_pathOfBytes (bytes : Bytes) : Conclusive (pathOfBytes bytes) := by
  intro failure refused
  unfold pathOfBytes at refused
  split at refused <;> cases refused
  exact id

/-- A ceiling is exceeded by what is announced, whether that has arrived or not. -/
theorem conclusive_checkMessage (limits : Limits) (length : Nat) :
    Conclusive (limits.checkMessage length) := by
  intro failure refused
  unfold Limits.checkMessage at refused
  split at refused <;> cases refused
  exact id

/-- A chunk exceeds its ceiling as soon as it is announced. -/
theorem conclusive_checkFrame (limits : Limits) (length : Nat) :
    Conclusive (limits.checkFrame length) := by
  intro failure refused
  unfold Limits.checkFrame at refused
  split at refused <;> cases refused
  exact id

/-- Chunks are received by their lengths: one step, once a length field is there. -/
theorem receiveChunks_of_field {joined : Gathered} {source between : Source} {field : Bytes}
    (found : receiveField 4 source = .ok field between) :
    receiveChunks limits joined source =
      if Bytes.toNatBE field = 0 then .ok joined.toBytes between
      else
        match limits.checkFrame (Bytes.toNatBE field),
          limits.checkMessage (joined.size + Bytes.toNatBE field) with
        | .error failure, _ => .error failure between
        | .ok (), .error failure => .error failure between
        | .ok (), .ok () =>
          match receiveBody (Bytes.toNatBE field) between with
          | .error failure after => .error failure after
          | .ok chunk after => receiveChunks limits (joined.push chunk) after := by
  rw [receiveChunks, found]
  by_cases last : Bytes.toNatBE field = 0
  · simp only [last, if_true]
  · simp only [last, if_false]
    cases limits.checkFrame (Bytes.toNatBE field) with
    | error failure => rfl
    | ok _ =>
      -- The total and the chunk are kept for termination, and do not matter here.
      split <;> simp_all
      split <;> simp_all

/-- Chunks are received just as they are cut off. -/
theorem follows_cutChunks (limits : Limits) (joined : Gathered) :
    Follows (receiveChunks limits joined)
      fun buffer => OptionT.mk (cutChunks limits joined buffer) := by
  intro source intact
  change Agrees source (cutChunks limits joined source.rest) (receiveChunks limits joined source)
  generalize bytes : source.rest = buffer
  -- The induction follows the chunks that are cut off, and the source goes along with them.
  fun_induction cutChunks limits joined buffer generalizing source with
  | case1 joined buffer split =>
    subst bytes
    obtain ⟨after, received⟩ := receive_of_short intact .exhausted split
    rw [receiveChunks, receiveField, received]
    exact .incomplete rfl
  | case2 joined buffer field after split length last =>
    subst bytes
    obtain ⟨received, within, left⟩ := receive_of_split intact .exhausted split
    rw [receiveChunks_of_field received, if_pos last]
    exact .complete within left
  -- The length is over the ceiling of chunks.
  | case3 joined buffer field after split length positive cause framed =>
    subst bytes
    obtain ⟨received, _⟩ := receive_of_split intact .exhausted split
    rw [receiveChunks_of_field received, if_neg positive, framed]
    exact .refused (conclusive_checkFrame _ _ _ framed)
  -- The chunks together are over the ceiling of messages.
  | case4 joined buffer field after split length positive cause fits framed =>
    subst bytes
    obtain ⟨received, _⟩ := receive_of_split intact .exhausted split
    rw [receiveChunks_of_field received, if_neg positive, framed, fits]
    exact .refused (conclusive_checkMessage _ _ _ fits)
  | case5 joined buffer field after split length positive fits framed splitChunk =>
    subst bytes
    obtain ⟨received, _, rfl⟩ := receive_of_split intact .exhausted split
    -- The chunk is announced, but not all there.
    obtain ⟨after, receivedChunk⟩ :=
      receive_of_short (show (source.skip 4).Intact from intact) .bodyEndedEarly splitChunk
    rw [receiveChunks_of_field received, if_neg positive, framed, fits]
    simp only [receiveBody, length] at receivedChunk ⊢
    simp only [receivedChunk]
    exact .incomplete rfl
  | case6 joined buffer field after split length positive fits framed chunk between splitChunk ih =>
    subst bytes
    obtain ⟨received, within, rfl⟩ := receive_of_split intact .exhausted split
    obtain ⟨receivedChunk, withinChunk, left⟩ :=
      receive_of_split (show (source.skip 4).Intact from intact) .bodyEndedEarly splitChunk
    -- Behind the chunk, both sides go on with the chunks that are left.
    have further := ih ((source.skip 4).skip length) intact left
    rw [receiveChunks_of_field received, if_neg positive, framed, fits]
    simp only [receiveBody, length] at receivedChunk ⊢
    simp only [receivedChunk]
    exact (further.of_skip withinChunk).of_skip within

/-- A frame is received just as it is cut off. -/
theorem follows_cutFrame (limits : Limits) : Follows (receivePacket limits) (cutFrame limits) := by
  rw [funext (cutFrame_eq limits)]
  unfold receivePacket
  -- The fixed part comes first, and tells how long the path is.
  refine (follows_cut fixedHeaderLength rfl).bind fun fixed => ?_
  refine Follows.check (conclusive_ofBytes fixed) fun header => ?_
  refine (follows_cut header.pathLength rfl).bind fun octets => ?_
  refine Follows.check (conclusive_pathOfBytes octets) fun path => ?_
  -- The flags tell which form the body has.
  cases chunked : header.chunked with
  | true =>
    simp only [if_true]
    exact (follows_cutChunks limits .empty).bind fun body =>
      follows_pure (Packet.mk path header.compression body)
  | false =>
    simp only [Bool.false_eq_true, if_false]
    -- The length is checked before the body is waited for.
    refine (follows_cut 4 rfl).bind fun field => ?_
    refine Follows.check (conclusive_checkMessage limits (Bytes.toNatBE field)) fun _ => ?_
    exact (follows_cut (Bytes.toNatBE field) rfl).bind fun body =>
      follows_pure (Packet.mk path header.compression body)

/-! The three outcomes, each of them on both sides. -/

variable {source : Source} {cut : Except Failure (Option (α × Bytes))}
  {received : EStateM.Result Failure Source α}

/-- An answer is cut off exactly when it is received, and the same bytes are taken for it. -/
theorem Agrees.complete_iff (agrees : Agrees source cut received) {answer : α} {count : Nat} :
    (∃ rest, cut = .ok (some (answer, rest)) ∧ source.rest.length - rest.length = count) ↔
      received = .ok answer (source.skip count) := by
  cases agrees with
  | @complete found rest taken within left =>
    -- What the buffer is shorter by is what the source has moved on by.
    have consumed : source.rest.length - rest.length = taken := by
      rw [← left, List.length_drop]
      omega
    constructor
    · rintro ⟨_, same, rfl⟩
      cases same
      rw [consumed]
    · intro same
      -- The place of the source tells how many bytes were received.
      have place := congrArg Source.position (EStateM.Result.ok.inj same).2
      simp only [Source.skip, Nat.add_left_cancel_iff] at place
      rw [← (EStateM.Result.ok.inj same).1, ← place]
      exact ⟨rest, rfl, consumed⟩
  | incomplete => simp
  | refused => simp

/-- A buffer is incomplete exactly when the source ends early. -/
theorem Agrees.incomplete_iff (agrees : Agrees source cut received) :
    cut = .ok none ↔ ∃ failure after, received = .error failure after ∧ failure.EndsEarly := by
  cases agrees with
  | complete => simp
  | @incomplete cause after early =>
    constructor
    · intro _
      exact ⟨.stream cause, after, rfl, early⟩
    · intro _
      rfl
  | refused wrong =>
    constructor
    · intro same
      cases same
    · rintro ⟨_, _, same, early⟩
      cases same
      exact absurd early wrong

/-- A buffer is refused exactly when the source is, unless the source only ends early. -/
theorem Agrees.refused_iff (agrees : Agrees source cut received) {failure : Failure} :
    cut = .error failure ↔ ∃ after, received = .error failure after ∧ ¬ failure.EndsEarly := by
  cases agrees with
  | complete => simp
  | incomplete early =>
    constructor
    · intro same
      cases same
    · rintro ⟨_, same, wrong⟩
      -- The failure is the early end itself.
      cases same
      exact absurd early wrong
  | @refused cause after wrong =>
    constructor
    · intro same
      cases same
      exact ⟨after, rfl, wrong⟩
    · rintro ⟨_, same, _⟩
      cases same
      rfl

/--
A frame is received from a source just as it is parsed from a buffer of the same bytes.

It takes the same bytes off both, however finely the source is read; the source ends early where
the buffer is incomplete, and whatever else is wrong is wrong for the same reason.
-/
theorem parse_iff_receivePacket (buffer : Bytes) (limits : Limits) (grain : Nat → Option Nat) :
    let source : Source := { rest := buffer, grain }
    (∀ packet consumed, parse buffer limits = .ok (some (packet, consumed)) ↔
      receivePacket limits source = .ok packet (source.skip consumed)) ∧
    (parse buffer limits = .ok none ↔
      ∃ failure after, receivePacket limits source = .error failure after ∧ failure.EndsEarly) ∧
    ∀ failure, parse buffer limits = .error failure ↔
      ∃ after, receivePacket limits source = .error failure after ∧ ¬ failure.EndsEarly := by
  intro source
  -- The source never breaks, and it holds just the bytes of the buffer.
  have agrees := follows_cutFrame limits source rfl
  refine ⟨fun packet consumed => ?_, ?_, fun failure => ?_⟩
  · rw [parse_eq_some_iff]
    exact agrees.complete_iff
  · rw [parse_eq_none_iff]
    exact agrees.incomplete_iff
  · rw [parse_eq_error_iff]
    exact agrees.refused_iff

end Packet

end RemoteCall
