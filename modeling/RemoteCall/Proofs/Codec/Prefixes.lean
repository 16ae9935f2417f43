import Mathlib.Data.List.Forall2
import RemoteCall.Proofs.Bytes
import RemoteCall.Proofs.Codec.Ceilings
import RemoteCall.Proofs.Stream.Capacity

/-! An encoding that fails leaves the beginning of a message behind, and the counts stay right. -/

namespace RemoteCall

/-! Which bytes of some parts the ceilings let out. -/

namespace Part

variable {limits : Limits} {size : Nat}

/-- Why the ceiling of messages keeps so many more bytes out, if it does. -/
def oversize? (limits : Limits) (size count : Nat) : Option Failure :=
  if limits.messageSize < addCount size count then
    some (.limitExceeded .messageSize limits.messageSize (addCount size count))
  else none

/-- Why the ceilings keep a part out of a message that has so many bytes, if they do. -/
def refusal? (limits : Limits) (size : Nat) : Part → Option Failure
  | .enter depth =>
    if limits.depth ≤ depth then
      some (.limitExceeded .recursionDepth limits.depth (depth + 1))
    else none
  | .raw data => oversize? limits size data.length
  | .length count =>
    if limits.frameSize < count then
      some (.limitExceeded .frameSize limits.frameSize count)
    else if Encoder.lengthMax < count then
      some (.limitExceeded .frameSize Encoder.lengthMax count)
    else oversize? limits size 4

/-- The bytes of parts up to the first one that is kept out, and why it is. -/
def allowed (limits : Limits) : (size : Nat) → List Part → Bytes × Option Failure
  | _, [] => ([], none)
  | size, part :: parts =>
    match part.refusal? limits size with
    | some failure => ([], some failure)
    | none =>
      let others := allowed limits (addCount size part.image.length) parts
      (part.image ++ others.1, others.2)

/-- Nothing is let out from a part on that is kept out. -/
theorem allowed_of_refused {part : Part} {failure : Failure}
    (kept : part.refusal? limits size = some failure) (parts : List Part) :
    allowed limits size (part :: parts) = ([], some failure) := by
  rw [allowed, kept]

/-- A part that is not kept out is let out in front of the others. -/
theorem allowed_of_free {part : Part} (free : part.refusal? limits size = none)
    (parts : List Part) :
    allowed limits size (part :: parts) =
      (part.image ++ (allowed limits (addCount size part.image.length) parts).1,
        (allowed limits (addCount size part.image.length) parts).2) := by
  rw [allowed, free]

/-- Behind a part that is not kept out the others are let out or not. -/
theorem exists_rest_of_allowed {part : Part} (free : part.refusal? limits size = none)
    {parts : List Part} {data : Bytes} {refusal : Option Failure}
    (walked : allowed limits size (part :: parts) = (data, refusal)) :
    ∃ rest, data = part.image ++ rest ∧
      allowed limits (addCount size part.image.length) parts = (rest, refusal) := by
  rw [allowed_of_free free] at walked
  cases walked
  exact ⟨_, rfl, rfl⟩

/-- The bytes that are let out are the first ones of all. -/
theorem allowed_front (limits : Limits) (size : Nat) (parts : List Part) :
    (allowed limits size parts).1 <+: images parts := by
  induction parts generalizing size with
  | nil => exact List.prefix_rfl
  | cons part parts ih =>
    cases decided : part.refusal? limits size with
    | some failure =>
      rw [allowed_of_refused decided]
      exact List.nil_prefix
    | none =>
      rw [allowed_of_free decided]
      exact (List.prefix_append_right_inj part.image).mpr (ih _)

/-- Without a refusal all bytes are let out. -/
theorem allowed_of_none {parts : List Part} (passed : (allowed limits size parts).2 = none) :
    (allowed limits size parts).1 = images parts := by
  induction parts generalizing size with
  | nil => rfl
  | cons part parts ih =>
    cases decided : part.refusal? limits size with
    | some failure =>
      rw [allowed_of_refused decided] at passed
      cases passed
    | none =>
      rw [allowed_of_free decided] at passed ⊢
      rw [images_cons, ← ih passed]

/-- Bytes that the ceiling of messages does not keep out leave the message no longer than that. -/
theorem bounded_of_oversize {count : Nat} (free : oversize? limits size count = none) :
    addCount size count ≤ limits.messageSize := by
  unfold oversize? at free
  split at free
  · cases free
  · next fits => exact Nat.not_lt.mp fits

/-- A part that is not kept out leaves the message no longer than it may be. -/
theorem bounded_of_refusal {part : Part} (free : part.refusal? limits size = none)
    (small : size ≤ wordMax) (fits : size ≤ limits.messageSize) :
    addCount size part.image.length ≤ limits.messageSize := by
  cases part with
  | enter depth =>
    -- Entering a container adds nothing.
    show addCount size 0 ≤ limits.messageSize
    rwa [addCount_zero small]
  | raw data => exact bounded_of_oversize free
  | length count =>
    rw [image, Bytes.length_ofNatBE]
    simp only [refusal?] at free
    split at free
    · cases free
    · split at free
      · cases free
      · exact bounded_of_oversize free

/-- What is let out leaves the message no longer than it may be. -/
theorem allowed_bounded (parts : List Part) (small : size ≤ wordMax)
    (fits : size ≤ limits.messageSize) :
    addCount size (allowed limits size parts).1.length ≤ limits.messageSize := by
  induction parts generalizing size with
  | nil =>
    show addCount size 0 ≤ limits.messageSize
    rwa [addCount_zero small]
  | cons part parts ih =>
    cases decided : part.refusal? limits size with
    | some failure =>
      rw [allowed_of_refused decided]
      show addCount size 0 ≤ limits.messageSize
      rwa [addCount_zero small]
    | none =>
      rw [allowed_of_free decided, List.length_append, ← addCount_addCount]
      exact ih (addCount_le_wordMax ..) (bounded_of_refusal decided small fits)

/-- Behind every container that is entered there are bytes. -/
def Settled : List Part → Prop
  | [] => True
  | .enter _ :: parts => images parts ≠ [] ∧ Settled parts
  | _ :: parts => Settled parts

/-- What follows the first of some parts that are settled is settled. -/
theorem Settled.of_cons {part : Part} {parts : List Part} (settled : Settled (part :: parts)) :
    Settled parts := by
  cases part with
  | enter depth => exact settled.2
  | raw data => exact settled
  | length count => exact settled

/-- Parts that are settled are so with others behind them. -/
theorem Settled.append {front back : List Part} (settled : Settled front)
    (settledBack : Settled back) : Settled (front ++ back) := by
  induction front with
  | nil => exact settledBack
  | cons part front ih =>
    cases part with
    | enter depth =>
      obtain ⟨some, settled⟩ := settled
      exact ⟨by simp [some], ih settled⟩
    | raw data => exact ih settled
    | length count => exact ih settled

/-- A part that is kept out, or what comes behind it, has bytes. -/
theorem images_of_refusal {part : Part} {parts : List Part} {failure : Failure}
    (kept : part.refusal? limits size = some failure) (settled : Settled (part :: parts))
    (small : size ≤ wordMax) (fits : size ≤ limits.messageSize) :
    images (part :: parts) ≠ [] := by
  cases part with
  | enter depth => simpa [image] using settled.1
  | raw data =>
    -- Nothing is no more than fits.
    rintro none
    have nothing : data = [] := (List.append_eq_nil_iff.mp none).1
    subst nothing
    have fits : ¬ limits.messageSize < addCount size 0 := by
      rw [addCount_zero small]
      exact Nat.not_lt.mpr fits
    simp [refusal?, oversize?, fits] at kept
  | length count =>
    rintro none
    have length := congrArg List.length (List.append_eq_nil_iff.mp none).1
    rw [image, Bytes.length_ofNatBE] at length
    cases length

/-- With a refusal some bytes are kept in. -/
theorem allowed_of_some {parts : List Part} {failure : Failure} (settled : Settled parts)
    (small : size ≤ wordMax) (fits : size ≤ limits.messageSize)
    (kept : (allowed limits size parts).2 = some failure) :
    (allowed limits size parts).1 ≠ images parts := by
  induction parts generalizing size with
  | nil => cases kept
  | cons part parts ih =>
    cases decided : part.refusal? limits size with
    | some cause =>
      rw [allowed_of_refused decided]
      exact (images_of_refusal decided settled small fits).symm
    | none =>
      rw [allowed_of_free decided] at kept ⊢
      rw [images_cons]
      intro same
      exact ih settled.of_cons (addCount_le_wordMax ..) (bounded_of_refusal decided small fits) kept
        (List.append_cancel_left same)

end Part

namespace Value

mutual

/-- Behind every container of a value that is entered comes its tag. -/
theorem settled_parts (depth : Nat) : (value : Value) → Part.Settled (value.parts depth)
  | .null | .bool false | .bool true | .int _ | .word _ | .float _ | .string _ | .bytes _ =>
    trivial
  | .list items => ⟨by simp [Part.ofTag, Part.image], settled_partsOfItems depth items⟩
  | .array elementType items =>
    ⟨by simp [Part.ofTag, Part.image], settled_partsOfItems depth items⟩
  | .map entries => ⟨by simp [Part.ofTag, Part.image], settled_partsOfEntries depth entries⟩
  | .object typeName fields =>
    ⟨by simp [Part.ofTag, Part.image], settled_partsOfEntries depth fields⟩

/-- Behind every container in items comes its tag. -/
theorem settled_partsOfItems (depth : Nat) :
    (items : List Value) → Part.Settled (partsOfItems depth items)
  | [] => trivial
  | item :: items =>
    (settled_parts (depth + 1) item).append (settled_partsOfItems depth items)

/-- Behind every container in entries comes its tag. -/
theorem settled_partsOfEntries (depth : Nat) :
    (entries : List (String × Value)) → Part.Settled (partsOfEntries depth entries)
  | [] => trivial
  | (_, value) :: entries =>
    (settled_parts (depth + 1) value).append (settled_partsOfEntries depth entries)

end

end Value

/-! Encoders that write to a store, which may have a capacity. -/

namespace Encoder

variable {encoder : Encoder Store} {capacity : Nat}

/-- What comes of parts that are let out and then refused or not. -/
def verdict : Option Failure → Except Failure Unit
  | none => .ok ()
  | some failure => .error failure

/-- Both counts of an encoder are words. -/
structure Counting (encoder : Encoder Store) : Prop where
  small : encoder.messageSize ≤ wordMax
  counted : encoder.written ≤ wordMax

/-- The store of an encoder has these bytes more, and both counts tell of them. -/
structure Passed (encoder : Encoder Store) (data : Bytes) (after : Encoder Store) : Prop where
  sameLimits : after.limits = encoder.limits
  sameCapacity : after.sink.capacity = encoder.sink.capacity
  has : after.sink.toBytes = encoder.sink.toBytes ++ data
  sized : after.messageSize = addCount encoder.messageSize data.length
  written : after.written = addCount encoder.written data.length

/-- Without any bytes an encoder stays as it is. -/
theorem Counting.passed_nil (counting : encoder.Counting) : encoder.Passed [] encoder :=
  ⟨rfl, rfl, (List.append_nil _).symm, (addCount_zero counting.small).symm,
    (addCount_zero counting.counted).symm⟩

/-- The counts remain words. -/
theorem Passed.counting {data : Bytes} {after : Encoder Store}
    (passed : encoder.Passed data after) : after.Counting :=
  ⟨passed.sized ▸ addCount_le_wordMax .., passed.written ▸ addCount_le_wordMax ..⟩

/-- Bytes that are written one after the other are written together. -/
theorem Passed.trans {front back : Bytes} {between after : Encoder Store}
    (passed : encoder.Passed front between) (further : between.Passed back after) :
    encoder.Passed (front ++ back) after where
  sameLimits := further.sameLimits.trans passed.sameLimits
  sameCapacity := further.sameCapacity.trans passed.sameCapacity
  has := by rw [further.has, passed.has, List.append_assoc]
  sized := by rw [further.sized, passed.sized, addCount_addCount, List.length_append]
  written := by rw [further.written, passed.written, addCount_addCount, List.length_append]

/-- The store of an encoder is full, and the count of all messages tells of what is before that. -/
structure Overrun (capacity : Nat) (encoder : Encoder Store) (data : Bytes)
    (after : Encoder Store) : Prop where
  sameLimits : after.limits = encoder.limits
  clipped : after.sink.Clipped capacity (encoder.sink.toBytes ++ data)
  -- The write that failed is not counted, though some of it may be in the store.
  written : ∃ count, encoder.sink.toBytes.length + count ≤ capacity ∧
    after.written = addCount encoder.written count

/-- Bytes that nothing keeps out are written, and counted once they are. -/
def emit (data : Bytes) : EncodeM Store Unit := fun encoder =>
  match Sink.writeAll data encoder.sink with
  | .error cause sink => .error (.stream cause) { encoder with sink }
  | .ok () sink =>
    .ok () { encoder with
      sink
      messageSize := addCount encoder.messageSize data.length
      written := addCount encoder.written data.length }

/-- Nothing is written for no bytes, and nothing is counted. -/
theorem emit_nil (counting : encoder.Counting) : emit [] encoder = .ok () encoder := by
  have nothing : Sink.writeAll [] encoder.sink = .ok () encoder.sink := by
    show writeAllWith Store.write [] encoder.sink = _
    rw [writeAllWith, run_pure]
  simp only [emit, nothing, List.length_nil, addCount_zero counting.small,
    addCount_zero counting.counted]

/-- Bytes are written unless the ceiling of messages keeps them out. -/
theorem put_eq (data : Bytes) :
    put data encoder =
      (Part.oversize? encoder.limits encoder.messageSize data.length).elim (emit data encoder)
        fun failure => .error failure encoder := by
  by_cases exceeded :
      encoder.limits.messageSize < addCount encoder.messageSize data.length
  · simp only [put, Part.oversize?, if_pos exceeded, Option.elim_some]
  · simp only [put, emit, Part.oversize?, if_neg exceeded, Option.elim_none]
    cases Sink.writeAll data encoder.sink with
    | ok answer sink => rfl
    | error cause sink => rfl

/-- A part is written as it is, unless the ceilings keep it out, and then nothing is. -/
theorem perform_eq (counting : encoder.Counting) (part : Part) :
    perform part encoder =
      (part.refusal? encoder.limits encoder.messageSize).elim (emit part.image encoder)
        fun failure => .error failure encoder := by
  cases part with
  | enter depth =>
    by_cases deep : encoder.limits.depth ≤ depth
    · simp [perform, Part.refusal?, deep]
    -- Entering a container is like writing nothing.
    · simp [perform, Part.refusal?, deep, Part.image, emit_nil counting]
  | raw data => exact put_eq data
  | length count =>
    by_cases long : encoder.limits.frameSize < count
    · simp [perform, Part.refusal?, long]
    · by_cases wide : lengthMax < count
      · simp [perform, Part.refusal?, long, wide]
      · have written : put (Bytes.ofNatBE 4 count) encoder = _ := put_eq _
        rw [Bytes.length_ofNatBE] at written
        simpa [perform, Part.refusal?, Part.image, long, wide] using written

/-- A part that is not kept out goes to a store that has room for it. -/
theorem perform_of_room (counting : encoder.Counting) {part : Part}
    (free : part.refusal? encoder.limits encoder.messageSize = none)
    (room : encoder.sink.HasRoom part.image.length) :
    ∃ after, perform part encoder = .ok () after ∧ encoder.Passed part.image after := by
  obtain ⟨_, sink, wrote, kept, has⟩ := (Store.fills_writeAll part.image).ok encoder.sink room
  rw [perform_eq counting, free, Option.elim_none, emit, wrote]
  exact ⟨_, rfl, rfl, kept, has, rfl, rfl⟩

/-- A part that is not kept out overruns a store that does not have room for it. -/
theorem perform_of_short (counting : encoder.Counting) {part : Part}
    (free : part.refusal? encoder.limits encoder.messageSize = none)
    (limited : encoder.sink.capacity = some capacity)
    (fits : encoder.sink.toBytes.length ≤ capacity)
    (short : capacity < encoder.sink.toBytes.length + part.image.length) :
    ∃ cause after, perform part encoder = .error (.stream cause) after ∧
      encoder.Overrun capacity part.image after := by
  obtain ⟨cause, sink, failed, clipped⟩ :=
    (Store.fills_writeAll part.image).error encoder.sink limited fits short
  rw [perform_eq counting, free, Option.elim_none, emit, failed]
  exact ⟨cause, _, rfl, rfl, clipped, 0, fits, (addCount_zero counting.counted).symm⟩

/-- Parts go to a store that has room for all that is let out, up to the first that is not. -/
theorem performAll_of_room (counting : encoder.Counting) {parts : List Part} {data : Bytes}
    {refusal : Option Failure}
    (walked : Part.allowed encoder.limits encoder.messageSize parts = (data, refusal))
    (room : encoder.sink.HasRoom data.length) :
    outcome (performAll parts encoder) = verdict refusal ∧
      encoder.Passed data (stateAfter (performAll parts encoder)) := by
  induction parts generalizing encoder data with
  | nil =>
    cases walked
    exact ⟨rfl, counting.passed_nil⟩
  | cons part parts ih =>
    rw [performAll, run_bind]
    cases decided : part.refusal? encoder.limits encoder.messageSize with
    | some failure =>
      rw [Part.allowed_of_refused decided] at walked
      cases walked
      rw [perform_eq counting, decided]
      exact ⟨rfl, counting.passed_nil⟩
    | none =>
      obtain ⟨rest, rfl, walkedRest⟩ := Part.exists_rest_of_allowed decided walked
      rw [List.length_append] at room
      obtain ⟨between, performed, passed⟩ :=
        perform_of_room counting decided (room.mono (Nat.le_add_right ..))
      -- The others are looked at where the first one has been counted.
      rw [← passed.sameLimits, ← passed.sized] at walkedRest
      obtain ⟨came, further⟩ :=
        ih passed.counting walkedRest (room.behind passed.sameCapacity passed.has)
      rw [performed]
      exact ⟨came, passed.trans further⟩

/-- Parts overrun a store that does not have room for all that is let out. -/
theorem performAll_of_short (counting : encoder.Counting) {parts : List Part} {data : Bytes}
    {refusal : Option Failure}
    (walked : Part.allowed encoder.limits encoder.messageSize parts = (data, refusal))
    (limited : encoder.sink.capacity = some capacity)
    (fits : encoder.sink.toBytes.length ≤ capacity)
    (short : capacity < encoder.sink.toBytes.length + data.length) :
    ∃ cause after, performAll parts encoder = .error (.stream cause) after ∧
      encoder.Overrun capacity data after := by
  induction parts generalizing encoder data with
  | nil =>
    cases walked
    exact absurd short (Nat.not_lt.mpr fits)
  | cons part parts ih =>
    rw [performAll, run_bind]
    cases decided : part.refusal? encoder.limits encoder.messageSize with
    | some failure =>
      rw [Part.allowed_of_refused decided] at walked
      cases walked
      exact absurd short (Nat.not_lt.mpr fits)
    | none =>
      obtain ⟨rest, rfl, walkedRest⟩ := Part.exists_rest_of_allowed decided walked
      rw [List.length_append] at short
      -- Either the first part is too much already, or the others are behind it.
      by_cases early : capacity < encoder.sink.toBytes.length + part.image.length
      · obtain ⟨cause, after, failed, overrun⟩ :=
          perform_of_short counting decided limited fits early
        rw [failed]
        refine ⟨cause, after, rfl, overrun.sameLimits, ?_, overrun.written⟩
        rw [← List.append_assoc]
        exact overrun.clipped.append (by rw [List.length_append]; omega) _
      · have room : encoder.sink.HasRoom part.image.length :=
          Store.hasRoom_of_le limited (Nat.not_lt.mp early)
        obtain ⟨between, performed, passed⟩ := perform_of_room counting decided room
        rw [← passed.sameLimits, ← passed.sized] at walkedRest
        have length : between.sink.toBytes.length =
            encoder.sink.toBytes.length + part.image.length := by
          rw [passed.has, List.length_append]
        obtain ⟨cause, after, failed, overrun⟩ := ih passed.counting walkedRest
          (passed.sameCapacity.trans limited) (by omega) (by omega)
        rw [performed]
        refine ⟨cause, after, failed, overrun.sameLimits.trans passed.sameLimits, ?_, ?_⟩
        · rw [← List.append_assoc, ← passed.has]
          exact overrun.clipped
        · obtain ⟨count, within, written⟩ := overrun.written
          refine ⟨part.image.length + count, by omega, ?_⟩
          rw [written, passed.written, addCount_addCount]

/-- With a store, a message is nothing but its parts. -/
theorem writeMessage_eq (value : Value) (encoder : Encoder Store) :
    writeMessage value encoder =
      performAll value.messageParts { encoder with messageSize := 0 } := by
  simp only [writeMessage, run_bind, run_modify]
  -- There is nothing to flush behind the last part.
  cases performAll value.messageParts { encoder with messageSize := 0 } with
  | ok answer after => rfl
  | error failure after => rfl

end Encoder

/-- An encoding is what the ceilings let out of a message, if they let all of it out. -/
theorem encode_eq_verdict {value : Value} {limits : Limits} {data : Bytes}
    {refusal : Option Failure}
    (walked : Part.allowed limits 0 value.messageParts = (data, refusal)) :
    encode value limits = (Encoder.verdict refusal).map fun _ => data := by
  let start : Encoder Store := { sink := {}, limits }
  have counting : start.Counting := ⟨Nat.zero_le _, Nat.zero_le _⟩
  have room : start.sink.HasRoom data.length := Store.hasRoom_of_none rfl _
  obtain ⟨came, passed⟩ := Encoder.performAll_of_room counting walked room
  have written : Encoder.writeMessage value { sink := ({} : Store), limits } =
      Encoder.performAll value.messageParts start :=
    Encoder.writeMessage_eq value start
  have has := passed.has
  rw [encode, written]
  cases ran : Encoder.performAll value.messageParts start with
  | ok answer after =>
    rw [ran] at came has
    rw [← came]
    exact congrArg Except.ok has
  | error failure after =>
    rw [ran] at came
    rw [← came]
    rfl

/-- What a call leaves behind of a message, and what it comes to. -/
structure Wrote (limits : Limits) (value : Value) (piece : Bytes) (outcome : Except Failure Unit) :
    Prop where
  front : piece <+: value.wireImage
  bounded : piece.length ≤ limits.messageSize
  whole : piece = value.wireImage ↔ outcome = .ok ()
  /-- Apart from a sink that fails, the call comes to what encoding the value does. -/
  encodes : (∀ cause, outcome ≠ .error (.stream cause)) →
    outcome = (encode value limits).map fun _ => ()

namespace Wrote

variable {limits : Limits} {value : Value} {data piece : Bytes} {refusal : Option Failure}

/-- What the ceilings let out of a message is the beginning of it, and not too long. -/
theorem front_of_allowed (walked : Part.allowed limits 0 value.messageParts = (data, refusal))
    (small : value.wireImage.length ≤ wordMax) :
    data <+: value.wireImage ∧ data.length ≤ limits.messageSize := by
  have image : Part.images value.messageParts = value.wireImage := value.image_eq_wireImage
  have front := Part.allowed_front limits 0 value.messageParts
  rw [walked, image] at front
  have bounded := Part.allowed_bounded value.messageParts (Nat.zero_le wordMax)
    (Nat.zero_le limits.messageSize)
  rw [walked, zero_addCount (Nat.le_trans front.length_le small)] at bounded
  exact ⟨front, bounded⟩

/-- A call that leaves all that is let out comes to what the ceilings say. -/
theorem of_allowed (walked : Part.allowed limits 0 value.messageParts = (data, refusal))
    (small : value.wireImage.length ≤ wordMax) :
    Wrote limits value data (Encoder.verdict refusal) := by
  have image : Part.images value.messageParts = value.wireImage := value.image_eq_wireImage
  obtain ⟨front, bounded⟩ := front_of_allowed walked small
  refine ⟨front, bounded, ?_, fun _ => ?_⟩
  · cases refusal with
    | none =>
      have all := Part.allowed_of_none (congrArg Prod.snd walked)
      rw [walked, image] at all
      exact ⟨fun _ => rfl, fun _ => all⟩
    | some failure =>
      -- Behind the part that was kept out there are bytes, if it has none itself.
      have settled : Part.Settled value.messageParts := value.settled_parts 0
      have missing := Part.allowed_of_some settled (Nat.zero_le _) (Nat.zero_le _)
        (congrArg Prod.snd walked)
      rw [walked, image] at missing
      exact ⟨fun same => absurd same missing, fun done => nomatch done⟩
  · rw [encode_eq_verdict walked, except_map_map]
    cases refusal with
    | none => rfl
    | some failure => rfl

/-- A call that the sink fails leaves less than is let out. -/
theorem of_stream (walked : Part.allowed limits 0 value.messageParts = (data, refusal))
    (small : value.wireImage.length ≤ wordMax) (front : piece <+: data)
    (shorter : piece.length < data.length) (cause : StreamError) :
    Wrote limits value piece (.error (.stream cause)) := by
  obtain ⟨frontData, bounded⟩ := front_of_allowed walked small
  have less := Nat.lt_of_lt_of_le shorter frontData.length_le
  refine ⟨front.trans frontData, by omega, ⟨fun same => ?_, fun done => nomatch done⟩,
    fun other => absurd rfl (other cause)⟩
  rw [same] at less
  exact absurd less (Nat.lt_irrefl _)

end Wrote

namespace Encoder

variable {encoder : Encoder Store} {capacity : Nat}

/-- What a call adds to a store that has a capacity, and to the count of all messages. -/
structure Adds (capacity : Nat) (encoder : Encoder Store) (piece : Bytes)
    (result : EStateM.Result Failure (Encoder Store) Unit) : Prop where
  sameLimits : (stateAfter result).limits = encoder.limits
  limited : (stateAfter result).sink.capacity = some capacity
  fits : (stateAfter result).sink.toBytes.length ≤ capacity
  has : (stateAfter result).sink.toBytes = encoder.sink.toBytes ++ piece
  counted : ∃ count ≤ piece.length, (stateAfter result).written = addCount encoder.written count
  -- Only a write that fails leaves bytes in the store that are not counted.
  exact : (∀ cause, outcome result ≠ .error (.stream cause)) →
    (stateAfter result).written = addCount encoder.written piece.length

/-- A call leaves the beginning of a message behind, in a store that may be full then. -/
theorem writeMessage_limited (limited : encoder.sink.capacity = some capacity)
    (fits : encoder.sink.toBytes.length ≤ capacity) (counted : encoder.written ≤ wordMax)
    {value : Value} (small : value.wireImage.length ≤ wordMax) :
    ∃ piece, Wrote encoder.limits value piece (outcome (writeMessage value encoder)) ∧
      encoder.Adds capacity piece (writeMessage value encoder) := by
  have counting : Counting { encoder with messageSize := 0 } := ⟨Nat.zero_le _, counted⟩
  obtain ⟨data, refusal, walked⟩ :
      ∃ data refusal, Part.allowed encoder.limits 0 value.messageParts = (data, refusal) :=
    ⟨_, _, rfl⟩
  rw [writeMessage_eq]
  by_cases room : encoder.sink.toBytes.length + data.length ≤ capacity
  · obtain ⟨came, passed⟩ :=
      performAll_of_room counting walked (Store.hasRoom_of_le limited room)
    refine ⟨data, came ▸ Wrote.of_allowed walked small, passed.sameLimits,
      passed.sameCapacity.trans limited, ?_, passed.has, ⟨data.length, Nat.le_refl _,
        passed.written⟩, fun _ => passed.written⟩
    rw [passed.has, List.length_append]
    exact room
  -- The store has room for the first of the bytes only.
  · obtain ⟨cause, after, failed, overrun⟩ :=
      performAll_of_short counting walked limited fits (Nat.not_le.mp room)
    have has : after.sink.toBytes =
        encoder.sink.toBytes ++ data.take (capacity - encoder.sink.toBytes.length) := by
      rw [overrun.clipped.clipped, List.take_append, List.take_of_length_le fits]
    have length : (data.take (capacity - encoder.sink.toBytes.length)).length =
        capacity - encoder.sink.toBytes.length := by
      rw [List.length_take]
      omega
    rw [failed]
    refine ⟨_, Wrote.of_stream walked small (List.take_prefix _ data) (by omega) cause,
      overrun.sameLimits, overrun.clipped.limited, ?_, has, ?_,
      fun other => absurd rfl (other cause)⟩
    · show after.sink.toBytes.length ≤ capacity
      rw [has, List.length_append, length]
      omega
    · obtain ⟨count, within, written⟩ := overrun.written
      have within : encoder.sink.toBytes.length + count ≤ capacity := within
      exact ⟨count, by omega, written⟩

/-- Call after call leaves the beginning of a message behind, and the count is not ahead of them. -/
theorem writeEach_limited (limited : encoder.sink.capacity = some capacity)
    (fits : encoder.sink.toBytes.length ≤ capacity) {values : List Value}
    (small : encoder.written + (values.map (·.wireImage.length)).sum ≤ wordMax) :
    let ran := runEach (values.map writeMessage) encoder
    ran.1.length = values.length ∧
      ∃ pieces, List.Forall₂ (fun call piece => Wrote encoder.limits call.1 piece call.2)
          (values.zip ran.1) pieces ∧
        ran.2.sink.toBytes = encoder.sink.toBytes ++ pieces.flatten ∧
        ran.2.sink.toBytes.length ≤ capacity ∧
        ran.2.written ≤ encoder.written + pieces.flatten.length ∧
        ((∀ outcome ∈ ran.1, ∀ cause, outcome ≠ .error (.stream cause)) →
          ran.2.written = encoder.written + pieces.flatten.length) := by
  -- Each call finds the store and the count as the one before has left them.
  induction values generalizing encoder with
  | nil => exact ⟨rfl, [], .nil, (List.append_nil _).symm, fits, Nat.le_refl _, fun _ => rfl⟩
  | cons value values ih =>
    simp only [List.map_cons, List.sum_cons] at small
    have smallValue : value.wireImage.length ≤ wordMax := by omega
    obtain ⟨piece, wrote, adds⟩ :=
      writeMessage_limited limited fits (Nat.le_trans (Nat.le_add_right ..) small) smallValue
    have lengthPiece := wrote.front.length_le
    obtain ⟨count, covered, written⟩ := adds.counted
    -- None of the counts is cut off, since all the messages together can be counted.
    have plain {more : Nat} (le : more ≤ piece.length) :
        addCount encoder.written more = encoder.written + more :=
      Nat.min_eq_left (by omega)
    rw [plain covered] at written
    obtain ⟨lengths, pieces, wroteRest, has, fitsAll, counted, exact⟩ :=
      ih adds.limited adds.fits (by omega)
    rw [adds.sameLimits] at wroteRest
    have sum : (piece :: pieces).flatten.length = piece.length + pieces.flatten.length := by
      rw [List.flatten_cons, List.length_append]
    simp only [List.map_cons, runEach, List.zip_cons_cons, List.length_cons, lengths, true_and]
    refine ⟨piece :: pieces, .cons wrote wroteRest, ?_, fitsAll, by omega, fun unfailed => ?_⟩
    · rw [has, adds.has, List.append_assoc]
      rfl
    · have last := exact fun outcome member => unfailed outcome (List.mem_cons_of_mem _ member)
      have first := adds.exact (unfailed _ List.mem_cons_self)
      rw [plain (Nat.le_refl _)] at first
      omega

end Encoder

/--
However an encoding fails, it leaves the beginning of a message behind, and nothing else.

Call after call, with ceilings and a store that has room for so many bytes, the store has one piece
for each call: all of the message if the call succeeds, and less of it otherwise.
-/
theorem messages_clipped {values : List Value} (capacity : Nat) (limits : Limits)
    (small : (values.map (·.wireImage.length)).sum < 2 ^ 64) :
    let ran := runEach (values.map Encoder.writeMessage)
      { sink := ({ capacity := some capacity } : Store), limits }
    ran.1.length = values.length ∧
      ∃ pieces, List.Forall₂ (fun call piece => Wrote limits call.1 piece call.2)
          (values.zip ran.1) pieces ∧
        ran.2.sink.toBytes = pieces.flatten ∧ ran.2.sink.toBytes.length ≤ capacity ∧
        ran.2.written ≤ ran.2.sink.toBytes.length ∧
        ((∀ outcome ∈ ran.1, ∀ cause, outcome ≠ .error (.stream cause)) →
          ran.2.written = ran.2.sink.toBytes.length) := by
  intro ran
  let start : Encoder Store := { sink := { capacity := some capacity }, limits }
  have bounded : start.written + (values.map (·.wireImage.length)).sum ≤ wordMax := by
    rw [show start.written = 0 from rfl, Nat.zero_add]
    exact Nat.le_pred_of_lt small
  obtain ⟨lengths, pieces, wrote, has, fits, counted, exact⟩ :=
    Encoder.writeEach_limited (rfl : start.sink.capacity = some capacity) (Nat.zero_le _) bounded
  -- A fresh encoder has written nothing, and its store is empty.
  have whole : ran.2.sink.toBytes = pieces.flatten := has
  have length := congrArg List.length whole
  have none : start.written = 0 := rfl
  rw [none, Nat.zero_add, ← length] at counted exact
  exact ⟨lengths, pieces, wrote, whole, fits, counted, exact⟩

/-- Two calls are stopped by a ceiling, one succeeds, and the last one fills the store. -/
theorem messages_clipped_four :
    let limits : Limits := { messageSize := 20, frameSize := 2, depth := 1 }
    let values : List Value := [.list [.list []], .null, .string "abc", .int 7]
    let ran := runEach (values.map Encoder.writeMessage)
      { sink := ({ capacity := some 13 } : Store), limits }
    (values.map (·.wireImage.length)).sum < 2 ^ 64 ∧
      ran.1 = [.error (.limitExceeded .recursionDepth 1 2), .ok (),
        .error (.limitExceeded .frameSize 2 3), .error (.stream .sinkFull)] ∧
      ran.2.written = 12 ∧ ∃ pieces,
        List.Forall₂ (fun call piece => Wrote limits call.1 piece call.2)
            (values.zip ran.1) pieces ∧
          pieces.flatten = [1, 8, 0, 0, 0, 1, 1, 0, 1, 6, 1, 3, 0] := by
  intro limits values ran
  have small : (values.map (·.wireImage.length)).sum < 2 ^ 64 := by decide +kernel
  have outcomes : ran.1 = [.error (.limitExceeded .recursionDepth 1 2), .ok (),
      .error (.limitExceeded .frameSize 2 3), .error (.stream .sinkFull)] := by
    decide +kernel
  have bytes : ran.2.sink.toBytes = [1, 8, 0, 0, 0, 1, 1, 0, 1, 6, 1, 3, 0] := by decide +kernel
  obtain ⟨_, pieces, wrote, has, _⟩ := messages_clipped 13 limits small
  exact ⟨small, outcomes, by decide +kernel, pieces, wrote, has.symm.trans bytes⟩

end RemoteCall
