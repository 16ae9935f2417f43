import RemoteCall.Proofs.Codec.Message

/-! What a decoder takes of its source and what it counts, however its work ends. -/

namespace RemoteCall

namespace Decoder

variable {α β : Type}

/-- What a decoder has taken and what it has counted since it stood at the start of a message. -/
structure Accounts (start : Decoder) (taken : Bytes) (counted : Nat) (after : Decoder) : Prop where
  sameLimits : after.limits = start.limits
  reaches : start.source.Reaches taken.length
  front : start.source.rest = taken ++ after.source.rest
  moved : after.source = start.source.skip taken.length
  sized : after.messageSize = addCount 0 counted
  read : after.read = addCount start.read counted
  fits : addCount 0 counted ≤ start.limits.messageSize
  -- Bytes are counted before they are taken, and only a spent source leaves some of them out.
  covered : taken.length ≤ counted
  missing : counted = taken.length ∨ after.source.Spent

/-- So many bytes were due: a fixed number of octets, or as many as the last four octets tell. -/
def Due (count : Nat) (taken : Bytes) : Prop :=
  count ∈ [1, 4, 8] ∨ Bytes.ofNatBE 4 count <:+ taken

/-- What a failure tells of the bytes that were taken before it. -/
def Explains (start : Decoder) (taken : Bytes) : Failure → Prop
  -- The bytes that would have passed the ceiling are not among those that were taken.
  | .limitExceeded .messageSize limit actual =>
    limit = start.limits.messageSize ∧ limit < actual ∧
      ∃ count, Due count taken ∧ actual = addCount taken.length count
  | .limitExceeded .frameSize limit actual =>
    limit = start.limits.frameSize ∧ limit < actual ∧ Bytes.ofNatBE 4 actual <:+ taken
  | .limitExceeded .recursionDepth limit actual =>
    limit = start.limits.depth ∧ actual = limit + 1 ∧
      ∃ tag ∈ [Tag.list, .array, .map, .object], [tag.toByte] <:+ taken
  | .malformed (.unknownTag byte offset) =>
    [byte] <:+ taken ∧ offset = addCount start.read taken.length - 1
  | _ => True

/--
A step accounts for the bytes of a message as it goes on, and also where it fails.

It may rely on what is `known` of the bytes that were taken before it, and `tells` something of them
and of those that it takes itself.
-/
structure Reckons (start : Decoder) (known : Bytes → Prop) (step : DecodeM α)
    (tells : α → Bytes → Prop) : Prop where
  ok : ∀ decoder {taken answer after}, Accounts start taken taken.length decoder → known taken →
    step decoder = .ok answer after →
      ∃ more, Accounts start more more.length after ∧ tells answer more
  error : ∀ decoder {taken failure after}, Accounts start taken taken.length decoder →
    known taken → step decoder = .error failure after →
      ∃ more counted, Accounts start more counted after ∧ Explains start more failure

/-- A step that accounts for bytes whatever came before it. -/
abbrev Plain (start : Decoder) (step : DecodeM α) : Prop :=
  Reckons start (fun _ => True) step fun _ _ => True

namespace Reckons

variable {start : Decoder} {known other : Bytes → Prop}

/-- An answer at hand takes nothing. -/
theorem pure (answer : α) :
    Reckons start known (Pure.pure answer) fun found taken => found = answer ∧ known taken where
  ok _ taken _ _ accounts knows ran := by
    cases ran
    exact ⟨taken, accounts, rfl, knows⟩
  error _ _ _ _ _ _ ran := nomatch ran

/-- A failure at hand takes nothing. -/
theorem throw {failure : Failure} {tells : α → Bytes → Prop}
    (explains : ∀ taken, known taken → Explains start taken failure) :
    Reckons start known (MonadExcept.throw failure : DecodeM α) tells where
  ok _ _ _ _ _ _ ran := nomatch ran
  error _ taken _ _ accounts knows ran := by
    cases ran
    exact ⟨taken, taken.length, accounts, explains taken knows⟩

/-- Steps in sequence account for bytes if each of them does, with what the first one tells. -/
theorem bind {step : DecodeM α} {next : α → DecodeM β} {tells : α → Bytes → Prop}
    {tellsNext : β → Bytes → Prop} (reckons : Reckons start known step tells)
    (reckonsNext : ∀ answer, Reckons start (tells answer) (next answer) tellsNext) :
    Reckons start known (step >>= next) tellsNext where
  ok decoder _ _ _ accounts knows ran := by
    obtain ⟨answer, between, ranFirst, ranNext⟩ := run_bind_eq_ok_iff.mp ran
    obtain ⟨taken, accounts, told⟩ := reckons.ok decoder accounts knows ranFirst
    exact (reckonsNext answer).ok between accounts told ranNext
  error decoder _ _ _ accounts knows ran := by
    rcases run_bind_eq_error_iff.mp ran with failed | ⟨answer, between, ranFirst, failed⟩
    · exact reckons.error decoder accounts knows failed
    · obtain ⟨taken, accounts, told⟩ := reckons.ok decoder accounts knows ranFirst
      exact (reckonsNext answer).error between accounts told failed

/-- A step may be told more than it relies on, and less may be told of what it did. -/
theorem weaken {step : DecodeM α} {tells tellsLess : α → Bytes → Prop}
    (reckons : Reckons start known step tells) (knows : ∀ taken, other taken → known taken)
    (less : ∀ answer taken, tells answer taken → tellsLess answer taken) :
    Reckons start other step tellsLess where
  ok decoder _ _ _ accounts knew ran := by
    obtain ⟨taken, accounts, told⟩ := reckons.ok decoder accounts (knows _ knew) ran
    exact ⟨taken, accounts, less _ taken told⟩
  error decoder _ _ _ accounts knew ran := reckons.error decoder accounts (knows _ knew) ran

/-- What a step tells may be forgotten. -/
theorem plain {step : DecodeM α} {tells : α → Bytes → Prop}
    (reckons : Reckons start (fun _ => True) step tells) : Plain start step :=
  reckons.weaken (fun _ => id) fun _ _ _ => trivial

/-- An answer at hand takes nothing, and need not tell anything of what was taken. -/
theorem silent (answer : α) : Reckons start known (Pure.pure answer) fun _ _ => True :=
  (pure answer).weaken (fun _ => id) fun _ _ _ => trivial

/-- A step that relies on nothing accounts for bytes whatever is known of those before it. -/
theorem anywhere {step : DecodeM α} (plain : Plain start step) :
    Reckons start known step fun _ _ => True :=
  plain.weaken (fun _ _ => trivial) fun _ _ => id

/-- Making something of an answer takes nothing. -/
theorem map {step : DecodeM α} {tells : α → Bytes → Prop} (reckons : Reckons start known step tells)
    (make : α → β) : Reckons start known (do return make (← step)) fun _ _ => True :=
  reckons.bind fun answer => silent (make answer)

/-- Whatever a step comes to, it accounts for its bytes. -/
theorem settles {step : DecodeM α} {tells : α → Bytes → Prop}
    (reckons : Reckons start known step tells) {decoder : Decoder} {taken : Bytes}
    (accounts : Accounts start taken taken.length decoder) (knows : known taken) :
    ∃ more count, Accounts start more count (stateAfter (step decoder)) ∧
      ∀ failure, outcome (step decoder) = .error failure → Explains start more failure := by
  cases ran : step decoder with
  | ok answer after =>
    obtain ⟨more, accounts, _⟩ := reckons.ok decoder accounts knows ran
    exact ⟨more, more.length, accounts, fun _ failed => nomatch failed⟩
  | error failure after =>
    obtain ⟨more, count, accounts, explains⟩ := reckons.error decoder accounts knows ran
    refine ⟨more, count, accounts, fun _ failed => ?_⟩
    cases failed
    exact explains

end Reckons

variable {start : Decoder} {known : Bytes → Prop}

/-- Bytes that the ceiling lets be taken are counted, also those that the source leaves out. -/
theorem Accounts.further {decoder : Decoder} {taken bytes : Bytes} {count : Nat}
    (accounts : Accounts start taken taken.length decoder)
    (fits : ¬ decoder.limits.messageSize < addCount decoder.messageSize count)
    (within : bytes.length ≤ count) (reaches : decoder.source.Reaches bytes.length)
    (front : decoder.source.rest = bytes ++ (decoder.source.skip bytes.length).rest)
    (missing : bytes.length = count ∨ (decoder.source.skip bytes.length).Spent) :
    Accounts start (taken ++ bytes) (taken.length + count)
      { decoder with
        source := decoder.source.skip bytes.length
        messageSize := addCount decoder.messageSize count
        read := addCount decoder.read count } := by
  obtain ⟨sameLimits, reached, opening, moved, sized, read, _, _, _⟩ := accounts
  refine ⟨sameLimits, ?_, ?_, ?_, ?_, ?_, ?_, ?_, ?_⟩
  · rw [List.length_append]
    exact Source.reaches_add.mpr ⟨reached, moved ▸ reaches⟩
  · rw [opening, List.append_assoc]
    exact congrArg _ front
  · rw [List.length_append, ← Source.skip_skip, ← moved]
  · rw [← addCount_addCount, ← sized]
  · rw [← addCount_addCount, ← read]
  · rw [sized, addCount_addCount, sameLimits] at fits
    exact Nat.not_lt.mp fits
  · rw [List.length_append]
    omega
  · rcases missing with whole | spent
    · exact .inl (by rw [List.length_append, whole])
    · exact .inr spent

/-- Bytes that are due are taken, unless the ceiling refuses them or the source leaves some out. -/
theorem reckons_take {count : Nat} (due : ∀ taken, known taken → Due count taken) :
    Reckons start known (take count) fun bytes taken => bytes.length = count ∧ bytes <:+ taken where
  ok decoder taken bytes after accounts knows ran := by
    obtain ⟨rfl, fits, reaches, front, rfl⟩ := take_eq_ok_iff.mp ran
    refine ⟨taken ++ bytes, ?_, rfl, List.suffix_append taken bytes⟩
    rw [List.length_append]
    exact accounts.further (Nat.not_lt.mpr fits) (Nat.le_refl _) reaches front (.inl rfl)
  error decoder taken failure after accounts knows ran := by
    simp only [take] at ran
    split at ran
    -- The ceiling is asked first, and nothing is taken where it refuses.
    · next exceeded =>
      cases ran
      rw [accounts.sized, accounts.sameLimits, addCount_addCount] at exceeded ⊢
      refine ⟨taken, taken.length, accounts, rfl, exceeded, count, due taken knows, ?_⟩
      simp only [addCount, Nat.zero_add]
    · next fits =>
      cases found : Source.take count decoder.source with
      | ok bytes source =>
        rw [found] at ran
        cases ran
      | error stop source =>
        obtain ⟨bytes, fewer, reaches, front, rfl, place⟩ := Source.take_eq_error found
        have further :=
          accounts.further fits (Nat.le_of_lt fewer) reaches front (.inr place.spent)
        rw [found] at ran
        cases stop with
        | ended =>
          cases ran
          exact ⟨taken ++ bytes, _, further, trivial⟩
        | broken cause =>
          cases ran
          exact ⟨taken ++ bytes, _, further, trivial⟩

/-- The octets of a number are the last bytes that were taken. -/
theorem reckons_takeNat {width : Nat} (fixed : width ∈ [1, 4, 8]) :
    Reckons start known (takeNat width)
      fun number taken => Bytes.ofNatBE width number <:+ taken := by
  refine (reckons_take fun _ _ => .inl fixed).bind fun bytes => ?_
  refine (Reckons.pure (Bytes.toNatBE bytes)).weaken (fun _ => id) fun number taken facts => ?_
  obtain ⟨rfl, rfl, last⟩ := facts
  rw [Bytes.ofNatBE_toNatBE]
  exact last

/-- The octets of a length are the last bytes that were taken, whether or not it is refused. -/
theorem reckons_takeLength :
    Reckons start known takeLength fun count taken => Bytes.ofNatBE 4 count <:+ taken := by
  refine (reckons_takeNat (by decide)).bind fun length => ⟨?ok, ?error⟩
  case ok =>
    intro decoder taken answer after accounts last ran
    simp only [run_bind, run_get] at ran
    split at ran
    · cases ran
    · cases ran
      exact ⟨taken, accounts, last⟩
  case error =>
    intro decoder taken failure after accounts last ran
    simp only [run_bind, run_get, accounts.sameLimits] at ran
    split at ran
    · next exceeded =>
      cases ran
      exact ⟨taken, taken.length, accounts, rfl, exceeded, last⟩
    · cases ran

/-- Octets of a length that was told are taken, whether or not they spell a string. -/
theorem reckons_takeText (length : Nat) :
    Reckons start (fun taken => Bytes.ofNatBE 4 length <:+ taken) (takeText length)
      fun _ _ => True := by
  refine (reckons_take fun _ told => .inr told).bind fun bytes => ?_
  cases Bytes.toString? bytes with
  | ok text => exact .silent text
  | error fault => exact .throw fun _ _ => trivial

/-- A string is its length and then so many octets. -/
theorem reckons_takeString : Plain start takeString :=
  reckons_takeLength.bind reckons_takeText

/-- The octet of a tag is the last one that was taken, whether or not it is known. -/
theorem reckons_takeTag : Reckons start known takeTag fun tag taken => [tag.toByte] <:+ taken := by
  refine (reckons_takeNat (by decide)).bind fun number => ?_
  have octet : Bytes.ofNatBE 1 number = [UInt8.ofNat number] := rfl
  rw [octet]
  cases found : Tag.ofByte? (UInt8.ofNat number) with
  | some tag =>
    simp only [found]
    refine (Reckons.pure tag).weaken (fun _ => id) fun _ taken facts => ?_
    obtain ⟨rfl, last⟩ := facts
    rw [← ofByte?_eq_some_iff.mp found]
    exact last
  | none =>
    simp only [found]
    refine ⟨fun _ _ _ _ _ _ ran => (nomatch ran), fun decoder taken _ _ accounts last ran => ?_⟩
    cases ran
    -- The count over all messages is one past the place of the octet.
    exact ⟨taken, taken.length, accounts, last, by rw [accounts.read]⟩

/-- Steps that are repeated account for bytes if one of them does. -/
theorem reckons_repeated {step : DecodeM α} (reckons : Plain start step) (count : Nat)
    (done : List α) : Plain start (repeated step count done) := by
  induction count generalizing done with
  | zero => exact .silent done.reverse
  | succ count ih => exact reckons.bind fun answer => ih (answer :: done)

/-- Where no container may open, its tag is the last byte that was taken. -/
theorem reckons_enter {inner : Option (DecodeM Value)} {read : DecodeM Value → DecodeM α}
    (opened : ∀ taken, known taken →
      ∃ tag ∈ [Tag.list, .array, .map, .object], [tag.toByte] <:+ taken)
    (reckons : ∀ step, inner = some step → Plain start (read step)) :
    Reckons start known (enter inner read) fun _ _ => True := by
  cases inner with
  | some step => exact (reckons step rfl).anywhere
  | none =>
    refine ⟨fun _ _ _ _ _ _ ran => (nomatch ran), fun decoder taken _ _ accounts knows ran => ?_⟩
    cases ran
    refine ⟨taken, taken.length, accounts, ?_⟩
    rw [accounts.sameLimits]
    exact ⟨rfl, rfl, opened taken knows⟩

/-- Items are their count and then one after the other. -/
theorem reckons_takeItems {inner : DecodeM Value} (reckons : Plain start inner) :
    Plain start (takeItems inner) :=
  reckons_takeLength.plain.bind fun count => reckons_repeated reckons count []

/-- Entries are their count and then one after the other, each key before its value. -/
theorem reckons_takeEntries {inner : DecodeM Value} (reckons : Plain start inner) :
    Plain start (takeEntries inner) := by
  have entry : Plain start (do let key ← takeString; return (key, ← inner)) :=
    reckons_takeString.bind fun key => reckons.map fun value => (key, value)
  exact reckons_takeLength.plain.bind fun count => reckons_repeated entry count []

/-- What follows a tag accounts for its bytes, or for the tag where no container may open. -/
theorem reckons_takeContent {inner : Option (DecodeM Value)}
    (reckons : ∀ step, inner = some step → Plain start step) (tag : Tag) :
    Reckons start (fun taken => [tag.toByte] <:+ taken) (takeContent inner tag)
      fun _ _ => True := by
  -- One shape after the other: each is a sequence of steps that were looked at before.
  cases tag with
  | null => exact .silent _
  | false => exact .silent _
  | true => exact .silent _
  | int => exact (reckons_takeNat (by decide)).map fun number => Value.int (Int64.ofNat number)
  | word => exact (reckons_takeNat (by decide)).map fun number => Value.word (UInt64.ofNat number)
  | float =>
    exact (reckons_takeNat (by decide)).map fun number => Value.float ⟨UInt64.ofNat number⟩
  | string => exact (reckons_takeString.map Value.string).anywhere
  | bytes =>
    exact reckons_takeLength.bind fun count =>
      (reckons_take fun _ told => .inr told).map Value.bytes
  | list =>
    exact reckons_enter (fun _ last => ⟨.list, by simp, last⟩) fun step found =>
      (reckons_takeItems (reckons step found)).map Value.list
  | array =>
    exact reckons_enter (fun _ last => ⟨.array, by simp, last⟩) fun step found =>
      reckons_takeString.bind fun elementType =>
        (reckons_takeItems (reckons step found)).map (Value.array elementType)
  | map =>
    exact reckons_enter (fun _ last => ⟨.map, by simp, last⟩) fun step found =>
      (reckons_takeEntries (reckons step found)).map Value.map
  | object =>
    exact reckons_enter (fun _ last => ⟨.object, by simp, last⟩) fun step found =>
      reckons_takeString.bind fun typeName =>
        (reckons_takeEntries (reckons step found)).map (Value.object typeName)

/-- A tag and what follows it account for their bytes. -/
theorem reckons_takeValueWith {inner : Option (DecodeM Value)}
    (reckons : ∀ step, inner = some step → Plain start step) : Plain start (takeValueWith inner) :=
  reckons_takeTag.bind (reckons_takeContent reckons)

/-- A value accounts for its bytes, however deep in it the work ends. -/
theorem reckons_takeValue (room : Nat) : Plain start (takeValue room) := by
  -- Each container that opens takes one off the room.
  induction room with
  | zero => exact reckons_takeValueWith fun _ found => nomatch found
  | succ room ih =>
    refine reckons_takeValueWith fun step found => ?_
    cases found
    exact ih

/-- A message accounts for its bytes from where the decoder stands, also where it is not taken. -/
theorem takeMessage_accounts {decoder : Decoder} (counted : decoder.read ≤ wordMax) :
    ∃ taken count, Accounts decoder.anew taken count (stateAfter (takeMessage decoder)) ∧
      ∀ failure, outcome (takeMessage decoder) = .error failure →
        Explains decoder.anew taken failure := by
  -- Once the ceiling starts anew, a message is its version and a value.
  have plain : Plain decoder.anew (do
      let version := UInt8.ofNat (← takeNat 1)
      if version ≠ wireVersion then
        throw (.unsupportedVersion version)
      takeValue (← get).limits.depth) := by
    refine (reckons_takeNat (by decide)).bind fun number => ?_
    by_cases current : UInt8.ofNat number = wireVersion
    · simp only [current, ne_eq, not_true_eq_false, if_false]
      exact ⟨fun between _ _ _ => (reckons_takeValue _).anywhere.ok between,
        fun between _ _ _ => (reckons_takeValue _).anywhere.error between⟩
    · simp only [current, ne_eq, not_false_eq_true, if_true]
      exact .throw fun _ _ => trivial
  have begun : Accounts decoder.anew [] 0 decoder.anew :=
    ⟨rfl, Source.reaches_zero _, rfl, by simp [Source.skip], rfl, (addCount_zero counted).symm,
      Nat.zero_le _, Nat.le_refl _, .inl rfl⟩
  exact plain.settles begun trivial

/-! Message after message from one source. -/

/-- Where a decoder stands on its source, which it has read from the beginning. -/
structure Standing (origin : Source) (limits : Limits) (decoder : Decoder) : Prop where
  sameLimits : decoder.limits = limits
  place : decoder.source = origin.skip decoder.source.position
  counted : decoder.read ≤ wordMax
  -- The count is ahead of the source only once nothing more comes from it.
  exact : decoder.source.Spent ∨ decoder.read = addCount 0 decoder.source.position

/-- A decoder still stands on its source after a message, whatever came of that. -/
theorem Standing.of_accounts {origin : Source} {limits : Limits} {decoder after : Decoder}
    (standing : Standing origin limits decoder) {taken : Bytes} {count : Nat}
    (accounts : Accounts decoder.anew taken count after) : Standing origin limits after := by
  have moved : after.source = decoder.source.skip taken.length := accounts.moved
  have read : after.read = addCount decoder.read count := accounts.read
  have place := standing.place
  refine ⟨accounts.sameLimits.trans standing.sameLimits, ?_, ?_, ?_⟩
  · rw [moved]
    conv_lhs => rw [place, Source.skip_skip]
    rfl
  · rw [read]
    exact addCount_le_wordMax ..
  · rcases accounts.missing with whole | spent
    · rcases standing.exact with spent | exact
      -- Nothing more is taken from a source that is spent.
      · have nothing := spent.eq_nil accounts.reaches accounts.front
        have same : after.source = decoder.source := by
          rw [moved, nothing]
          simp [Source.skip]
        exact .inl (same ▸ spent)
      · refine .inr ?_
        rw [read, whole, exact, addCount_addCount, moved]
        rfl
    · exact .inl spent

/-- A decoder takes no more than a message may have, and counts no less than it takes. -/
theorem Standing.bounds {origin : Source} {limits : Limits} {decoder after : Decoder}
    (standing : Standing origin limits decoder) {taken : Bytes} {count : Nat}
    (accounts : Accounts decoder.anew taken count after)
    (countable : after.source.position ≤ wordMax) :
    taken.length ≤ limits.messageSize ∧ decoder.read + taken.length ≤ after.read ∧
      after.read ≤ decoder.read + limits.messageSize := by
  have moved : after.source.position = decoder.source.position + taken.length :=
    congrArg Source.position accounts.moved
  have read : after.read = addCount decoder.read count := accounts.read
  have fits : addCount 0 count ≤ decoder.limits.messageSize := accounts.fits
  have covered := accounts.covered
  have counted := standing.counted
  rw [standing.sameLimits] at fits
  unfold addCount at read fits
  refine ⟨by omega, ?_, by omega⟩
  rcases standing.exact with spent | exact
  -- A count that has run ahead of a spent source is not less than itself.
  · have nothing := spent.eq_nil accounts.reaches accounts.front
    rw [nothing, List.length_nil]
    omega
  · unfold addCount at exact
    omega

/-- An octet that was taken stands where the count says, since no byte was left out before it. -/
theorem Standing.offset {origin : Source} {limits : Limits} {decoder after : Decoder}
    (standing : Standing origin limits decoder) {taken : Bytes} {count : Nat} {byte : UInt8}
    (accounts : Accounts decoder.anew taken count after)
    (countable : after.source.position ≤ wordMax) (last : [byte] <:+ taken) :
    addCount decoder.read taken.length = after.source.position := by
  have moved : after.source.position = decoder.source.position + taken.length :=
    congrArg Source.position accounts.moved
  rcases standing.exact with spent | exact
  · rw [spent.eq_nil accounts.reaches accounts.front] at last
    cases List.suffix_nil.mp last
  · rw [exact, addCount_addCount, moved]
    exact zero_addCount (moved ▸ countable)

/-- A decoder after so many attempts to take a message. -/
def afterMessages (attempts : Nat) (decoder : Decoder) : Decoder :=
  -- An attempt that fails does not keep the next one from being made.
  (runEach (List.replicate attempts takeMessage) decoder).2

/-- However many messages were tried, a decoder stands on its source. -/
theorem standing_afterMessages {origin : Source} {limits : Limits} {decoder : Decoder}
    (standing : Standing origin limits decoder) (attempts : Nat) :
    Standing origin limits (afterMessages attempts decoder) := by
  refine Keeps.runEach (fun step member between standing => ?_) standing
  rw [List.eq_of_mem_replicate member]
  obtain ⟨taken, count, accounts, _⟩ := takeMessage_accounts standing.counted
  exact standing.of_accounts accounts

/-- The books of one attempt to take a message, from where the decoder stood in these bytes. -/
structure Accounted (bytes : Bytes) (limits : Limits) (before after : Decoder) (taken : Bytes)
    (outcome : Except Failure Value) : Prop where
  /-- What was taken comes next in the bytes, and what follows it is still to come. -/
  place : bytes.drop before.source.position = taken ++ after.source.rest
  moved : after.source.position = before.source.position + taken.length
  bounded : taken.length ≤ limits.messageSize
  /-- At least what was taken is counted, and no more than a message may have. -/
  counted : before.read + taken.length ≤ after.read
  countedWithin : after.read ≤ before.read + limits.messageSize
  /-- The count is the place in the source, as long as more may come from it. -/
  exact : after.source.rest ≠ [] → after.source.isBroken = false →
    after.read = after.source.position
  /-- The bytes that would have passed the ceiling were not taken. -/
  message : ∀ limit actual, outcome = .error (.limitExceeded .messageSize limit actual) →
    limit = limits.messageSize ∧ ∃ count, Due count taken ∧
      actual = addCount taken.length count ∧ limit < taken.length + count
  /-- What was taken ends with the octets of the length or the count that was refused. -/
  frame : ∀ limit actual, outcome = .error (.limitExceeded .frameSize limit actual) →
    limit = limits.frameSize ∧ limit < actual ∧ Bytes.ofNatBE 4 actual <:+ taken
  /-- What was taken ends with the tag of the container that was refused. -/
  depth : ∀ limit actual, outcome = .error (.limitExceeded .recursionDepth limit actual) →
    limit = limits.depth ∧ actual = limit + 1 ∧
      ∃ tag ∈ [Tag.list, .array, .map, .object], [tag.toByte] <:+ taken
  /-- An octet that is no tag is found where the failure says, and is the last one taken. -/
  unknown : ∀ byte offset, outcome = .error (.malformed (.unknownTag byte offset)) →
    bytes[offset]? = some byte ∧ offset + 1 = after.source.position

/-- The octet at the end of what was taken is the one before the place that was reached. -/
theorem getElem?_of_taken {bytes taken rest : Bytes} {position : Nat} {byte : UInt8}
    (place : bytes.drop position = taken ++ rest) (last : [byte] <:+ taken) :
    bytes[position + taken.length - 1]? = some byte := by
  obtain ⟨front, rfl⟩ := last
  have offset : position + (front ++ [byte]).length - 1 = position + front.length := by
    rw [List.length_append, List.length_singleton]
    omega
  rw [offset, ← List.getElem?_drop, place]
  simp

/--
What a decoder takes of its source and what it counts agree, attempt after attempt.

The source may hold any bytes, give them in pieces of any size, and end or break anywhere; attempts
go on after those that failed.
-/
theorem messages_accounted (bytes : Bytes) (grain : Nat → Option Nat) (failsAt : Option Nat)
    (limits : Limits) (attempts : Nat) :
    let before := afterMessages attempts { source := { rest := bytes, grain, failsAt }, limits }
    let result := takeMessage before
    (stateAfter result).source.position < 2 ^ 64 →
      ∃ taken, Accounted bytes limits before (stateAfter result) taken (outcome result) := by
  intro before result countable
  let origin : Source := { rest := bytes, grain, failsAt }
  have begun : Standing origin limits { source := origin, limits } :=
    ⟨rfl, by simp [Source.skip, origin], Nat.zero_le _, .inr rfl⟩
  have standing : Standing origin limits before := standing_afterMessages begun attempts
  obtain ⟨taken, count, accounts, explains⟩ := takeMessage_accounts standing.counted
  have standingAfter := standing.of_accounts accounts
  have small : (stateAfter result).source.position ≤ wordMax := Nat.le_pred_of_lt countable
  have moved : (stateAfter result).source.position = before.source.position + taken.length :=
    congrArg Source.position accounts.moved
  have place : bytes.drop before.source.position = taken ++ (stateAfter result).source.rest :=
    (congrArg Source.rest standing.place).symm.trans accounts.front
  obtain ⟨bounded, counted, countedWithin⟩ := standing.bounds accounts small
  have sameLimits : before.anew.limits = limits := standing.sameLimits
  refine ⟨taken, place, moved, bounded, counted, countedWithin, ?_, ?_, ?_, ?_, ?_⟩
  · intro more unbroken
    rcases standingAfter.exact with (none | broken) | exact
    · exact absurd none more
    · rw [unbroken] at broken
      cases broken
    · exact exact.trans (zero_addCount small)
  · intro limit actual failed
    obtain ⟨rfl, exceeded, due, told, rfl⟩ := explains _ failed
    rw [sameLimits] at exceeded ⊢
    refine ⟨rfl, due, told, rfl, ?_⟩
    unfold addCount at exceeded
    omega
  · intro limit actual failed
    obtain ⟨rfl, exceeded, last⟩ := explains _ failed
    rw [sameLimits] at exceeded ⊢
    exact ⟨rfl, exceeded, last⟩
  · intro limit actual failed
    obtain ⟨rfl, rfl, opened⟩ := explains _ failed
    rw [sameLimits]
    exact ⟨rfl, rfl, opened⟩
  · intro byte offset failed
    obtain ⟨last, rfl⟩ := explains _ failed
    have offset := standing.offset accounts small last
    have read : before.anew.read = before.read := rfl
    rw [read, offset, moved]
    refine ⟨getElem?_of_taken place last, ?_⟩
    have positive : 0 < taken.length := by
      have length := last.length_le
      rwa [List.length_singleton] at length
    omega

/-- An octet in the second message is no tag, and is found at its place among the bytes of both. -/
theorem messages_accounted_unknown :
    let bytes : Bytes := [1, 0, 1, 99, 7]
    let limits : Limits := { messageSize := 2, frameSize := 1, depth := 0 }
    let before := afterMessages 1
      { source := { rest := bytes, grain := fun _ => some 1, failsAt := none }, limits }
    let result := takeMessage before
    (stateAfter result).source.position < 2 ^ 64 ∧
      outcome result = .error (.malformed (.unknownTag 99 3)) ∧ bytes[3]? = some 99 ∧
        ∃ taken, Accounted bytes limits before (stateAfter result) taken (outcome result) := by
  intro bytes limits before result
  have countable : (stateAfter result).source.position < 2 ^ 64 := by decide +kernel
  have refused : (match outcome result with
      | .ok _ => none
      | .error failure => some failure) = some (.malformed (.unknownTag 99 3)) := by
    decide +kernel
  have failed : outcome result = .error (.malformed (.unknownTag 99 3)) := by
    split at refused
    · cases refused
    · next same => rw [same, Option.some.inj refused]
  obtain ⟨taken, accounted⟩ :=
    messages_accounted bytes (fun _ => some 1) none limits 1 countable
  exact ⟨countable, failed, (accounted.unknown 99 3 failed).1, taken, accounted⟩

end Decoder

end RemoteCall
