import RemoteCall.Proofs.Codec.Ceilings
import RemoteCall.Proofs.Codec.Message

/-! What becomes of a message under lower ceilings: the same, or a ceiling is exceeded. -/

namespace RemoteCall

/-- Each ceiling is at most as high as the other's. -/
structure Limits.Below (lower higher : Limits) : Prop where
  message : lower.messageSize ≤ higher.messageSize
  frame : lower.frameSize ≤ higher.frameSize
  depth : lower.depth ≤ higher.depth

/-- The first outcome is the second one, unless the first tells of a ceiling. -/
def Narrows {α : Type} (narrow wide : Except Failure α) : Prop :=
  -- A failure that is shared is shared with all that it tells.
  narrow = wide ∨ ∃ ceiling limit actual, narrow = .error (.limitExceeded ceiling limit actual)

namespace Narrows

variable {α : Type} {narrow wide : Except Failure α}

/-- An answer under lower ceilings is the answer under higher ones. -/
theorem eq_ok {answer : α} (narrows : Narrows narrow wide) (found : narrow = .ok answer) :
    wide = .ok answer := by
  rcases narrows with same | ⟨_, _, _, stopped⟩
  · exact same.symm.trans found
  · rw [stopped] at found
    cases found

end Narrows

variable {lower higher : Limits}

/-! Two decoders that go along together until a ceiling stops the first. -/

namespace Decoder

variable {α β : Type}

/-- A decoder with other ceilings. -/
def under (limits : Limits) (decoder : Decoder) : Decoder := { decoder with limits }

/-- Two decoders come to the same at the same place, unless a ceiling stopped the first. -/
inductive Lockstep (lower higher : Limits) :
    EStateM.Result Failure Decoder α → EStateM.Result Failure Decoder α → Prop where
  | stopped {ceiling : Ceiling} {limit actual : Nat} {after : Decoder}
      {other : EStateM.Result Failure Decoder α} :
      Lockstep lower higher (.error (.limitExceeded ceiling limit actual) after) other
  | answered (answer : α) (decoder : Decoder) :
      Lockstep lower higher (.ok answer (decoder.under lower)) (.ok answer (decoder.under higher))
  | failed (failure : Failure) (decoder : Decoder) :
      Lockstep lower higher (.error failure (decoder.under lower))
        (.error failure (decoder.under higher))

/-- Two steps keep decoders together that differ in their ceilings only. -/
def Together (lower higher : Limits) (step other : DecodeM α) : Prop :=
  ∀ decoder : Decoder,
    Lockstep lower higher (step (decoder.under lower)) (other (decoder.under higher))

namespace Together

/-- An answer at hand keeps decoders together. -/
theorem pure (answer : α) : Together lower higher (Pure.pure answer) (Pure.pure answer) :=
  fun decoder => .answered answer decoder

/-- A failure at hand keeps decoders together. -/
theorem throw (failure : Failure) :
    Together lower higher (MonadExcept.throw failure : DecodeM α) (MonadExcept.throw failure) :=
  fun decoder => .failed failure decoder

/-- Steps in sequence keep decoders together if each of them does. -/
theorem bind {step other : DecodeM α} {next otherNext : α → DecodeM β}
    (together : Together lower higher step other)
    (togetherNext : ∀ answer, Together lower higher (next answer) (otherNext answer)) :
    Together lower higher (step >>= next) (other >>= otherNext) := by
  intro decoder
  have first := together decoder
  rw [run_bind, run_bind]
  -- Wherever the first steps leave the decoders, the next ones find them there.
  generalize step (decoder.under lower) = ran at first ⊢
  generalize other (decoder.under higher) = otherRan at first ⊢
  cases first with
  | stopped => exact .stopped
  | answered answer between => exact togetherNext answer between
  | failed failure after => exact .failed failure after

/-- What is made of an answer keeps decoders together. -/
theorem map {step other : DecodeM α} (together : Together lower higher step other)
    (make : α → β) :
    Together lower higher (do return make (← step)) (do return make (← other)) :=
  together.bind fun answer => pure (make answer)

end Together

/-- Steps that are repeated keep decoders together if one of them does. -/
theorem together_repeated {step other : DecodeM α} (together : Together lower higher step other)
    (count : Nat) (done : List α) :
    Together lower higher (repeated step count done) (repeated other count done) := by
  -- The answers so far are the same, and grow with each step.
  induction count generalizing done with
  | zero => exact .pure done.reverse
  | succ count ih => exact together.bind fun answer => ih (answer :: done)

/-- Two readers of what a container holds; the first may be missing where no container may open. -/
inductive Inside (lower higher : Limits) :
    Option (DecodeM Value) → Option (DecodeM Value) → Prop where
  | full {other : Option (DecodeM Value)} : Inside lower higher none other
  | room {step other : DecodeM Value} (together : Together lower higher step other) :
      Inside lower higher (some step) (some other)

/-- A container is entered alike, if the lower ceiling lets it open. -/
theorem together_enter {inner otherInner : Option (DecodeM Value)}
    (inside : Inside lower higher inner otherInner) {read : DecodeM Value → DecodeM α}
    (together : ∀ step other, Together lower higher step other →
      Together lower higher (read step) (read other)) :
    Together lower higher (enter inner read) (enter otherInner read) := by
  cases inside with
  -- Where there is no room under the lower ceiling, entering is refused by its name.
  | full => exact fun decoder => .stopped
  | room within => exact together _ _ within

section

variable (below : lower.Below higher)

include below

/-- Bytes are taken alike, if the lower ceiling lets them be taken. -/
theorem together_take (count : Nat) : Together lower higher (take count) (take count) := by
  intro decoder
  simp only [take]
  -- The ceiling is asked first, and the lower one refuses more.
  by_cases exceeded :
      (decoder.under lower).limits.messageSize < addCount (decoder.under lower).messageSize count
  · rw [if_pos exceeded]
    exact .stopped
  · have fits : ¬ (decoder.under higher).limits.messageSize <
        addCount (decoder.under higher).messageSize count :=
      Nat.not_lt.mpr (Nat.le_trans (Nat.not_lt.mp exceeded) below.message)
    rw [if_neg exceeded, if_neg fits]
    -- The source knows nothing of ceilings.
    let counted : Decoder := { decoder with
      messageSize := addCount decoder.messageSize count
      read := addCount decoder.read count }
    simp only [under]
    rcases Source.take count decoder.source with ⟨bytes, source⟩ | ⟨_ | cause, source⟩
    · exact .answered bytes { counted with source }
    · exact .failed _ { counted with source }
    · exact .failed _ { counted with source }

/-- Numbers are taken alike. -/
theorem together_takeNat (width : Nat) :
    Together lower higher (takeNat width) (takeNat width) :=
  (together_take below width).map Bytes.toNatBE

/-- Lengths are taken alike, if the lower ceiling lets them pass. -/
theorem together_takeLength : Together lower higher takeLength takeLength := by
  -- The octets are taken in any case, and the ceiling is asked afterwards.
  refine (together_takeNat below 4).bind fun length decoder => ?_
  simp only [run_bind, run_get, under]
  by_cases exceeded : lower.frameSize < length
  · rw [if_pos exceeded]
    exact .stopped
  · have fits := Nat.le_trans (Nat.not_lt.mp exceeded) below.frame
    rw [if_neg exceeded, if_neg (Nat.not_lt.mpr fits)]
    exact .answered length decoder

/-- Octets spell the same string, or the same fault is found in them. -/
theorem together_takeText (length : Nat) :
    Together lower higher (takeText length) (takeText length) := by
  refine (together_take below length).bind fun bytes => ?_
  -- The same octets were taken on both sides.
  cases Bytes.toString? bytes with
  | ok text => exact .pure text
  | error fault => exact .throw _

/-- Strings are taken alike. -/
theorem together_takeString : Together lower higher takeString takeString :=
  (together_takeLength below).bind (together_takeText below)

/-- Tags are taken alike, and an unknown one is found at the same place. -/
theorem together_takeTag : Together lower higher takeTag takeTag := by
  refine (together_takeNat below 1).bind fun number => ?_
  cases known : Tag.ofByte? (UInt8.ofNat number) with
  | some tag =>
    simp only [known]
    exact .pure tag
  | none =>
    -- Where the tag was found is told by a count that knows nothing of ceilings.
    simp only [known]
    exact fun decoder => .failed _ decoder

/-- Items are taken alike. -/
theorem together_takeItems {inner other : DecodeM Value}
    (together : Together lower higher inner other) :
    Together lower higher (takeItems inner) (takeItems other) :=
  (together_takeLength below).bind fun count => together_repeated together count []

/-- Entries are taken alike. -/
theorem together_takeEntries {inner other : DecodeM Value}
    (together : Together lower higher inner other) :
    Together lower higher (takeEntries inner) (takeEntries other) := by
  have entry := (together_takeString below).bind fun key => together.map fun value => (key, value)
  exact (together_takeLength below).bind fun count => together_repeated entry count []

/-- What follows a tag is taken alike. -/
theorem together_takeContent {inner other : Option (DecodeM Value)}
    (inside : Inside lower higher inner other) (tag : Tag) :
    Together lower higher (takeContent inner tag) (takeContent other tag) := by
  -- One shape after the other: each is a sequence of steps that were looked at before.
  cases tag with
  | null => exact .pure _
  | false => exact .pure _
  | true => exact .pure _
  | int => exact (together_takeNat below 8).map fun number => Value.int (Int64.ofNat number)
  | word => exact (together_takeNat below 8).map fun number => Value.word (UInt64.ofNat number)
  | float => exact (together_takeNat below 8).map fun number => Value.float ⟨UInt64.ofNat number⟩
  | string => exact (together_takeString below).map Value.string
  | bytes =>
    exact (together_takeLength below).bind fun count => (together_take below count).map Value.bytes
  | list =>
    exact together_enter inside fun _ _ together =>
      (together_takeItems below together).map Value.list
  | array =>
    exact together_enter inside fun _ _ together =>
      (together_takeString below).bind fun elementType =>
        (together_takeItems below together).map (Value.array elementType)
  | map =>
    exact together_enter inside fun _ _ together =>
      (together_takeEntries below together).map Value.map
  | object =>
    exact together_enter inside fun _ _ together =>
      (together_takeString below).bind fun typeName =>
        (together_takeEntries below together).map (Value.object typeName)

/-- A tag and what follows it are taken alike. -/
theorem together_takeValueWith {inner other : Option (DecodeM Value)}
    (inside : Inside lower higher inner other) :
    Together lower higher (takeValueWith inner) (takeValueWith other) :=
  (together_takeTag below).bind (together_takeContent below inside)

/-- Values are taken alike, if there is no more room for containers under the lower ceiling. -/
theorem together_takeValue {room more : Nat} (le : room ≤ more) :
    Together lower higher (takeValue room) (takeValue more) := by
  -- Each container that opens takes one off both rooms, and the smaller one is used up first.
  induction room generalizing more with
  | zero =>
    cases more with
    | zero => exact together_takeValueWith below .full
    | succ more => exact together_takeValueWith below .full
  | succ room ih =>
    cases more with
    | zero => exact absurd le (Nat.not_succ_le_zero room)
    | succ more =>
      have within := ih (Nat.le_of_succ_le_succ le)
      exact together_takeValueWith below (.room within)

/-- Messages are taken alike. -/
theorem together_takeMessage : Together lower higher takeMessage takeMessage := by
  have anew : Together lower higher (modify fun decoder => { decoder with messageSize := 0 })
      (modify fun decoder => { decoder with messageSize := 0 }) :=
    fun decoder => .answered _ decoder.anew
  -- The version is looked at before the value, whatever the ceilings.
  refine anew.bind fun _ => (together_takeNat below 1).bind fun number => ?_
  by_cases current : UInt8.ofNat number = wireVersion
  · simp only [current, ne_eq, not_true_eq_false, if_false]
    -- The room for containers is the ceiling of depth, in which the decoders differ.
    intro decoder
    exact together_takeValue below below.depth decoder
  · simp only [current, ne_eq, not_false_eq_true, if_true]
    exact .throw _

end

end Decoder

/-- A message is decoded under lower ceilings as under higher ones, unless it exceeds one. -/
theorem decode_narrows (below : lower.Below higher) (bytes : Bytes) :
    Narrows (decode bytes lower) (decode bytes higher) := by
  simp only [decode]
  by_cases exceeded : lower.messageSize < bytes.length
  · rw [if_pos exceeded]
    exact .inr ⟨_, _, _, rfl⟩
  · have fits := Nat.le_trans (Nat.not_lt.mp exceeded) below.message
    rw [if_neg exceeded, if_neg (Nat.not_lt.mpr fits)]
    -- Bytes that are short enough for both ceilings are decoded from start to end.
    have together : Decoder.Lockstep lower higher
        (Decoder.takeMessage { source := { rest := bytes }, limits := lower })
        (Decoder.takeMessage { source := { rest := bytes }, limits := higher }) :=
      Decoder.together_takeMessage below { source := { rest := bytes }, limits := lower }
    generalize Decoder.takeMessage { source := { rest := bytes }, limits := lower } = ran at *
    generalize Decoder.takeMessage { source := { rest := bytes }, limits := higher } = other at *
    -- Bytes are left over by both or by none, since both have read as many.
    cases together with
    | stopped => exact .inr ⟨_, _, _, rfl⟩
    | answered value decoder => exact .inl rfl
    | failed failure decoder => exact .inl rfl

/-- What lower ceilings admit is admitted by higher ones. -/
theorem Limits.Admits.mono (below : lower.Below higher) {size : Nat} {parts : List Part}
    (admitted : lower.Admits size parts) : higher.Admits size parts where
  within part member := by
    have within := admitted.within part member
    -- Each kind of part has a ceiling of its own, or none.
    cases part with
    | enter depth => exact Nat.lt_of_lt_of_le within below.depth
    | raw data => trivial
    | length count => exact ⟨Nat.le_trans within.1 below.frame, within.2⟩
  bounded := Nat.le_trans admitted.bounded below.message

/-- A value is encoded under lower ceilings as under higher ones, unless it exceeds one. -/
theorem encode_narrows (below : lower.Below higher) (value : Value) :
    Narrows (encode value lower) (encode value higher) := by
  cases encoded : encode value lower with
  | ok bytes =>
    obtain ⟨admitted, same⟩ := encode_eq_ok_iff.mp encoded
    exact .inl (encode_eq_ok_iff.mpr ⟨admitted.mono below, same⟩).symm
  | error failure =>
    -- An encoding cannot fail in any other way.
    obtain ⟨_, _, _, ceiling, limit, actual, _, rfl, _⟩ := encode_eq_error encoded
    exact .inr ⟨ceiling, limit, actual, rfl⟩

end RemoteCall
