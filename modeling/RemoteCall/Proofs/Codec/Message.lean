import RemoteCall.Proofs.Codec.Decoding
import RemoteCall.Proofs.Codec.Encoding

/-! Whole values and messages: what a decoder takes is what the parts of a value spell. -/

namespace RemoteCall

namespace Value

/-- The tag that opens a value. -/
def tag : Value → Tag
  | .null => .null
  -- A truth value has no content, so each of the two has a tag of its own.
  | .bool false => .false
  | .bool true => .true
  | .int _ => .int
  | .word _ => .word
  | .float _ => .float
  | .string _ => .string
  | .bytes _ => .bytes
  | .list _ => .list
  | .array .. => .array
  | .map _ => .map
  | .object .. => .object

/-- A value by the tag that opens it: the flags of a truth value are two cases. -/
@[elab_as_elim]
theorem casesByTag {motive : Value → Prop} (null : motive .null)
    (false : motive (.bool false)) (true : motive (.bool true))
    (int : ∀ number, motive (.int number)) (word : ∀ number, motive (.word number))
    (float : ∀ number, motive (.float number)) (string : ∀ text, motive (.string text))
    (bytes : ∀ data, motive (.bytes data)) (list : ∀ items, motive (.list items))
    (array : ∀ elementType items, motive (.array elementType items))
    (map : ∀ entries, motive (.map entries))
    (object : ∀ typeName fields, motive (.object typeName fields)) (value : Value) :
    motive value := by
  -- Only a truth value has to be told apart further.
  cases value with
  | bool flag => cases flag <;> assumption
  | _ => simp_all only

/-- The parts of a value without its tag, a container being entered first. -/
def content (depth : Nat) : Value → List Part
  -- The tag tells all of these.
  | .null | .bool _ => []
  -- Numbers of all three kinds are eight octets.
  | .int number => [.raw (Bytes.ofNatBE 8 number.toUInt64.toNat)]
  | .word number => [.raw (Bytes.ofNatBE 8 number.toNat)]
  | .float number => [.raw (Bytes.ofNatBE 8 number.bits.toNat)]
  | .string text => Part.ofString text
  | .bytes data => [.length data.length, .raw data]
  -- A container tells how many it holds, and then holds them one level deeper.
  | .list items => .enter depth :: .length items.length :: partsOfItems depth items
  | .array elementType items =>
    .enter depth :: (Part.ofString elementType ++ .length items.length :: partsOfItems depth items)
  | .map entries => .enter depth :: .length entries.length :: partsOfEntries depth entries
  | .object typeName fields =>
    .enter depth :: (Part.ofString typeName ++ .length fields.length :: partsOfEntries depth fields)

/-- The items of a container have the parts of each, in order. -/
theorem partsOfItems_eq (depth : Nat) (items : List Value) :
    partsOfItems depth items = (items.map (parts (depth + 1))).flatten := by
  -- The parts are put together item by item.
  induction items with
  | nil => simp [partsOfItems]
  | cons item items ih => simp [partsOfItems, ih]

/-- The parts of one entry of a container. -/
def partsOfEntry (depth : Nat) (entry : String × Value) : List Part :=
  -- A key is a string like any other, but without a tag.
  Part.ofString entry.1 ++ entry.2.parts (depth + 1)

/-- The entries of a container have the parts of each, in order. -/
theorem partsOfEntries_eq (depth : Nat) (entries : List (String × Value)) :
    partsOfEntries depth entries = (entries.map (partsOfEntry depth)).flatten := by
  -- The parts are put together entry by entry.
  induction entries with
  | nil => simp [partsOfEntries]
  | cons entry entries ih => simp [partsOfEntries, partsOfEntry, ih]

end Value

namespace Decoder

variable {limits : Limits}

/-- The parts of a value are its tag and its content. -/
theorem passes_parts {decoder after : Decoder} (depth : Nat) (value : Value) :
    decoder.Passes (value.parts depth) after ↔
      decoder.Passes (.ofTag value.tag :: value.content depth) after := by
  cases value with
  -- Both truth values are nothing but their tags.
  | bool flag => cases flag <;> simp [Value.parts, Value.tag, Value.content]
  | list | array | map | object =>
    -- An encoder enters a container before it writes the tag.
    simp only [Value.parts, Value.tag, Value.content]
    exact passes_enter_cons
  | _ => simp [Value.parts, Value.tag, Value.content]

/-- A repeated step takes the parts of its answers in order. -/
theorem reads_repeated {α : Type} {step : DecodeM α} {form : α → List Part}
    (reads : Reads limits step fun answer parts => parts = form answer) (count : Nat)
    (done : List α) :
    Reads limits (repeated step count done) fun answers parts =>
      ∃ further, answers = done.reverse ++ further ∧ further.length = count ∧
        parts = (further.map form).flatten := by
  -- Answers are kept in reverse, so the induction carries those that were given already.
  induction count generalizing done with
  -- Nothing is repeated, and the answers so far are the answer.
  | zero =>
    refine (Reads.pure done.reverse).congr fun answers parts => ?_
    constructor
    · intro facts
      obtain ⟨rfl, rfl⟩ := facts
      exact ⟨[], by simp⟩
    · intro facts
      obtain ⟨further, rfl, none, rfl⟩ := facts
      simp [List.length_eq_zero_iff.mp none]
  | succ count ih =>
    -- One more answer is put in front of those that are still to come.
    refine (reads.bind fun answer => ih (answer :: done)).congr fun answers parts => ?_
    constructor
    · intro facts
      obtain ⟨answer, _, _, rfl, ⟨further, rfl, rfl, rfl⟩, rfl⟩ := facts
      exact ⟨answer :: further, by simp⟩
    · intro facts
      -- There is at least one more answer, and the step gives that first.
      obtain ⟨_ | ⟨answer, further⟩, rfl, length, rfl⟩ := facts
      · simp at length
      · refine ⟨answer, _, _, rfl, ⟨further, ?_, by simpa using length, rfl⟩, ?_⟩ <;> simp

/-- Entering a container is one more part, which is refused where no container may open. -/
theorem reads_enter {α : Type} {inner : Option (DecodeM Value)} {read : DecodeM Value → DecodeM α}
    {form : α → List Part → Prop} {depth : Nat}
    (room : ∀ step, inner = some step → depth < limits.depth ∧ Reads limits (read step) form)
    (full : inner = none → limits.depth ≤ depth) :
    Reads limits (enter inner read) fun answer parts =>
      ∃ back, form answer back ∧ parts = .enter depth :: back := by
  intro decoder steady sameLimits answer after
  cases inner with
  -- Where no container may open, the ceiling of depth is reached already.
  | none =>
    constructor
    · simp [enter]
    · intro facts
      obtain ⟨_, ⟨back, _, rfl⟩, passes⟩ := facts
      have shallow := (passes_enter.mp passes).1
      have deep := full rfl
      rw [sameLimits] at shallow
      omega
  -- Otherwise there is room, and the decoder goes on as if nothing had been entered.
  | some step =>
    obtain ⟨shallow, reads⟩ := room step rfl
    refine (reads decoder steady sameLimits answer after).trans ?_
    constructor
    · intro facts
      obtain ⟨back, formed, passes⟩ := facts
      exact ⟨_, ⟨back, formed, rfl⟩, passes_enter.mpr ⟨sameLimits ▸ shallow, passes⟩⟩
    · intro facts
      obtain ⟨_, ⟨back, formed, rfl⟩, passes⟩ := facts
      exact ⟨back, formed, (passes_enter.mp passes).2⟩

section Containers

variable {inner : DecodeM Value} {depth : Nat}
  (reads : Reads limits inner fun value parts => parts = value.parts (depth + 1))

include reads

/-- Items are their count and the parts of each. -/
theorem reads_takeItems : Reads limits (takeItems inner) fun items parts =>
    parts = .length items.length :: Value.partsOfItems depth items := by
  -- As many steps are repeated as the count says, so the count is that of the items.
  refine (reads_takeLength.bind fun count => reads_repeated reads count []).congr
    fun items parts => ?_
  simp only [Value.partsOfItems_eq]
  constructor
  · intro facts
    obtain ⟨_, _, _, rfl, ⟨further, rfl, rfl, rfl⟩, rfl⟩ := facts
    simp
  · intro same
    subst same
    exact ⟨_, _, _, rfl, ⟨items, by simp, rfl, rfl⟩, by simp⟩

/-- Entries are their count and the parts of each, a key before its value. -/
theorem reads_takeEntries : Reads limits (takeEntries inner) fun entries parts =>
    parts = .length entries.length :: Value.partsOfEntries depth entries := by
  -- An entry is two steps, one for the key and one for the value.
  have entry : Reads limits (do let key ← takeString; return (key, ← inner)) fun entry parts =>
      parts = Value.partsOfEntry depth entry := by
    refine (reads_takeString.bind fun key => reads.map fun value => (key, value)).congr
      fun entry parts => ?_
    constructor
    · intro facts
      obtain ⟨key, _, _, rfl, ⟨value, rfl, rfl⟩, rfl⟩ := facts
      rfl
    · intro same
      subst same
      exact ⟨_, _, _, rfl, ⟨_, rfl, rfl⟩, rfl⟩
  refine (reads_takeLength.bind fun count => reads_repeated entry count []).congr
    fun entries parts => ?_
  simp only [Value.partsOfEntries_eq]
  constructor
  · intro facts
    obtain ⟨_, _, _, rfl, ⟨further, rfl, rfl, rfl⟩, rfl⟩ := facts
    simp
  · intro same
    subst same
    exact ⟨_, _, _, rfl, ⟨entries, by simp, rfl, rfl⟩, by simp⟩

end Containers

/-- A machine word is eight octets, which tell all of it. -/
theorem reads_word {α : Type} (wrap : α → Value) (make : Nat → α) (bits : α → UInt64)
    (make_bits : ∀ answer, make (bits answer).toNat = answer)
    (bits_make : ∀ number, number < 2 ^ 64 → (bits (make number)).toNat = number) :
    Reads limits (do return wrap (make (← takeNat 8))) fun value parts =>
      ∃ answer, value = wrap answer ∧ parts = [.raw (Bytes.ofNatBE 8 (bits answer).toNat)] := by
  -- Eight octets give every number below the power, and the word is made of that.
  refine ((reads_takeNat 8).map fun number => wrap (make number)).congr fun value parts => ?_
  constructor
  · intro facts
    obtain ⟨number, rfl, fits, rfl⟩ := facts
    exact ⟨make number, rfl, by rw [bits_make number fits]⟩
  · intro facts
    obtain ⟨answer, rfl, rfl⟩ := facts
    exact ⟨(bits answer).toNat, by rw [make_bits], (bits answer).toNat_lt, rfl⟩

/-- The octets of a signed number tell it. -/
theorem int64_ofNat_toNat (number : Int64) : Int64.ofNat number.toUInt64.toNat = number := by
  simp [Int64.ofNat]

/-- A signed number has every number that eight octets hold for its octets. -/
theorem int64_toNat_ofNat (number : Nat) (fits : number < 2 ^ 64) :
    (Int64.ofNat number).toUInt64.toNat = number := by
  -- The signed reading of a word has the same bits.
  rw [Int64.toUInt64_ofNat', UInt64.toNat_ofNat_of_lt' fits]

section Shapes

variable {inner : Option (DecodeM Value)} {depth : Nat}
  (room : ∀ step, inner = some step → depth < limits.depth ∧
    Reads limits step fun value parts => parts = value.parts (depth + 1))
  (full : inner = none → limits.depth ≤ depth)

include room full

/-- What follows a tag is the content of a value with that tag, if what lies in it may be taken. -/
theorem reads_takeContent (tag : Tag) :
    Reads limits (takeContent inner tag) fun value parts =>
      value.tag = tag ∧ parts = value.content depth := by
  -- One shape after the other: the step, with the form that its own lemma gives it.
  cases tag
  case' null => refine (Reads.pure Value.null).congr fun value parts => ?_
  case' false => refine (Reads.pure (Value.bool false)).congr fun value parts => ?_
  case' true => refine (Reads.pure (Value.bool true)).congr fun value parts => ?_
  case' int =>
    refine (reads_word Value.int Int64.ofNat Int64.toUInt64 int64_ofNat_toNat
      int64_toNat_ofNat).congr fun value parts => ?_
  case' word =>
    refine (reads_word Value.word UInt64.ofNat id (fun _ => UInt64.ofNat_toNat)
      (fun _ => UInt64.toNat_ofNat_of_lt')).congr fun value parts => ?_
  case' float =>
    refine (reads_word Value.float (fun number => ⟨UInt64.ofNat number⟩) Double.bits
      (fun _ => congrArg Double.mk UInt64.ofNat_toNat)
      (fun _ => UInt64.toNat_ofNat_of_lt')).congr fun value parts => ?_
  case' string => refine (reads_takeString.map Value.string).congr fun value parts => ?_
  case' bytes =>
    refine (reads_takeLength.bind fun count => (reads_take count).map Value.bytes).congr
      fun value parts => ?_
  case' list =>
    refine (reads_enter (fun step found => ⟨(room step found).1,
      (reads_takeItems (room step found).2).map Value.list⟩) full).congr fun value parts => ?_
  case' array =>
    refine (reads_enter (fun step found => ⟨(room step found).1,
      reads_takeString.bind fun elementType =>
        (reads_takeItems (room step found).2).map (Value.array elementType)⟩) full).congr
      fun value parts => ?_
  case' map =>
    refine (reads_enter (fun step found => ⟨(room step found).1,
      (reads_takeEntries (room step found).2).map Value.map⟩) full).congr fun value parts => ?_
  case' object =>
    refine (reads_enter (fun step found => ⟨(room step found).1,
      reads_takeString.bind fun typeName =>
        (reads_takeEntries (room step found).2).map (Value.object typeName)⟩) full).congr
      fun value parts => ?_
  -- A value is an answer of the step exactly when it has the tag.
  all_goals cases value using Value.casesByTag <;> simp [Value.tag, Value.content]

/-- A value inside so many containers is its parts, if what lies in it may be taken. -/
theorem reads_takeValueWith :
    Reads limits (takeValueWith inner) fun value parts => parts = value.parts depth := by
  have opened : Reads limits (takeValueWith inner) fun value parts =>
      parts = .ofTag value.tag :: value.content depth := by
    refine (reads_takeTag.bind (reads_takeContent room full)).congr fun value parts => ?_
    constructor
    · intro facts
      obtain ⟨tag, _, _, rfl, ⟨rfl, rfl⟩, rfl⟩ := facts
      rfl
    · intro same
      subst same
      exact ⟨value.tag, _, _, rfl, ⟨rfl, rfl⟩, rfl⟩
  -- A decoder meets the tag first, an encoder the container; both pass the same bytes.
  intro decoder steady sameLimits value after
  rw [opened decoder steady sameLimits value after]
  simp only [exists_eq_left, passes_parts]

end Shapes

/-- A value is its parts, when the room left is for the containers that may still open. -/
theorem reads_takeValue {room depth : Nat} (total : depth + room = limits.depth) :
    Reads limits (takeValue room) fun value parts => parts = value.parts depth := by
  -- Every container that opens takes one off the room and adds one to the depth.
  induction room generalizing depth with
  -- No container may open any more, and the depth is at its ceiling.
  | zero => exact reads_takeValueWith (by simp) fun _ => by omega
  | succ room ih =>
    -- What lies in a container is read with one less room, one level deeper.
    refine reads_takeValueWith (fun step found => ?_) (by simp)
    cases found
    exact ⟨by omega, ih (by omega)⟩

/-- The decoder at the start of a message. -/
def anew (decoder : Decoder) : Decoder :=
  -- The bytes that were read in all are still counted.
  { decoder with messageSize := 0 }

/-- A message is taken exactly when its parts are what the source opens with. -/
theorem takeMessage_eq_ok_iff {decoder after : Decoder} (counted : decoder.read ≤ wordMax)
    {value : Value} :
    takeMessage decoder = .ok value after ↔ decoder.anew.Passes value.messageParts after := by
  -- The count of a message starts at nothing, so it is a word under any ceiling.
  have steady : decoder.anew.Steady := ⟨Nat.zero_le _, Nat.zero_le _, counted⟩
  have octet (number : Nat) : Bytes.ofNatBE 1 number = [UInt8.ofNat number] := rfl
  have depth : 0 + decoder.limits.depth = decoder.limits.depth := Nat.zero_add _
  -- The version is the first part, and the value follows under the ceiling of depth.
  rw [Value.messageParts, passes_cons, takeMessage, run_bind, run_modify]
  change (takeNat 1 >>= _) decoder.anew = _ ↔ _
  rw [run_bind_eq_ok_iff]
  simp only [reads_takeNat 1 decoder.anew steady rfl, octet]
  constructor
  · intro facts
    obtain ⟨number, between, ⟨_, ⟨_, rfl⟩, passes⟩, done⟩ := facts
    -- Any other version is refused before the value is looked at.
    by_cases current : UInt8.ofNat number = wireVersion
    · simp only [current, ne_eq, not_true_eq_false, if_false, run_bind, run_get] at done
      rw [passes.sameLimits] at done
      obtain ⟨_, rfl, rest⟩ :=
        (reads_takeValue depth between passes.steady passes.sameLimits value after).mp done
      exact ⟨between, current ▸ passes, rest⟩
    · simp [current] at done
  · intro facts
    obtain ⟨between, passes, rest⟩ := facts
    -- A message opens with the version that the decoder knows.
    refine ⟨wireVersion.toNat, between,
      ⟨_, ⟨wireVersion.toNat_lt, rfl⟩, by rwa [UInt8.ofNat_toNat]⟩, ?_⟩
    have done : takeValue decoder.anew.limits.depth between = .ok value after :=
      (reads_takeValue depth between passes.steady passes.sameLimits value after).mpr
        ⟨_, rfl, rest⟩
    simpa [passes.sameLimits] using done

end Decoder

end RemoteCall
