import Mathlib.Data.String.Basic
import RemoteCall.Proofs.Codec.Ceilings
import RemoteCall.Proofs.Codec.RoundTrip
import RemoteCall.Proofs.Server.Endpoint

/-! Every packet is answered by a message, whatever is wrong with it or with its response. -/

namespace RemoteCall

namespace Bytes

/-- The octets of joined strings are those of the first and then those of the second. -/
@[simp] theorem ofString_append (first second : String) :
    ofString (first ++ second) = ofString first ++ ofString second := by
  simp [ofString]

/-- A row of digits has one octet for each of them. -/
theorem length_ofString_ofList {digits : List Char} (decimal : ∀ digit ∈ digits, digit.isDigit) :
    (ofString (String.ofList digits)).length = digits.length := by
  change (String.ofList digits).utf8ByteSize = digits.length
  rw [String.utf8ByteSize_ofList]
  induction digits with
  | nil => rfl
  | cons digit digits ih =>
    -- Digits are among the characters that a single octet is enough for.
    have narrow : digit.utf8Size = 1 := by
      have isDigit := decimal digit List.mem_cons_self
      rw [Char.utf8Size_eq_one_iff]
      simp only [Char.isDigit, Bool.and_eq_true, decide_eq_true_eq] at isDigit
      exact UInt32.le_trans isDigit.2 (by decide)
    have others := ih fun other member => decimal other (List.mem_cons_of_mem _ member)
    simp [others, narrow]

/-- A number that a word holds is written with no more than twenty octets. -/
theorem length_ofString_toString_le {number : Nat} (word : number < 2 ^ 64) :
    (ofString (toString number)).length ≤ 20 := by
  rw [Nat.toString_eq_ofList_toDigits,
    length_ofString_ofList fun digit => Nat.isDigit_of_mem_toDigits (by decide) (by decide)]
  exact (Nat.length_toDigits_le_iff (by decide) (by decide)).mpr
    (Nat.lt_of_lt_of_le word (by decide))

end Bytes

namespace Failure

/-- The kind of a failure has a short name. -/
theorem length_kind_le (failure : Failure) : (Bytes.ofString failure.kind).length ≤ 20 := by
  cases failure <;> simp only [kind] <;> decide

/-- The text of an exceeded ceiling is short, as it only tells numbers that words hold. -/
theorem length_message_limitExceeded_le (ceiling : Ceiling) {limit actual : Nat}
    (exceeded : limit < actual) (word : actual < 2 ^ 64) :
    (Bytes.ofString (Failure.limitExceeded ceiling limit actual).message).length ≤ 70 := by
  have named : (Bytes.ofString ceiling.name).length ≤ 16 := by
    cases ceiling <;> decide
  have told := Bytes.length_ofString_toString_le word
  have allowed := Bytes.length_ofString_toString_le (Nat.lt_trans exceeded word)
  have exceeded : (Bytes.ofString " exceeded: ").length = 11 := rfl
  have than : (Bytes.ofString " > ").length = 3 := rfl
  have text : (Failure.limitExceeded ceiling limit actual).message =
      ceiling.name ++ " exceeded: " ++ toString actual ++ " > " ++ toString limit := rfl
  simp only [text, Bytes.ofString_append, List.length_append]
  omega

end Failure

namespace Endpoint

/-- The names that occur wherever a failure is told are short. -/
theorem length_names : (Bytes.ofString "wirecall.ServerErrorResponse").length = 28 ∧
    (Bytes.ofString "message").length = 7 ∧ (Bytes.ofString "error_type").length = 10 :=
  ⟨rfl, rfl, rfl⟩

/-- What tells of a failure takes up its text and its kind, and little more. -/
theorem length_errorValue (failure : Failure) :
    (errorValue failure).wireImage.length =
      73 + (Bytes.ofString failure.message).length + (Bytes.ofString failure.kind).length := by
  obtain ⟨typeName, first, second⟩ := length_names
  -- The value is an object with two fields, each of which holds a string.
  have shape : errorValue failure = .object "wirecall.ServerErrorResponse"
      [("message", .string failure.message), ("error_type", .string failure.kind)] := rfl
  simp only [shape, Value.wireImage, Value.wire, Value.wireOfEntries, Value.wireOfString,
    List.length_cons, List.length_append, List.length_nil, Bytes.length_ofNatBE, typeName, first,
    second]
  omega

/-- What tells of a failure with a short text is itself far from any sensible ceiling. -/
theorem errorValue_within {failure : Failure} {limits : Limits}
    (deep : 1 ≤ limits.depth) (framed : 128 ≤ limits.frameSize) (roomy : 256 ≤ limits.messageSize)
    (short : (Bytes.ofString failure.message).length ≤ 128) :
    (errorValue failure).Within limits := by
  have kind := failure.length_kind_le
  have size := length_errorValue failure
  refine ⟨by omega, fun count member => ?_, deep⟩
  -- There are five strings, of which only the text and the kind depend on the failure.
  obtain ⟨typeName, first, second⟩ := length_names
  have among : count ∈ [28, 2, 7, (Bytes.ofString failure.message).length, 10,
      (Bytes.ofString failure.kind).length] := by
    rw [← typeName, ← first, ← second]
    exact member
  have bounded : count ≤ 128 := by
    simp only [List.mem_cons, List.not_mem_nil, or_false] at among
    omega
  omega

/-- What is due for a packet: the response of the dispatcher, or what tells of a failure. -/
def due : EStateM.Result Failure Trace Value → Value
  | .ok response _ => response
  | .error failure _ => errorValue failure

/-- What an answer to a packet may tell. -/
inductive Tells (endpoint : Endpoint) (packet : Packet) (trace : Trace) : Value → Prop where
  /-- The request in the packet was executed, and the response respects the ceilings. -/
  | response {payload body : Bytes} {request response : Value} {after : Trace}
      (reached : packet.path = endpoint.path)
      (opened : packet.payload endpoint.limits endpoint.decoders = .ok payload)
      (decoded : decode payload endpoint.limits = .ok request)
      (executed : endpoint.dispatcher.execute request trace = .ok response after)
      (encoded : encode response endpoint.limits = .ok body) :
      Tells endpoint packet trace response
  /-- The packet could not be processed, and its failure can be told. -/
  | failure {failure : Failure} {body : Bytes} {after : Trace}
      (failed : endpoint.process packet trace = .error failure after)
      (encoded : encode (errorValue failure) endpoint.limits = .ok body) :
      Tells endpoint packet trace
        (Message.toValue ({ message := failure.message, errorType := failure.kind } :
          ServerErrorResponse))
  /-- What is due passes a ceiling, which is told instead. -/
  | ceiling {ceiling : Ceiling} {limit actual : Nat} (exceeded : limit < actual)
      (refused : encode (due (endpoint.process packet trace)) endpoint.limits =
        .error (.limitExceeded ceiling limit actual)) :
      Tells endpoint packet trace (errorValue (.limitExceeded ceiling limit actual))

variable {endpoint : Endpoint} {packet : Packet} {trace : Trace}

/-- The answer to a packet is made of what is due. -/
theorem handle_eq_due (endpoint : Endpoint) (packet : Packet) (trace : Trace) :
    (endpoint.handle packet trace).1 =
      { path := "", body := endpoint.responseBody (due (endpoint.process packet trace)) } := by
  unfold handle
  cases endpoint.process packet trace with
  | ok response after => rfl
  | error failure after => rfl

/-- A packet is processed to a response by opening it and executing what is in it. -/
theorem exists_request_of_process {response : Value} {after : Trace}
    (processed : endpoint.process packet trace = .ok response after) :
    ∃ payload request, packet.path = endpoint.path ∧
      packet.payload endpoint.limits endpoint.decoders = .ok payload ∧
        decode payload endpoint.limits = .ok request ∧
          endpoint.dispatcher.execute request trace = .ok response after := by
  -- Each of the three checks before the dispatcher would have failed the whole.
  by_cases reached : packet.path = endpoint.path
  · cases opened : packet.payload endpoint.limits endpoint.decoders with
    | error failure => simp [process, reached, opened] at processed
    | ok payload =>
      cases decoded : decode payload endpoint.limits with
      | error failure => simp [process, reached, opened, decoded] at processed
      | ok request =>
        exact ⟨payload, request, reached, rfl, decoded,
          (endpoint.process_of_request reached opened decoded trace).symm.trans processed⟩
  · simp [process, reached] at processed

/-- What is due is told if it can be encoded. -/
theorem tells_due {body : Bytes}
    (encoded : encode (due (endpoint.process packet trace)) endpoint.limits = .ok body) :
    endpoint.Tells packet trace (due (endpoint.process packet trace)) := by
  cases processed : endpoint.process packet trace with
  | ok response after =>
    rw [processed] at encoded
    obtain ⟨payload, request, reached, opened, decoded, executed⟩ :=
      exists_request_of_process processed
    exact .response reached opened decoded executed encoded
  | error failure after =>
    rw [processed] at encoded
    exact .failure processed encoded

/-- An answer tells one thing only. -/
theorem Tells.eq {told other : Value} (tells : endpoint.Tells packet trace told)
    (tellsToo : endpoint.Tells packet trace other) : other = told := by
  -- What can be encoded is due, and a ceiling is told only if what is due cannot be encoded.
  have settled {value : Value} (tells : endpoint.Tells packet trace value) :
      (∃ body, encode (due (endpoint.process packet trace)) endpoint.limits = .ok body ∧
        value = due (endpoint.process packet trace)) ∨
      ∃ failure, encode (due (endpoint.process packet trace)) endpoint.limits = .error failure ∧
        value = errorValue failure := by
    cases tells with
    | response reached opened decoded executed encoded =>
      have processed := (endpoint.process_of_request reached opened decoded trace).trans executed
      rw [processed]
      exact .inl ⟨_, encoded, rfl⟩
    | failure failed encoded =>
      rw [failed]
      exact .inl ⟨_, encoded, rfl⟩
    | ceiling _ refused => exact .inr ⟨_, refused, rfl⟩
  rcases settled tells with ⟨_, encoded, rfl⟩ | ⟨_, refused, rfl⟩
  · rcases settled tellsToo with ⟨_, _, rfl⟩ | ⟨_, refused, _⟩
    · rfl
    · cases encoded.symm.trans refused
  · rcases settled tellsToo with ⟨_, encoded, _⟩ | ⟨_, refusedToo, rfl⟩
    · cases encoded.symm.trans refused
    · cases refused.symm.trans refusedToo
      rfl

/-- A response that passes a ceiling is answered by that, which can always be told. -/
theorem responseBody_of_refused {response : Value} {failure : Failure}
    (deep : 1 ≤ endpoint.limits.depth) (framed : 128 ≤ endpoint.limits.frameSize)
    (roomy : 256 ≤ endpoint.limits.messageSize) (small : response.wireImage.length < 2 ^ 64)
    (refused : encode response endpoint.limits = .error failure) :
    (∃ ceiling limit actual, failure = .limitExceeded ceiling limit actual ∧ limit < actual) ∧
      encode (errorValue failure) endpoint.limits = .ok (endpoint.responseBody response) ∧
        (errorValue failure).wireImage.length ≤ wordMax := by
  obtain ⟨front, part, back, ceiling, limit, actual, spelled, rfl, kept⟩ := encode_eq_error refused
  have exceeds := Value.exceeds_of_refused spelled kept
  -- The numbers in the text are no greater than the message, so the text is short.
  have word := Nat.lt_of_le_of_lt exceeds.actual_le small
  have short := Failure.length_message_limitExceeded_le ceiling exceeds.limit_lt word
  have countable :
      (errorValue (.limitExceeded ceiling limit actual)).wireImage.length ≤ wordMax := by
    have kind := (Failure.limitExceeded ceiling limit actual).length_kind_le
    have size := length_errorValue (.limitExceeded ceiling limit actual)
    unfold wordMax
    omega
  have encoded := (encode_eq_ok_iff_within countable).mpr
    ⟨errorValue_within deep framed roomy (Nat.le_trans short (by decide)), rfl⟩
  refine ⟨⟨ceiling, limit, actual, rfl, exceeds.limit_lt⟩, ?_, countable⟩
  rw [encoded]
  simp only [responseBody, refused, encoded]

/--
Every packet is answered by one message that can be read.

It is the response of the dispatcher, or tells of the failure to process the packet, or of the
ceiling that keeps either of them from being told; and it is the only one of these.
-/
theorem handle_answered (endpoint : Endpoint) (packet : Packet) (trace : Trace)
    (deep : 1 ≤ endpoint.limits.depth) (framed : 128 ≤ endpoint.limits.frameSize)
    (roomy : 256 ≤ endpoint.limits.messageSize)
    (small : (due (endpoint.process packet trace)).wireImage.length < 2 ^ 64) :
    (endpoint.handle packet trace).1.compression = none ∧
      (endpoint.handle packet trace).1.body ≠ [] ∧
        ∃ told, decode (endpoint.handle packet trace).1.body endpoint.limits = .ok told ∧
          endpoint.Tells packet trace told ∧
            ∀ other, endpoint.Tells packet trace other → other = told := by
  rw [handle_eq_due]
  -- What is told respects the ceilings, so that it has the form of the grammar and reads back.
  obtain ⟨told, tells, encoded, countable⟩ : ∃ told, endpoint.Tells packet trace told ∧
      encode told endpoint.limits =
        .ok (endpoint.responseBody (due (endpoint.process packet trace))) ∧
      told.wireImage.length ≤ wordMax := by
    cases encoded : encode (due (endpoint.process packet trace)) endpoint.limits with
    | ok body =>
      refine ⟨_, tells_due encoded, ?_, Nat.le_pred_of_lt small⟩
      simp only [responseBody, encoded]
    | error failure =>
      obtain ⟨⟨ceiling, limit, actual, rfl, exceeded⟩, told, countable⟩ :=
        responseBody_of_refused deep framed roomy small encoded
      exact ⟨_, .ceiling exceeded encoded, told, countable⟩
  obtain ⟨_, image⟩ := (encode_eq_ok_iff_within countable).mp encoded
  have decoded := decode_eq_ok_iff.mpr ⟨encoded, image ▸ countable⟩
  exact ⟨rfl, by simp [image, Value.wireImage], told, decoded, tells, fun _ => tells.eq⟩

/-- A path that is too long to be told is answered by the ceiling that it passes. -/
theorem handle_answered_stray :
    let limits : Limits := { messageSize := 256, frameSize := 128, depth := 1 }
    let endpoint : Endpoint := { dispatcher := ⟨⟨[]⟩, "server"⟩, path := "/invoke", limits }
    let packet : Packet := { path := String.ofList (List.replicate 200 'x'), body := [1, 0] }
    (due (endpoint.process packet [])).wireImage.length < 2 ^ 64 ∧
      (endpoint.handle packet []).1.compression = none ∧ (endpoint.handle packet []).1.body ≠ [] ∧
        decode (endpoint.handle packet []).1.body limits =
          .ok (errorValue (.limitExceeded .frameSize 128 241)) := by
  intro limits endpoint packet
  have small : (due (endpoint.process packet [])).wireImage.length < 2 ^ 64 := by decide +kernel
  have refused : encode (due (endpoint.process packet [])) endpoint.limits =
      .error (.limitExceeded .frameSize 128 241) := by
    decide +kernel
  obtain ⟨plain, present, told, decoded, tells, only⟩ :=
    handle_answered endpoint packet [] (by decide) (by decide) (by decide) small
  -- Whatever is told is told only once, and the ceiling is.
  have same := only _ (.ceiling (by decide) refused)
  exact ⟨small, plain, present, same ▸ decoded⟩

end Endpoint

end RemoteCall
