import RemoteCall.Proofs.Client.Invoker
import RemoteCall.Proofs.Codec.Narrowing
import RemoteCall.Proofs.Outbound.Undelivered
import RemoteCall.Proofs.Server.Answering
import RemoteCall.Proofs.Server.Gating

/-! What a request comes to for its caller, wherever the ceilings let it and its answer through. -/

namespace RemoteCall

/-- What happened besides counting. -/
def Trace.uncounted (trace : Trace) : List Event := trace.filter fun event => !event.isTally

namespace Trace

/-- Parts of a trace are looked through one by one. -/
@[simp] theorem uncounted_append (trace more : Trace) :
    uncounted (trace ++ more) = trace.uncounted ++ more.uncounted := by
  simp [uncounted]

/-- Counting is nothing else. -/
@[simp] theorem uncounted_tallies (tallies : List Tally) :
    uncounted (tallies.map .counted) = [] := by
  simp [uncounted, List.filter_eq_nil_iff, Event.isTally]

/-- Counting around an invocation hides nothing of it. -/
@[simp] theorem uncounted_around (course : List Event) (tallies : List Tally) :
    uncounted (Dispatcher.around course tallies) = uncounted course := by
  have apart : Dispatcher.around course tallies =
      [Tally.dispatched].map .counted ++ (course ++ tallies.map .counted) := rfl
  rw [apart, uncounted_append, uncounted_append, uncounted_tallies, uncounted_tallies,
    List.nil_append, List.append_nil]

end Trace

/-- The failure of a call whose handling failed: the kind and the text of that. -/
def Failure.remote (failure : Failure) : Failure :=
  .remoteExecution failure.kind failure.message

namespace Entity

variable {entity : Entity} {path : String} {limits : Limits} {encoded : Bytes} {store : Store}

/-- A request that was sent had a body, a short path, and a length that could be told if need be. -/
theorem exists_body_of_sendRequest (encodes : encode entity.payload entity.limits = .ok encoded)
    (sent : sendRequest path entity limits ({} : Store) = .ok () store) :
    ∃ body, entity.body = .ok body ∧ (Bytes.ofString path).length < 256 ^ 2 ∧
      (entity.isStreaming = false → body.length < 256 ^ 4) := by
  cases streams : entity.isStreaming with
  | true =>
    -- A body that is streamed is not compressed, and so it is the encoding.
    have plain : entity.compression = none := by
      simp only [isStreaming, Bool.and_eq_true, Option.isNone_iff_eq_none] at streams
      exact streams.2
    have whole : entity.body = .ok encoded :=
      body_eq_ok_iff.mpr ⟨encoded, encodes, by simp [plain]⟩
    rw [sendRequest_of_streaming streams] at sent
    obtain ⟨_, _, header, _⟩ := run_bind_eq_ok_iff.mp sent
    exact ⟨encoded, whole, path_short_of_sendHeader header, fun plain => Bool.noConfusion plain⟩
  | false =>
    cases whole : entity.body with
    | error failure =>
      rw [sendRequest_of_unencoded streams whole] at sent
      cases sent
    | ok body =>
      cases counted : bodyLength body.length with
      | error failure =>
        simp only [sendRequest, contentLength_of_body whole, streams, Bool.false_eq_true,
          if_false, run_bind, run_ofExcept_ok, counted, run_ofExcept_error] at sent
        cases sent
      | ok field =>
        rw [sendRequest_of_plain streams whole counted] at sent
        obtain ⟨_, _, header, _⟩ := run_bind_eq_ok_iff.mp sent
        exact ⟨body, rfl, path_short_of_sendHeader header,
          fun _ => (bodyLength_eq_ok_iff.mp counted).1⟩

/-- What is received of a request that was sent is its body. -/
theorem eq_of_received (encodes : encode entity.payload entity.limits = .ok encoded)
    (framed : 0 < limits.frameSize)
    (sent : sendRequest path entity limits ({} : Store) = .ok () store) {packet : Packet}
    (received : Transport.received store.toBytes limits = .ok packet) :
    ∃ body, entity.body = .ok body ∧
      packet = { path, compression := entity.compression, body } := by
  obtain ⟨body, whole, short, counted⟩ := exists_body_of_sendRequest encodes sent
  refine ⟨body, whole, ?_⟩
  -- Only the ceiling of chunks matters to the sender, so that of messages may be as high as needed.
  let raised : Limits := { limits with messageSize := max limits.messageSize body.length }
  have framedRaised : entity.isStreaming = true → 0 < raised.frameSize := fun _ => framed
  obtain ⟨after, frame, sentToo, held, within, carried⟩ :=
    sendRequest_of_body Store.lossless (show Store.Holds {} [] from ⟨rfl, rfl⟩) short framedRaised
      (Nat.le_max_right ..) counted whole
  have same : sendRequest path entity raised ({} : Store) = .ok () store := sent
  cases sentToo.symm.trans same
  -- The frame that was cut off is the one that was sent, whichever ceilings it was cut off under.
  obtain ⟨found, rest, withinFound, rfl, opened⟩ := Transport.exists_frame_of_received received
  have bytes : frame.toBytes ++ [] = found.toBytes ++ rest := by
    rw [List.append_nil, ← opened]
    exact held.2.symm
  rw [← (Frame.packet_eq_of_toBytes_append within withinFound bytes).1, carried]

end Entity

namespace Invoker

/-- A request goes out as a frame that is accepted at the far side. -/
def Accepted (invoker : Invoker) (request : Value) (requestId : String) : Prop :=
  -- Both sides have the same path and the same ceilings.
  ∃ store packet, sendRequest invoker.client.endpointPath (invoker.entity request requestId)
      invoker.limits ({} : Store) = .ok () store ∧
    Transport.received store.toBytes invoker.limits = .ok packet

/-- What is due to a caller for a request in its envelope. -/
def due (invoker : Invoker) (dispatcher : Dispatcher) (request : Value) (requestId : String)
    (trace : Trace) : Value :=
  Endpoint.due (dispatcher.execute (Message.toValue (invoker.envelope request requestId)) trace)

/-- A request arrives at the far side in its envelope. -/
structure Arrives (invoker : Invoker) (request : Value) (requestId : String) : Prop where
  /-- The envelope of the request can be encoded. -/
  encoded : ∃ body, body.length < 2 ^ 64 ∧
    encode (Message.toValue (invoker.envelope request requestId)) invoker.limits = .ok body
  /-- The request in its frame is accepted. -/
  accepted : invoker.Accepted request requestId

/-- The ceilings let a request and its answer through. -/
structure LetsThrough (invoker : Invoker) (dispatcher : Dispatcher) (request : Value)
    (requestId : String) (trace : Trace) : Prop extends invoker.Arrives request requestId where
  /-- The response in its envelope can be encoded, or what tells of a failure. -/
  answered : ∃ answer,
    encode (invoker.due dispatcher request requestId trace) invoker.limits = .ok answer

/-- The length field of a frame has room for the answer to a request. -/
def AnswerCounted (invoker : Invoker) (dispatcher : Dispatcher) (request : Value)
    (requestId : String) (trace : Trace) : Prop :=
  ∀ answer, encode (invoker.due dispatcher request requestId trace) invoker.limits = .ok answer →
    answer.length ≤ 0xFFFFFFFF

variable {dispatcher : Dispatcher} {invoker : Invoker} {requestId : String} {request : Value}
  {trace : Trace} {decoders : Decoders}

/-- A request arrives if both sides can count its body, in whichever content encoding it is. -/
theorem Arrives.of_body {body sent : Bytes}
    (short : (Bytes.ofString invoker.client.endpointPath).length ≤ 0xFFFF)
    (encoded : encode (Message.toValue (invoker.envelope request requestId)) invoker.limits =
      .ok body)
    (small : body.length < 2 ^ 64) (whole : (invoker.entity request requestId).body = .ok sent)
    (fits : sent.length ≤ invoker.limits.messageSize) (counted : sent.length ≤ 0xFFFFFFFF) :
    invoker.Arrives request requestId where
  encoded := ⟨body, small, encoded⟩
  accepted := by
    -- The tag of the envelope is not empty, so there is room for a chunk.
    have framed : 0 < invoker.limits.frameSize :=
      Nat.lt_of_lt_of_le (by decide) (length_typeName_le_of_encode encoded)
    obtain ⟨store, sent, received⟩ := Transport.exists_received_of_body whole
      (Nat.lt_succ_of_le short) framed fits (Nat.lt_succ_of_le counted)
    exact ⟨store, _, sent, received⟩

/-- An answer is counted if its encoding is short. -/
theorem AnswerCounted.of_encode {answer : Bytes}
    (encoded : encode (invoker.due dispatcher request requestId trace) invoker.limits = .ok answer)
    (short : answer.length ≤ 0xFFFFFFFF) :
    invoker.AnswerCounted dispatcher request requestId trace := by
  intro other encodedToo
  cases encoded.symm.trans encodedToo
  exact short

/-- The packet of a request that arrives holds the envelope of the request. -/
theorem Arrives.exists_packet (arrives : invoker.Arrives request requestId)
    (inverted : decoders.Invert invoker.compressor) :
    ∃ store packet, sendRequest invoker.client.endpointPath (invoker.entity request requestId)
        invoker.limits ({} : Store) = .ok () store ∧
      Transport.received store.toBytes invoker.limits = .ok packet ∧
      (∃ length, (invoker.entity request requestId).contentLength = .ok length) ∧
      ∀ dispatcher trace, (invoker.endpoint dispatcher decoders).process packet trace =
        dispatcher.execute (Message.toValue (invoker.envelope request requestId)) trace := by
  obtain ⟨body, small, encoded⟩ := arrives.encoded
  obtain ⟨store, packet, sent, received⟩ := arrives.accepted
  have countable : body.length ≤ wordMax := Nat.le_pred_of_lt small
  have framed : 0 < invoker.limits.frameSize :=
    Nat.lt_of_lt_of_le (by decide) (length_typeName_le_of_encode encoded)
  have encodes : encode (invoker.entity request requestId).payload
      (invoker.entity request requestId).limits = .ok body := encoded
  obtain ⟨carried, whole, rfl⟩ := Entity.eq_of_received encodes framed sent received
  refine ⟨store, _, sent, received, ⟨_, Entity.contentLength_of_body whole⟩, ?_⟩
  -- What was made of the envelope can be opened again, and read back.
  intro dispatcher
  have fits := length_le_of_encode_of_counted encodes countable
  have opened := Entity.payload_of_body encodes fits inverted whole invoker.client.endpointPath
  exact (invoker.endpoint dispatcher decoders).process_of_request rfl opened
    (decode_eq_ok_iff.mpr ⟨encoded, countable⟩)

/-- What the far side answers to an outcome: the response in its envelope, or why there is none. -/
def reply (dispatcher : Dispatcher) : Except Failure Value → Value
  | .ok response => Message.toValue (ResponseEnvelope.wrap response (some dispatcher.hostLabel))
  | .error failure => Endpoint.errorValue failure

/-- A caller makes of a reply what came of the request, a failure being one of the far side. -/
theorem interpret_reply (dispatcher : Dispatcher) (outcome : Except Failure Value) :
    interpret (reply dispatcher outcome) = outcome.mapError Failure.remote := by
  cases outcome with
  | ok response => rw [reply, interpret_response, ResponseEnvelope.unwrap_wrap]; rfl
  | error failure => rw [reply, Endpoint.errorValue, interpret_failure]; rfl

section Given

variable {outcome : Except Failure Value} {events : List Event}
  (gives : (dispatcher.answer
    { session := some invoker.session, requestId := some requestId } request).Gives outcome events)

include gives

/-- What is due for a request is the reply to what comes of it. -/
theorem due_eq_reply (trace : Trace) :
    invoker.due dispatcher request requestId trace = reply dispatcher outcome := by
  have executed := Dispatcher.execute_gives
    (Dispatcher.opened_toValue (invoker.envelope request requestId)) gives trace
  cases outcome with
  | ok response =>
    have wrapped : dispatcher.returned (Message.toValue (invoker.envelope request requestId))
        response = Message.toValue (ResponseEnvelope.wrap response (some dispatcher.hostLabel)) :=
      if_pos (Message.isTagged_toValue _)
    rw [due, executed, reply, ← wrapped]
    rfl
  | error failure =>
    rw [due, executed, reply]
    rfl

/-- A packet that holds the envelope is answered by the reply, and only counting happens besides. -/
theorem exists_handled {packet : Packet}
    (processed : ∀ trace, (invoker.endpoint dispatcher decoders).process packet trace =
      dispatcher.execute (Message.toValue (invoker.envelope request requestId)) trace)
    (trace : Trace) :
    ∃ tallies : List Tally, (invoker.endpoint dispatcher decoders).handle packet trace =
      ((invoker.endpoint dispatcher decoders).responsePacket (reply dispatcher outcome),
        trace ++ events ++ tallies.map .counted) := by
  have executed := Dispatcher.execute_gives
    (Dispatcher.opened_toValue (invoker.envelope request requestId)) gives trace
  cases outcome with
  | ok response =>
    have wrapped : dispatcher.returned (Message.toValue (invoker.envelope request requestId))
        response = Message.toValue (ResponseEnvelope.wrap response (some dispatcher.hostLabel)) :=
      if_pos (Message.isTagged_toValue _)
    simp only [Except.map, wrapped, run_ofExcept] at executed
    have handled := (invoker.endpoint dispatcher decoders).handle_of_response
      ((processed trace).trans executed)
    exact ⟨[], by rw [handled, List.map_nil, List.append_nil]; rfl⟩
  | error failure =>
    simp only [Except.map, run_ofExcept] at executed
    exact (invoker.endpoint dispatcher decoders).handle_of_failure
      ((processed trace).trans executed)

/--
A request that is let through comes to what its execution does.

A response is given out of its envelope, a failure is that of the far side, and nothing happens
besides but counting.
-/
theorem LetsThrough.post_eq (passes : invoker.LetsThrough dispatcher request requestId trace)
    (counted : invoker.AnswerCounted dispatcher request requestId trace)
    (inverted : decoders.Invert invoker.compressor) (elapsed : Duration) (address : String) :
    ∃ tallies : List Tally,
      invoker.post (invoker.occasion dispatcher requestId elapsed decoders) address request trace =
        Traced.ofExcept (outcome.mapError Failure.remote)
          (trace ++ events ++ tallies.map .counted) := by
  obtain ⟨store, packet, sent, received, ⟨length, known⟩, processed⟩ :=
    passes.exists_packet inverted
  obtain ⟨answer, encoded⟩ := passes.answered
  have short := counted answer encoded
  rw [due_eq_reply gives] at encoded
  obtain ⟨before, handled⟩ := exists_handled gives (processed dispatcher) trace
  rw [(invoker.endpoint dispatcher decoders).body_of_encode encoded] at handled
  -- The reply may be counted at the far side, before the caller counts what happened.
  obtain ⟨behind, posted⟩ := post_of_received dispatcher invoker requestId elapsed address
    request sent received known encoded short handled
  rw [interpret_reply, List.append_assoc, ← List.map_append] at posted
  exact ⟨before ++ behind, posted⟩

/-- An answer that the length field of a frame has no room for fails the call. -/
theorem Arrives.post_of_uncounted (arrives : invoker.Arrives request requestId)
    (inverted : decoders.Invert invoker.compressor) {answer : Bytes}
    (encoded : encode (invoker.due dispatcher request requestId trace) invoker.limits = .ok answer)
    (uncounted : 0xFFFFFFFF < answer.length) (elapsed : Duration) (address : String) :
    ∃ final,
      invoker.post (invoker.occasion dispatcher requestId elapsed decoders) address request trace =
        .error (.limitExceeded .messageSize 0xFFFFFFFF answer.length) final := by
  obtain ⟨store, packet, sent, received, ⟨length, known⟩, processed⟩ :=
    arrives.exists_packet inverted
  rw [due_eq_reply gives] at encoded
  obtain ⟨before, handled⟩ := exists_handled gives (processed dispatcher) trace
  rw [(invoker.endpoint dispatcher decoders).body_of_encode encoded] at handled
  obtain ⟨tallies, posted⟩ := Invoker.post_of_uncounted dispatcher invoker requestId elapsed
    address request sent received known uncounted handled
  exact ⟨_, posted⟩

/-- A reply that passes a ceiling fails the call, with that as a failure of the far side. -/
theorem Arrives.post_of_refused (arrives : invoker.Arrives request requestId)
    (inverted : decoders.Invert invoker.compressor) {failure : Failure} {answer : Bytes}
    (refused : encode (invoker.due dispatcher request requestId trace) invoker.limits =
      .error failure)
    (told : encode (Endpoint.errorValue failure) invoker.limits = .ok answer)
    (counted : answer.length ≤ 0xFFFFFFFF) (elapsed : Duration) (address : String) :
    ∃ final,
      invoker.post (invoker.occasion dispatcher requestId elapsed decoders) address request trace =
        .error failure.remote final := by
  obtain ⟨store, packet, sent, received, ⟨length, known⟩, processed⟩ :=
    arrives.exists_packet inverted
  rw [due_eq_reply gives] at refused
  obtain ⟨before, handled⟩ := exists_handled gives (processed dispatcher) trace
  -- In place of the reply, its failure is told.
  have fallback : (invoker.endpoint dispatcher decoders).responsePacket (reply dispatcher outcome) =
      { path := "", body := answer } := by
    have limits : (invoker.endpoint dispatcher decoders).limits = invoker.limits := rfl
    simp only [Endpoint.responsePacket, Endpoint.responseBody, limits, refused, told]
  rw [fallback] at handled
  obtain ⟨tallies, posted⟩ := post_of_received dispatcher invoker requestId elapsed address
    request sent received known told counted handled
  rw [Endpoint.errorValue, interpret_failure] at posted
  exact ⟨_, posted⟩

end Given

/-- A request that is let through comes to what the handler of its type does with it. -/
theorem LetsThrough.post_of_invoke
    (passes : invoker.LetsThrough dispatcher request requestId trace)
    (counted : invoker.AnswerCounted dispatcher request requestId trace)
    (inverted : decoders.Invert invoker.compressor) (elapsed : Duration)
    (address : String) {typeName : String} {handler : Handler}
    (tagged : request.objectType? = some typeName)
    (found : dispatcher.registry.resolve typeName = .ok handler) {outcome : Except Failure Value}
    {course : List Event}
    (invoked : (handler.invoke
      { session := some invoker.session, requestId := some requestId } request).Gives
        outcome course) :
    ∃ events, Trace.uncounted events = Trace.uncounted course ∧
      invoker.post (invoker.occasion dispatcher requestId elapsed decoders) address request trace =
        Traced.ofExcept (outcome.mapError Failure.remote) (trace ++ events) := by
  obtain ⟨before, answered⟩ := dispatcher.answer_gives tagged found invoked
  obtain ⟨behind, posted⟩ := passes.post_eq answered counted inverted elapsed address
  refine ⟨Dispatcher.around course before ++ behind.map .counted, ?_, ?_⟩
  · -- Both sides count, and nothing else happens around the invocation.
    rw [Trace.uncounted_append, Trace.uncounted_around, Trace.uncounted_tallies, List.append_nil]
  · rw [posted, List.append_assoc]

end Invoker

namespace Sample

/-- A request arrives in a Zstandard frame if the ceilings leave room for the headers of that. -/
theorem arrives_of_framing {invoker : Invoker} {request said : Value} {requestId : String}
    {tight : Limits} (framed : invoker.compressor = framing)
    (coding : invoker.transport.compression = some .zstd)
    (short : (Bytes.ofString invoker.client.endpointPath).length ≤ 0xFFFF)
    (saying : Message.toValue (invoker.envelope request requestId) = said)
    (within : said.Within tight) (small : tight.messageSize ≤ readSize)
    (below : Limits.Below { tight with messageSize := 9 + tight.messageSize } invoker.limits) :
    invoker.Arrives request requestId := by
  have modest : tight.messageSize ≤ wordMax := Nat.le_trans small (by decide)
  have room : 9 + tight.messageSize ≤ invoker.limits.messageSize := below.message
  have lower : tight.Below invoker.limits := ⟨by omega, below.frame, below.depth⟩
  have encoded : encode (Message.toValue (invoker.envelope request requestId)) invoker.limits =
      .ok said.wireImage := by
    rw [saying]
    exact (encode_narrows lower said).eq_ok (encode_of_within within modest)
  have fits := within.message
  have size : (Zstd.store said.wireImage).length = 9 + said.wireImage.length :=
    Zstd.size_stored (Nat.le_trans fits small)
  have encodes : encode (invoker.entity request requestId).payload
      (invoker.entity request requestId).limits = .ok said.wireImage := encoded
  have made : (invoker.entity request requestId).compressor .zstd said.wireImage =
      some (Zstd.store said.wireImage) := by
    change invoker.compressor .zstd said.wireImage = _
    rw [framed]
    exact framing_of_short (List.cons_ne_nil _ _) (Nat.le_trans fits small)
  have whole : (invoker.entity request requestId).body = .ok (Zstd.store said.wireImage) :=
    Entity.body_eq_ok_iff.mpr ⟨said.wireImage, encodes, by
      have same : (invoker.entity request requestId).compression = _ := coding
      rw [same]
      exact made⟩
  unfold readSize at small
  exact .of_body short encoded (by omega) whole (by omega) (by omega)

/-- Ceilings that a long name does not respect. -/
def distantLimits : Limits where
  messageSize := 400
  frameSize := 64
  depth := 3

/-- What tells of such a name respects them. -/
theorem told_within :
    (Endpoint.errorValue (.limitExceeded .frameSize 64 65)).Within distantLimits := by
  decide

/-- Ceilings that leave room for more than the length field of a frame does. -/
def roomyLimits : Limits where
  messageSize := 0x200000000
  frameSize := 0x200000000
  depth := 3

/-- A row of zeros. -/
def zeros (count : Nat) : String := String.ofList (List.replicate count '0')

/-- Each zero takes up one octet. -/
theorem length_zeros (count : Nat) : (Bytes.ofString (zeros count)).length = count := by
  have decimal : ∀ digit ∈ List.replicate count '0', digit.isDigit := by
    intro digit member
    rw [List.eq_of_mem_replicate member]
    rfl
  rw [zeros, Bytes.length_ofString_ofList decimal, List.length_replicate]

/-- A reply respects ceilings that leave room for it, and takes up little more than its response. -/
theorem encode_reply (response : Value) (dispatcher : Dispatcher)
    (named : dispatcher.hostLabel = "server")
    (plain : ResponseEnvelope.wrap response (some "server") =
      { response, host := some "server", elementType := none })
    (size : response.wire.length ≤ 0x100000100)
    (items : ∀ count ∈ response.lengths, count ≤ 0xFFFFFFFF) (shallow : response.nesting ≤ 1) :
    encode (Invoker.reply dispatcher (.ok response)) roomyLimits =
        .ok (Invoker.reply dispatcher (.ok response)).wireImage ∧
      (Invoker.reply dispatcher (.ok response)).wireImage.length = response.wire.length + 83 := by
  have shape : Invoker.reply dispatcher (.ok response) = .object "wirecall.ResponseEnvelope"
      [("response", response), ("host", .string "server"), ("element_type", .null)] := by
    rw [Invoker.reply, named, plain]
    rfl
  have names : (Bytes.ofString "wirecall.ResponseEnvelope").length = 25 ∧
      (Bytes.ofString "response").length = 8 ∧ (Bytes.ofString "host").length = 4 ∧
      (Bytes.ofString "server").length = 6 ∧ (Bytes.ofString "element_type").length = 12 :=
    ⟨rfl, rfl, rfl, rfl, rfl⟩
  rw [shape]
  have length : (Value.object "wirecall.ResponseEnvelope" [("response", response),
      ("host", .string "server"), ("element_type", .null)]).wireImage.length =
        response.wire.length + 83 := by
    simp only [Value.wireImage, Value.wire, Value.wireOfEntries, Value.wireOfString,
      List.length_cons, List.length_append, List.length_nil, Bytes.length_ofNatBE, names]
    omega
  refine ⟨encode_of_within ⟨?_, fun count member => ?_, ?_⟩ (by decide), length⟩
  · rw [length]
    exact Nat.le_trans (Nat.add_le_add_right size _) (by decide)
  · -- Every other item is a name, or counts the fields.
    simp only [Value.lengths, Value.lengthsOfEntries, names] at member
    have bounded : count ≤ 0xFFFFFFFF := by
      by_cases inside : count ∈ response.lengths
      · exact items count inside
      · simp [inside] at member
        omega
    exact Nat.le_trans bounded (by decide)
  · simp only [Value.nesting, Value.nestingOfEntries, roomyLimits]
    omega

/-- A reply that no frame can count is encoded under such ceilings, and yet the call fails. -/
theorem post_of_long_response {invoker : Invoker} (roomy : invoker.limits = roomyLimits)
    {request response : Value} {requestId : String} {dispatcher : Dispatcher} {events : List Event}
    {decoders : Decoders} (arrives : invoker.Arrives request requestId)
    (inverted : decoders.Invert invoker.compressor)
    (gives : (dispatcher.answer
      { session := some invoker.session, requestId := some requestId } request).Gives
        (.ok response) events)
    (named : dispatcher.hostLabel = "server")
    (plain : ResponseEnvelope.wrap response (some "server") =
      { response, host := some "server", elementType := none })
    (long : 0xFFFFFFFF ≤ response.wire.length) (size : response.wire.length ≤ 0x100000100)
    (items : ∀ count ∈ response.lengths, count ≤ 0xFFFFFFFF) (shallow : response.nesting ≤ 1)
    (elapsed : Duration) (address : String) (trace : Trace) :
    (∃ answer, encode (invoker.due dispatcher request requestId trace) roomyLimits = .ok answer) ∧
      ∃ final,
        invoker.post (invoker.occasion dispatcher requestId elapsed decoders) address request
            trace =
          .error (.limitExceeded .messageSize 0xFFFFFFFF (response.wire.length + 83)) final := by
  obtain ⟨encoded, length⟩ := encode_reply response dispatcher named plain size items shallow
  rw [← Invoker.due_eq_reply gives trace] at encoded length
  -- The envelope makes the response longer than the length field of a frame can tell.
  have uncounted : 0xFFFFFFFF <
      (invoker.due dispatcher request requestId trace).wireImage.length := by
    omega
  refine ⟨⟨_, encoded⟩, ?_⟩
  rw [← length]
  exact arrives.post_of_uncounted gives inverted (roomy ▸ encoded) uncounted elapsed address

end Sample

end RemoteCall
