import RemoteCall.Proofs.Client.Loopback
import RemoteCall.Proofs.Compression.Stored
import RemoteCall.Sample.Handlers

/-! A call to an endpoint in the same process comes to what the execution of its envelope does. -/

namespace RemoteCall

/-- A dispatcher where a caller looks for it, under the same ceilings. -/
def Invoker.endpoint (invoker : Invoker) (dispatcher : Dispatcher)
    (decoders : Decoders := .standard) : Endpoint where
  dispatcher
  path := invoker.client.endpointPath
  limits := invoker.limits
  decoders

/-- An occasion on which a caller reaches a dispatcher in the same process. -/
def Invoker.occasion (invoker : Invoker) (dispatcher : Dispatcher) (requestId : String)
    (elapsed : Duration) (decoders : Decoders := .standard) : Occasion where
  requestId
  elapsed
  -- The time that the call takes and its identifier are whatever they are.
  transport := .loopback (invoker.endpoint dispatcher decoders)

/-- The packet that a body goes out in. -/
def Invoker.packet (invoker : Invoker) (sent : Bytes) : Packet where
  path := invoker.client.endpointPath
  compression := invoker.transport.compression
  body := sent

namespace Invoker

variable {trace after : Trace}

/-- An enveloped response is answered out of its envelope. -/
theorem interpret_response (envelope : ResponseEnvelope) :
    interpret (Message.toValue envelope) = .ok envelope.unwrap := by
  -- The tags of the two answers are different.
  have other : Message.isTagged ServerErrorResponse (Message.toValue envelope) = false := rfl
  simp only [interpret, other, Message.isTagged_toValue, envelope.ofValue_toValue]
  rfl

/-- What a server tells of a failure fails the call. -/
theorem interpret_failure (told : ServerErrorResponse) :
    interpret (Message.toValue told) = .error told.toFailure := by
  -- A failure is looked for before anything else.
  simp only [interpret, Message.isTagged_toValue, told.ofValue_toValue]
  rfl

/-- A call comes to what the answer says, and counts besides. -/
theorem post_of_answer (invoker : Invoker) (occasion : Occasion) (address : String)
    (request : Value) {length : Option Nat} {answer : Bytes}
    (known : (invoker.entity request occasion.requestId).contentLength = .ok length)
    (answered : occasion.transport address invoker.client.endpointPath
      (invoker.entity request occasion.requestId) trace = .ok answer after) :
    ∃ tallies : List Tally, invoker.post occasion address request trace =
      Traced.ofExcept (decode answer invoker.limits >>= interpret)
        (after ++ tallies.map .counted) := by
  -- A slow call is counted once more, and nothing else depends on the time.
  by_cases slow : invoker.client.slowCallThreshold ≤ occasion.elapsed
  · refine ⟨[.slowCall, .requestSent (length.getD 0).toUInt64,
      .responseReceived answer.length.toUInt64], ?_⟩
    simp [post, known, answered, Traced.attempt, slow]
  · refine ⟨[.requestSent (length.getD 0).toUInt64, .responseReceived answer.length.toUInt64], ?_⟩
    simp [post, known, answered, Traced.attempt, slow]

/-- A call fails with its transport, and counts besides. -/
theorem post_of_unanswered (invoker : Invoker) (occasion : Occasion) (address : String)
    (request : Value) {length : Option Nat} {failure : Failure}
    (known : (invoker.entity request occasion.requestId).contentLength = .ok length)
    (failed : occasion.transport address invoker.client.endpointPath
      (invoker.entity request occasion.requestId) trace = .error failure after) :
    ∃ tallies : List Tally, invoker.post occasion address request trace =
      .error failure (after ++ tallies.map .counted) := by
  -- A slow call is counted, whatever it comes to.
  by_cases slow : invoker.client.slowCallThreshold ≤ occasion.elapsed
  · refine ⟨[.slowCall, .requestFailed], ?_⟩
    simp [post, known, failed, Traced.attempt, slow]
  · refine ⟨[.requestFailed], ?_⟩
    simp [post, known, failed, Traced.attempt, slow]

variable (dispatcher : Dispatcher) (invoker : Invoker) (requestId : String) (elapsed : Duration)
  (address : String) (request : Value) {body sent : Bytes} {decoders : Decoders}

/-- A response that the endpoint gives to what it received is what the call comes to. -/
theorem post_of_received {store : Store} {packet : Packet} {length : Option Nat}
    (sent : sendRequest invoker.client.endpointPath (invoker.entity request requestId)
      invoker.limits ({} : Store) = .ok () store)
    (received : Transport.received store.toBytes invoker.limits = .ok packet)
    (known : (invoker.entity request requestId).contentLength = .ok length) {response : Value}
    {answer : Bytes} (encoded : encode response invoker.limits = .ok answer)
    (counted : answer.length ≤ 0xFFFFFFFF)
    (handled : (invoker.endpoint dispatcher decoders).handle packet trace =
      ({ path := "", body := answer }, after)) :
    ∃ tallies : List Tally,
      invoker.post (invoker.occasion dispatcher requestId elapsed decoders) address request trace =
        Traced.ofExcept (interpret response) (after ++ tallies.map .counted) := by
  have countable : answer.length ≤ wordMax := Nat.le_trans counted (by decide)
  -- What the endpoint encoded is decoded under the same ceilings.
  have decoded : decode answer invoker.limits = .ok response :=
    decode_eq_ok_iff.mpr ⟨encoded, countable⟩
  -- The frames of the request and of the answer carry both bodies through.
  have answered := Transport.loopback_of_received (invoker.endpoint dispatcher decoders) sent
    received handled (length_le_of_encode_of_counted encoded countable)
    (Nat.lt_succ_of_le counted) address
  obtain ⟨tallies, posted⟩ := post_of_answer invoker
    (invoker.occasion dispatcher requestId elapsed decoders) address request known answered
  rw [decoded] at posted
  exact ⟨tallies, posted⟩

/-- A response that a frame cannot count fails the call. -/
theorem post_of_uncounted {store : Store} {packet : Packet} {length : Option Nat}
    (sent : sendRequest invoker.client.endpointPath (invoker.entity request requestId)
      invoker.limits ({} : Store) = .ok () store)
    (received : Transport.received store.toBytes invoker.limits = .ok packet)
    (known : (invoker.entity request requestId).contentLength = .ok length) {answer : Bytes}
    (uncounted : 0xFFFFFFFF < answer.length)
    (handled : (invoker.endpoint dispatcher decoders).handle packet trace =
      ({ path := "", body := answer }, after)) :
    ∃ tallies : List Tally,
      invoker.post (invoker.occasion dispatcher requestId elapsed decoders) address request trace =
        .error (.limitExceeded .messageSize 0xFFFFFFFF answer.length)
          (after ++ tallies.map .counted) :=
  post_of_unanswered invoker (invoker.occasion dispatcher requestId elapsed decoders) address
    request known
    (Transport.loopback_of_uncounted (invoker.endpoint dispatcher decoders) sent received handled
      uncounted address)

/-- A response that the endpoint gives to the packet of a request is what the call comes to. -/
theorem post_of_handle (whole : (invoker.entity request requestId).body = .ok sent)
    (short : (Bytes.ofString invoker.client.endpointPath).length ≤ 0xFFFF)
    (framed : 0 < invoker.limits.frameSize) (fits : sent.length ≤ invoker.limits.messageSize)
    (countable : invoker.limits.messageSize ≤ 0xFFFFFFFF) {response : Value} {answer : Bytes}
    (encoded : encode response invoker.limits = .ok answer)
    (handled : (invoker.endpoint dispatcher decoders).handle (invoker.packet sent) trace =
      ({ path := "", body := answer }, after)) :
    ∃ tallies : List Tally,
      invoker.post (invoker.occasion dispatcher requestId elapsed decoders) address request trace =
        Traced.ofExcept (interpret response) (after ++ tallies.map .counted) := by
  have small : invoker.limits.messageSize < 256 ^ 4 := Nat.lt_succ_of_le countable
  have fitsAnswer : answer.length ≤ invoker.limits.messageSize :=
    length_le_of_encode encoded (Nat.lt_of_le_of_lt countable (by decide))
  obtain ⟨store, posted, received⟩ := Transport.exists_received_of_body whole
    (Nat.lt_succ_of_le short) framed fits (Nat.lt_of_le_of_lt fits small)
  exact post_of_received dispatcher invoker requestId elapsed address request posted received
    (Entity.contentLength_of_body whole) encoded (Nat.le_trans fitsAnswer countable) handled

/-- What a request goes out as can be opened again, with or without a content encoding. -/
theorem exists_sent
    (encoded : encode (Message.toValue (invoker.envelope request requestId)) invoker.limits =
      .ok body)
    (fits : body.length ≤ invoker.limits.messageSize)
    (inverted : decoders.Invert invoker.compressor)
    (compressed : ∀ kind, invoker.transport.compression = some kind →
      ∃ bytes, invoker.compressor kind body = some bytes ∧
        bytes.length ≤ invoker.limits.messageSize) :
    ∃ sent, (invoker.entity request requestId).body = .ok sent ∧
      sent.length ≤ invoker.limits.messageSize ∧
        (invoker.packet sent).payload invoker.limits decoders = .ok body := by
  -- The entity has the encoding, the compressor and the ceilings of the caller.
  obtain ⟨sent, whole, small, opened⟩ := Entity.exists_body
    (show encode (invoker.entity request requestId).payload
      (invoker.entity request requestId).limits = .ok body from encoded) fits inverted compressed
  exact ⟨sent, whole, small, opened _⟩

/--
A call to an endpoint in the same process is transparent.

It gives exactly what the handler gave, or fails with the kind and the text of its failure, and
nothing happens besides but counting.
-/
theorem post_inProcess
    (short : (Bytes.ofString invoker.client.endpointPath).length ≤ 0xFFFF)
    (countable : invoker.limits.messageSize ≤ 0xFFFFFFFF)
    (encoded : encode (Message.toValue (invoker.envelope request requestId)) invoker.limits =
      .ok body)
    (inverted : decoders.Invert invoker.compressor)
    (compressed : ∀ kind, invoker.transport.compression = some kind →
      ∃ bytes, invoker.compressor kind body = some bytes ∧
        bytes.length ≤ invoker.limits.messageSize)
    (trace : Trace) :
    (∀ result after answer,
      dispatcher.execute (Message.toValue (invoker.envelope request requestId)) trace =
        .ok result after →
      encode result invoker.limits = .ok answer →
      ∃ typeName handler response, request.objectType? = some typeName ∧
        dispatcher.registry.resolve typeName = .ok handler ∧
        handler.invoke { session := some invoker.session, requestId := some requestId } request
          (trace ++ [.counted .dispatched]) = .ok response after ∧
        ∃ tallies : List Tally,
          invoker.post (invoker.occasion dispatcher requestId elapsed decoders) address request
            trace = .ok response (after ++ tallies.map .counted)) ∧
      ∀ failure after answer,
        dispatcher.execute (Message.toValue (invoker.envelope request requestId)) trace =
          .error failure after →
        encode (Endpoint.errorValue failure) invoker.limits = .ok answer →
        ∃ tallies : List Tally,
          invoker.post (invoker.occasion dispatcher requestId elapsed decoders) address request
            trace = .error (.remoteExecution failure.kind failure.message)
              (after ++ tallies.map .counted) := by
  have fitsBody : body.length ≤ invoker.limits.messageSize :=
    length_le_of_encode encoded (Nat.lt_of_le_of_lt countable (by decide))
  -- The tag of the envelope is not empty, so there is room for a chunk.
  have framed : 0 < invoker.limits.frameSize :=
    Nat.lt_of_lt_of_le (by decide) (length_typeName_le_of_encode encoded)
  have decoded : decode body invoker.limits =
      .ok (Message.toValue (invoker.envelope request requestId)) :=
    decode_eq_ok_iff.mpr ⟨encoded, Nat.le_trans fitsBody (Nat.le_trans countable (by decide))⟩
  obtain ⟨sent, whole, fits, opened⟩ :=
    exists_sent invoker requestId request encoded fitsBody inverted compressed
  -- The endpoint opens the packet, and executes the envelope that was sent in it.
  have processed : (invoker.endpoint dispatcher decoders).process (invoker.packet sent) trace =
      dispatcher.execute (Message.toValue (invoker.envelope request requestId)) trace :=
    (invoker.endpoint dispatcher decoders).process_of_request rfl opened decoded trace
  constructor
  · -- The envelope was executed, and its response is what comes back.
    intro result after answer executed encodedResult
    obtain ⟨response, answered, rfl⟩ := Dispatcher.execute_toValue_eq_ok_iff.mp executed
    obtain ⟨typeName, handler, tagged, found, invoked⟩ := Dispatcher.answer_eq_ok_iff.mp answered
    have handled :=
      (invoker.endpoint dispatcher decoders).handle_of_response (processed.trans executed)
    rw [(invoker.endpoint dispatcher decoders).body_of_encode encodedResult] at handled
    obtain ⟨tallies, posted⟩ := post_of_handle dispatcher invoker requestId elapsed address request
      whole short framed fits countable encodedResult handled
    -- The envelope is opened by the caller, who finds the response as it was wrapped.
    rw [interpret_response, ResponseEnvelope.unwrap_wrap, run_ofExcept] at posted
    exact ⟨typeName, handler, response, tagged, found, invoked, tallies, posted⟩
  · -- The failure is told to the caller, who makes a failure of it again.
    intro failure after answer executed encodedFailure
    obtain ⟨counted, handled⟩ :=
      (invoker.endpoint dispatcher decoders).handle_of_failure (processed.trans executed)
    rw [(invoker.endpoint dispatcher decoders).body_of_encode encodedFailure] at handled
    obtain ⟨tallies, posted⟩ := post_of_handle dispatcher invoker requestId elapsed address request
      whole short framed fits countable encodedFailure handled
    rw [Endpoint.errorValue, interpret_failure, run_ofExcept] at posted
    refine ⟨counted ++ tallies, ?_⟩
    rw [posted]
    simp [ServerErrorResponse.toFailure, ServerErrorResponse.ofFailure]

end Invoker

namespace Sample

/-- A server of names. -/
def nameServer : Dispatcher where
  -- One handler is enough to be found by its tag.
  registry := ⟨[("test.ListNames", .ordinary listNames)]⟩
  hostLabel := "server"

/-- A request for names. -/
def nameRequest : Value := .object "test.ListNames" [("prefix", .string "x")]

/-- What the request for names is answered with. -/
def nameList : Value := .array "string" [.string "xa", .string "xb"]

/-- The envelope of the request for names. -/
def nameEnvelope : SessionEnvelope where
  request := nameRequest
  session := { userName := none, host := "h", program := "p", processId := 7 }
  uniqueId := "1"

/-- A caller with tight ceilings, who compresses requests. -/
def nameCaller : Invoker where
  client := {}
  -- The ceilings are as tight as the call allows.
  transport := { compression := some .zstd }
  limiter := none
  limits := { messageSize := 211, frameSize := 25, depth := 2 }
  session := nameEnvelope.session
  compressor := framing

/-- A request that the server of names does not know. -/
def ageRequest : Value := .object "test.ListAges" []

/-- A caller on a budget, who streams requests as they are. -/
def streamingCaller : Invoker where
  client := {}
  transport := { streamRequests := true }
  limiter := some ⟨fun _ => 16⟩
  limits := { messageSize := 240, frameSize := 52, depth := 2 }
  session := nameEnvelope.session
  compressor := nameCaller.compressor

/--
Names are answered as an array, and come back with the type of its elements.

A request that no handler is found for fails with the kind and the text of that.
-/
theorem post_nameServer :
    encode (Message.toValue (nameCaller.envelope nameRequest "1")) nameCaller.limits =
        .ok (Message.toValue nameEnvelope).image ∧
      Decoders.standard.Invert nameCaller.compressor ∧
      (∃ final, nameCaller.post (nameCaller.occasion nameServer "1" (.ofSeconds 1)) "host"
        nameRequest [] = .ok nameList final) ∧
      ∃ final, streamingCaller.post (streamingCaller.occasion nameServer "2" (.ofSeconds 1)) "host"
        ageRequest [] = .error (.remoteExecution "HandlerNotFound"
          "No handler registered for request type test.ListAges") final := by
  have path : (Bytes.ofString ({} : ClientSettings).endpointPath).length ≤ 0xFFFF := by decide
  have encoded : encode (Message.toValue (nameCaller.envelope nameRequest "1"))
      nameCaller.limits = .ok (Message.toValue nameEnvelope).image := by
    decide +kernel
  refine ⟨encoded, framing_inverted, ?_, ?_⟩
  · have known : framing .zstd (Message.toValue nameEnvelope).image =
        some (Zstd.store (Message.toValue nameEnvelope).image) :=
      framing_of_short (List.cons_ne_nil _ _) (by decide +kernel)
    have compressed : ∀ kind, nameCaller.transport.compression = some kind →
        ∃ bytes, nameCaller.compressor kind (Message.toValue nameEnvelope).image = some bytes ∧
          bytes.length ≤ nameCaller.limits.messageSize := by
      intro kind coding
      cases coding
      have same : nameCaller.compressor = framing := rfl
      rw [same, known]
      exact ⟨_, rfl, by decide +kernel⟩
    -- The handler is run once, in the context of the session.
    have executed : nameServer.execute (Message.toValue (nameCaller.envelope nameRequest "1")) [] =
        .ok (Message.toValue (ResponseEnvelope.wrap nameList (some "server")))
          [.counted .dispatched, .ran ⟨⟨listNames.request, ("x", ())⟩,
            { session := some nameEnvelope.session, requestId := some "1" }⟩] := by
      rfl
    have encodedResult : encode (Message.toValue (ResponseEnvelope.wrap nameList (some "server")))
        nameCaller.limits =
          .ok (Message.toValue (ResponseEnvelope.wrap nameList (some "server"))).image := by
      decide +kernel
    obtain ⟨typeName, handler, response, tagged, found, invoked, tallies, posted⟩ :=
      (Invoker.post_inProcess nameServer nameCaller "1" (.ofSeconds 1) "host" nameRequest
        path (by decide) encoded framing_inverted compressed []).1 _ _ _ executed
          encodedResult
    -- There is one handler, and it answers with the names.
    cases tagged
    cases found
    cases invoked
    exact ⟨_, posted⟩
  · have encoded : encode (Message.toValue (streamingCaller.envelope ageRequest "2"))
        streamingCaller.limits =
          .ok (Message.toValue (streamingCaller.envelope ageRequest "2")).image := by
      decide +kernel
    have executed :
        nameServer.execute (Message.toValue (streamingCaller.envelope ageRequest "2")) [] =
          .error (.handlerNotFound "test.ListAges") [] := by
      rfl
    have encodedFailure : encode (Endpoint.errorValue (.handlerNotFound "test.ListAges"))
        streamingCaller.limits =
          .ok (Endpoint.errorValue (.handlerNotFound "test.ListAges")).image := by
      decide +kernel
    obtain ⟨tallies, posted⟩ :=
      (Invoker.post_inProcess nameServer streamingCaller "2" (.ofSeconds 1) "host" ageRequest
        path (by decide) encoded framing_inverted (fun _ coding => by cases coding) []).2 _ _ _
          executed encodedFailure
    exact ⟨_, posted⟩

end Sample

end RemoteCall
