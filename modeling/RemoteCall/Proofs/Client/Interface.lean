import RemoteCall.Proofs.Client.Exchange
import RemoteCall.Proofs.Server.Calling

/-! A call of a method of a remote interface is the call of the method at hand. -/

namespace RemoteCall

/-- What is sent for a call of a method. -/
def Method.request (method : Method) (interface : String)
    (arguments : Shape.FieldData method.parameters) : RemoteServiceRequest where
  interface
  method := method.name
  arguments := Invoker.argumentValues method.parameters arguments

/-- What happens where a method is called. -/
def Method.called (method : Method) (interface : String)
    (arguments : Shape.FieldData method.parameters) : Event :=
  .called interface method.name
    ⟨.record method.name (interface ++ "." ++ method.name) method.parameters, arguments⟩

/-- Arguments that survive are taken in the order in which they were sent. -/
theorem Service.takeArguments_argumentValues (interface method : String) :
    (parameters : List (String × Shape)) → (arguments : Shape.FieldData parameters) →
      Service.AllSurvive parameters arguments →
        Service.takeArguments interface method parameters
          (Invoker.argumentValues parameters arguments) = .ok arguments
  | [], (), _ => rfl
  | (_, shape) :: parameters, (data, rest), ⟨survives, others⟩ => by
    have taken := takeArguments_argumentValues interface method parameters rest others
    rw [Invoker.argumentValues, takeArguments_of_read survives, taken]
    rfl

namespace Invoker

variable {builder left : RegistryBuilder} {registry : Registry} {hostLabel : String}
  {service : Service} {method : Method} {invoker : Invoker} {occasion : Occasion}
  {requestId address interface : String} {arguments : Shape.FieldData method.parameters}
  {trace after : Trace}

/-- A call of which the result comes back comes to that result. -/
theorem call_of_result {result : method.result.Data} (survives : method.result.Survives result)
    (posted : invoker.post occasion address (Message.toValue (method.request interface arguments))
      trace = .ok (method.result.toResponse result) after) :
    invoker.call occasion address interface method.toMethodSignature arguments trace =
      .ok result after := by
  simp only [Method.request] at posted
  simp only [call, invoke, run_bind, posted, survives.ofValue_toResponse]
  rfl

/-- A call that fails on the way, or at the far side, fails. -/
theorem call_of_failure {failure : Failure}
    (posted : invoker.post occasion address (Message.toValue (method.request interface arguments))
      trace = .error failure after) :
    invoker.call occasion address interface method.toMethodSignature arguments trace =
      .error failure after := by
  simp only [Method.request] at posted
  simp only [call, invoke, run_bind, posted]

/-- A request that names a method, with arguments that survive, calls it on them and no other. -/
theorem invoke_gives_of_offered (distinct : builder.Distinct) (offers : service ∈ builder.services)
    (declares : method ∈ service.methods) (unambiguous : service.Unambiguous)
    (survive : Service.AllSurvive method.parameters arguments) (context : Context) :
    (Handler.invoke (.services builder.services) context
      (Message.toValue (method.request service.interface arguments))).Gives
        ((method.run arguments).map method.result.toResponse)
        [method.called service.interface arguments] := by
  let asked := method.request service.interface arguments
  have reached : Service.route builder.services (Message.toValue asked) =
      service.call method asked.arguments :=
    Service.route_of_meant distinct asked.ofValue_toValue ⟨offers, rfl, declares, rfl⟩ unambiguous
  have taken := Service.takeArguments_argumentValues service.interface method.name
    method.parameters arguments survive
  change (Service.route _ _).Gives _ _
  rw [reached]
  exact Service.call_gives taken

/-- A call of a method that is offered comes to the result of that method, which is called once. -/
theorem call_of_offered (built : RegistryBuilder.build builder = .ok registry left)
    (distinct : builder.Distinct) (offers : service ∈ builder.services)
    (declares : method ∈ service.methods) (unambiguous : service.Unambiguous)
    (survive : Service.AllSurvive method.parameters arguments)
    (results : ∀ result, method.run arguments = .ok result → method.result.Survives result)
    (passes : invoker.LetsThrough { registry, hostLabel }
      (Message.toValue (method.request service.interface arguments)) requestId trace)
    (counted : invoker.AnswerCounted { registry, hostLabel }
      (Message.toValue (method.request service.interface arguments)) requestId trace)
    {decoders : Decoders} (inverted : decoders.Invert invoker.compressor)
    (elapsed : Duration) (address : String) :
    ∃ events, Trace.uncounted events = [method.called service.interface arguments] ∧
      invoker.call (invoker.occasion { registry, hostLabel } requestId elapsed decoders) address
          service.interface method.toMethodSignature arguments trace =
        Traced.ofExcept ((method.run arguments).mapError Failure.remote) (trace ++ events) := by
  have found := RegistryBuilder.resolve_services_of_build built (List.ne_nil_of_mem offers)
  obtain ⟨events, happened, posted⟩ :=
    passes.post_of_invoke counted inverted elapsed address rfl found
      (invoke_gives_of_offered distinct offers declares unambiguous survive _)
  refine ⟨events, happened, ?_⟩
  -- The result is made a response there, and is read as what it was here.
  cases ran : method.run arguments with
  | ok result =>
    rw [ran] at posted
    exact call_of_result (results result ran) posted
  | error failure =>
    rw [ran] at posted
    exact call_of_failure posted

/--
A call of a method to an endpoint in the same process is the call of that method at hand.

The method is called once and on the same arguments, and the caller gets its result, or the kind and
the text of its failure. Whatever is wrong with a call, none is called and the call fails, unless
there are no services and a handler of one's own answers such calls. Arguments that are left over
change nothing. The response has to respect the ceilings in its envelope, and a frame has to count
it.
-/
theorem call_inProcess {operations : List RegistryBuilder.Operation} {registry : Registry}
    {left : RegistryBuilder}
    (built : RegistryBuilder.build (RegistryBuilder.after operations) = .ok registry left)
    (unambiguous : ∀ service ∈ (RegistryBuilder.after operations).services, service.Unambiguous)
    (hostLabel : String) :
    let builder := RegistryBuilder.after operations
    let dispatcher : Dispatcher := { registry, hostLabel }
    (∀ service ∈ builder.services, ∀ method ∈ service.methods,
      ∀ (arguments : Shape.FieldData method.parameters) (invoker : Invoker) (requestId : String)
        (elapsed : Duration) (address : String) (trace : Trace) (decoders : Decoders),
        Service.AllSurvive method.parameters arguments →
        (∀ result, method.run arguments = .ok result → method.result.Survives result) →
        invoker.LetsThrough dispatcher
          (Message.toValue (method.request service.interface arguments)) requestId trace →
        invoker.AnswerCounted dispatcher
          (Message.toValue (method.request service.interface arguments)) requestId trace →
        decoders.Invert invoker.compressor →
        ∃ events, Trace.uncounted events = [method.called service.interface arguments] ∧
          invoker.call (invoker.occasion dispatcher requestId elapsed decoders) address
              service.interface method.toMethodSignature arguments trace =
            Traced.ofExcept ((method.run arguments).mapError Failure.remote) (trace ++ events)) ∧
    (∀ request context asked, Dispatcher.Carries request context asked →
      Service.Faulty builder.services asked →
      (builder.services = [] →
        builder.bindings.lookup (Message.typeName RemoteServiceRequest) = none) →
      ∃ failure, ∃ tallies : List Tally,
        (dispatcher.execute request).Gives (.error failure) (tallies.map .counted)) ∧
    ∀ service method asked more request other context,
      Service.Meant builder.services asked service method →
      method.parameters.length ≤ asked.arguments.length →
      Dispatcher.Carries request context asked →
      Dispatcher.Carries other context { asked with arguments := asked.arguments ++ more } →
      dispatcher.execute other = dispatcher.execute request := by
  intro builder dispatcher
  -- A second service for an interface is refused, so each is found by its own.
  have distinct := RegistryBuilder.after_distinct operations
  refine ⟨?_, ?_, ?_⟩
  · intro service offers method declares arguments invoker requestId elapsed address trace decoders
      survive results passes counted inverted
    exact call_of_offered built distinct offers declares (unambiguous service offers) survive
      results passes counted inverted elapsed address
  · intro request context asked carries faulty unhandled
    exact Dispatcher.execute_of_faulty built distinct unambiguous unhandled carries faulty hostLabel
  · intro service method asked more request other context meant enough carries carriesMore
    exact Dispatcher.execute_of_surplus built distinct meant (unambiguous service meant.offers)
      enough carries carriesMore hostLabel

end Invoker

namespace Sample

/-- What is registered at an office; to register a service a second time comes to nothing. -/
def officeOperations : List RegistryBuilder.Operation :=
  [.registerService directory, .registerService catalog, .registerService directory]

/-- A server of names and of titles. -/
def office : Dispatcher where
  registry := {
    bindings := [("wirecall.RemoteServiceRequest", .services [directory, catalog])] }
  hostLabel := "server"

/-- A caller at the office, who compresses requests under tight ceilings. -/
def clerk : Invoker where
  client := {}
  transport := { compression := some .zstd }
  limiter := none
  limits := { messageSize := 318, frameSize := 31, depth := 4 }
  session := sessionOf "bob"
  compressor := framing

/-- The method that picks titles. -/
def picks : Method := catalog.methods.get ⟨3, by decide⟩

/-- The method that fails. -/
def offline : Method := directory.methods.get ⟨2, by decide⟩

/-- The arguments that pick the first one of two titles. -/
def firstPick : Shape.FieldData picks.parameters :=
  (some true, [number .u16 3, number .u16 4], ())

/-- A call of the same method, of which the second argument is no list. -/
def unlistedPick : RemoteServiceRequest where
  interface := "test.Catalog"
  method := "picks"
  arguments := [.bool true, .string "x"]

/-- The first pick once more, with an argument that the method does not ask for. -/
def ampleFirstPick : RemoteServiceRequest :=
  let asked := picks.request "test.Catalog" firstPick
  { asked with arguments := asked.arguments ++ [.string "x"] }

/-- What the clerk asks for arrives, and the office has an answer that the ceilings let through. -/
theorem clerk_letsThrough {request : Value}
    (known : request = Message.toValue (picks.request "test.Catalog" firstPick) ∨
      request = Message.toValue (offline.request "com.example.Directory" ())) :
    clerk.LetsThrough office request "1" [] ∧ clerk.AnswerCounted office request "1" [] := by
  let said := Message.toValue (clerk.envelope request "1")
  have path : (Bytes.ofString clerk.client.endpointPath).length ≤ 0xFFFF := by decide
  have within : said.Within { messageSize := 309, frameSize := 31, depth := 4 } := by
    rcases known with rfl | rfl <;> decide +kernel
  have respected : (clerk.due office request "1" []).Within clerk.limits := by
    rcases known with rfl | rfl <;> decide +kernel
  have answered := encode_of_within respected (by decide)
  have arrives : clerk.Arrives request "1" :=
    arrives_of_framing rfl rfl path rfl within (by decide)
      ⟨Nat.le_refl _, Nat.le_refl _, Nat.le_refl _⟩
  exact ⟨⟨arrives, _, answered⟩,
    .of_encode answered (Nat.le_trans respected.message (by decide))⟩

/-- A title is picked, a failure comes back, and what is wrong or left over is noticed or not. -/
theorem call_inProcess_office :
    RegistryBuilder.build (RegistryBuilder.after officeOperations) = .ok office.registry {} ∧
      (∃ events, Trace.uncounted events = [picks.called "test.Catalog" firstPick] ∧
        clerk.call (clerk.occasion office "1" (.ofSeconds 9)) "host" "test.Catalog"
          picks.toMethodSignature firstPick [] = .ok [number .u16 3] events) ∧
      (∃ events, Trace.uncounted events = [offline.called "com.example.Directory" ()] ∧
        clerk.call (clerk.occasion office "1" (.ofSeconds 9)) "host" "com.example.Directory"
            offline.toMethodSignature () [] =
          .error (.remoteExecution "Custom" "Custom error: directory offline") events) ∧
      (∃ failure, ∃ tallies : List Tally,
        (office.execute (Message.toValue unlistedPick)).Gives (.error failure)
          (tallies.map .counted)) ∧
      office.execute (Message.toValue ampleFirstPick) =
        office.execute (Message.toValue (picks.request "test.Catalog" firstPick)) := by
  have built : RegistryBuilder.build (RegistryBuilder.after officeOperations) =
      .ok office.registry {} := rfl
  have offers : catalog ∈ (RegistryBuilder.after officeOperations).services :=
    List.mem_cons_of_mem _ List.mem_cons_self
  have declares : picks ∈ catalog.methods := List.getElem_mem _
  have offersToo : directory ∈ (RegistryBuilder.after officeOperations).services :=
    List.mem_cons_self
  have declaresToo : offline ∈ directory.methods := List.getElem_mem _
  obtain ⟨reaches, refuses, overlooks⟩ :=
    Invoker.call_inProcess built (by decide) office.hostLabel
  refine ⟨built, ?_, ?_, ?_, ?_⟩
  · obtain ⟨passes, counted⟩ := clerk_letsThrough (.inl rfl)
    refine reaches catalog offers picks declares firstPick clerk "1" (.ofSeconds 9) "host" []
      .standard ⟨rfl, rfl, trivial⟩ ?_ passes counted framing_inverted
    intro result picked
    cases picked
    rfl
  · obtain ⟨passes, counted⟩ := clerk_letsThrough (.inr rfl)
    exact reaches directory offersToo offline declaresToo () clerk "1" (.ofSeconds 9) "host" []
      .standard trivial nofun passes counted framing_inverted
  · refine refuses _ {} unlistedPick ⟨_, rfl, unlistedPick.ofValue_toValue⟩ ?_ nofun
    have meant : Service.Meant _ unlistedPick catalog picks := ⟨offers, rfl, declares, rfl⟩
    exact .unreadable meant (show picks.parameters[1]? = some _ from rfl)
      (show unlistedPick.arguments[1]? = some _ from rfl) rfl
  · exact overlooks catalog picks (picks.request "test.Catalog" firstPick) [.string "x"] _ _ {}
      ⟨offers, rfl, declares, rfl⟩ (by decide) ⟨_, rfl, RemoteServiceRequest.ofValue_toValue _⟩
      ⟨_, rfl, RemoteServiceRequest.ofValue_toValue _⟩

/-- The method that gives a text. -/
def motto (text : String) : Method where
  name := "motto"
  parameters := []
  result := .string
  run := fun () => .ok text

/-- A service with one method. -/
def mottoes (text : String) : Service where
  interface := "test.Mottoes"
  methods := [motto text]

/-- A server that offers it. -/
def mottoServer (text hostLabel : String) : Dispatcher where
  registry := { bindings := [("wirecall.RemoteServiceRequest", .services [mottoes text])] }
  hostLabel

/-- A call of the method. -/
def mottoSent : Value := Message.toValue ((motto "").request "test.Mottoes" ())

/-- What is sent does not depend on the text. -/
theorem mottoSent_eq (text : String) :
    Message.toValue ((motto text).request "test.Mottoes" ()) = mottoSent := rfl

/-- The call arrives wherever its envelope can be encoded, with a little room. -/
theorem motto_arrives {limits : Limits}
    (below : Limits.Below { messageSize := 309, frameSize := 31, depth := 3 } limits) :
    Invoker.Arrives { clerk with limits } mottoSent "1" := by
  let said := Message.toValue (clerk.envelope mottoSent "1")
  have path : (Bytes.ofString ({} : ClientSettings).endpointPath).length ≤ 0xFFFF := by decide
  have within : said.Within { messageSize := 300, frameSize := 31, depth := 3 } := by
    decide +kernel
  exact arrives_of_framing rfl rfl path rfl within (by decide) below

/-- The method is called, wherever it is offered, and its text is the answer. -/
theorem exists_gives_of_motto (text hostLabel : String) (context : Context) :
    ∃ events, ((mottoServer text hostLabel).answer context mottoSent).Gives (.ok (.string text))
      events := by
  let builder := RegistryBuilder.after [.registerService (mottoes text)]
  have distinct : builder.Distinct := RegistryBuilder.after_distinct _
  have offers : mottoes text ∈ builder.services := List.mem_singleton.mpr rfl
  have declares : motto text ∈ (mottoes text).methods := List.mem_singleton.mpr rfl
  have unambiguous : (mottoes text).Unambiguous := List.pairwise_singleton ..
  have survive : Service.AllSurvive (motto text).parameters () := trivial
  have invoked := Invoker.invoke_gives_of_offered distinct offers declares unambiguous survive
    context
  obtain ⟨tallies, gives⟩ := (mottoServer text hostLabel).answer_gives
    (show mottoSent.objectType? = some "wirecall.RemoteServiceRequest" from rfl) rfl invoked
  exact ⟨_, gives⟩

/-- A server without services, where a handler takes the requests that are meant for them. -/
def hijacked : Dispatcher where
  registry := { bindings := [("wirecall.RemoteServiceRequest", .ordinary hijack)] }
  hostLabel := "server"

/-- A call under an interface that nobody offers. -/
def strayCall : RemoteServiceRequest where
  interface := "x"
  method := "y"
  arguments := []

/--
A call may fail although the method gave a result, and succeed although nobody offers it.

The response may pass a ceiling only once it is in its envelope, and it may be longer than a frame
can tell; and a handler may take the place of the services.
-/
theorem call_inProcess_beyond :
    let distant : Invoker := { clerk with limits := distantLimits }
    let roomy : Invoker := { clerk with limits := roomyLimits }
    let far := mottoServer "x" (zeros 65)
    let text := zeros 0xFFFFFFFF
    (RegistryBuilder.build (RegistryBuilder.after [.registerService (mottoes "x")]) =
        .ok far.registry {} ∧
      distant.Arrives mottoSent "1" ∧
      encode (.string "x") distantLimits = .ok (Value.string "x").image ∧
      (motto "x").run () = .ok "x" ∧
      ∃ final,
        distant.call (distant.occasion far "1" (.ofSeconds 9)) "host" "test.Mottoes"
            (motto "x").toMethodSignature () [] =
          .error (.remoteExecution "LimitExceeded" "max frame size exceeded: 65 > 64") final) ∧
    (RegistryBuilder.build (RegistryBuilder.after [.registerService (mottoes text)]) =
        .ok (mottoServer text "server").registry {} ∧
      roomy.Arrives mottoSent "1" ∧
      (∃ answer, encode (roomy.due (mottoServer text "server") mottoSent "1" []) roomyLimits =
        .ok answer) ∧
      (motto text).run () = .ok text ∧
      ∃ final,
        roomy.call (roomy.occasion (mottoServer text "server") "1" (.ofSeconds 9)) "host"
            "test.Mottoes" (motto text).toMethodSignature () [] =
          .error (.limitExceeded .messageSize 0xFFFFFFFF 0x100000057) final) ∧
    RegistryBuilder.build (RegistryBuilder.after [.register (.ordinary hijack)]) =
        .ok hijacked.registry {} ∧
      Service.Faulty (RegistryBuilder.after [.register (.ordinary hijack)]).services strayCall ∧
      Dispatcher.Carries (Message.toValue strayCall) {} strayCall ∧
      ∃ final,
        hijacked.execute (Message.toValue strayCall) [] = .ok (.string "hijacked x.y") final := by
  intro distant roomy far text
  refine ⟨?_, ?_, ?_⟩
  · have arrives : distant.Arrives mottoSent "1" := motto_arrives ⟨by decide, by decide, by decide⟩
    -- The name of the host is the only text that is too long.
    have refused : encode (distant.due far mottoSent "1" []) distant.limits =
        .error (.limitExceeded .frameSize 64 65) := by
      decide +kernel
    have told := encode_of_within told_within (by decide)
    have within : (Value.string "x").Within distantLimits := by decide
    obtain ⟨events, gives⟩ := exists_gives_of_motto "x" (zeros 65) _
    obtain ⟨final, posted⟩ := arrives.post_of_refused gives framing_inverted refused told
      (Nat.le_trans told_within.message (by decide)) (.ofSeconds 9) "host"
    exact ⟨rfl, arrives, encode_of_within within (by decide), rfl, _,
      Invoker.call_of_failure posted⟩
  · have arrives : roomy.Arrives mottoSent "1" := motto_arrives ⟨by decide, by decide, by decide⟩
    -- Nothing depends on the text but its length.
    have long : (Bytes.ofString text).length = 0xFFFFFFFF := length_zeros _
    generalize text = text at long ⊢
    obtain ⟨events, gives⟩ := exists_gives_of_motto text "server" _
    have size : (Value.string text).wire.length = 0x100000004 := by
      simp only [Value.wire, Value.wireOfString, List.length_cons, List.length_append,
        Bytes.length_ofNatBE, long]
    have items : ∀ count ∈ (Value.string text).lengths, count ≤ 0xFFFFFFFF := by
      simp [Value.lengths, long]
    obtain ⟨encoded, final, posted⟩ := post_of_long_response rfl arrives framing_inverted gives rfl
      rfl (by rw [size]; decide) (by rw [size]; decide) items (Nat.zero_le _) (.ofSeconds 9) "host"
      []
    rw [size] at posted
    rw [← mottoSent_eq text] at posted
    exact ⟨rfl, arrives, encoded, rfl, _, Invoker.call_of_failure posted⟩
  · exact ⟨rfl, .unknownInterface nofun, ⟨_, rfl, strayCall.ofValue_toValue⟩, _, rfl⟩

end Sample

end RemoteCall
