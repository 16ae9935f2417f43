import RemoteCall.Proofs.Server.Recording
import RemoteCall.Server.Registry

/-! The courses that the invocation of a handler can take, with what each comes to and records. -/

namespace RemoteCall

/-- What answers a request that a check refuses. -/
def Verdict.refusal : Verdict → Option Value
  | .authorized => none
  | .notAuthorized message => some (Message.toValue ({ message } : UserNotAuthorized))
  | .notAuthenticated message => some (Message.toValue ({ message } : UserNotAuthenticated))

/-- Only a check that says yes comes without a refusal. -/
theorem Verdict.eq_authorized_of_refusal {verdict : Verdict} (allowed : verdict.refusal = none) :
    verdict = .authorized := by
  cases verdict with
  | authorized => rfl
  | _ => cases allowed

/-- The call that a privileged handler makes of a request, with its subject. -/
def PrivilegedHandler.call (handler : PrivilegedHandler) (context : Context)
    (data : handler.request.Data) : Call :=
  ⟨⟨handler.request, data⟩, { context with subject := handler.subject context data }⟩

/-- What a privileged handler says to such a call. -/
def PrivilegedHandler.verdict (handler : PrivilegedHandler) (context : Context)
    (data : handler.request.Data) : Verdict :=
  handler.authorize (handler.call context data).context data

namespace Handler

/-- How the invocation of a handler can go. -/
inductive Course (context : Context) (request : Value) :
    Handler → Except Failure Value → List Event → Prop where
  /-- The request is not one that an ordinary handler can read. -/
  | unread {handler : OrdinaryHandler} {failure : Failure}
      (illegible : handler.request.ofValue request = .error failure) :
      Course context request (.ordinary handler) (.error failure) []
  /-- The request is not one that a privileged handler can read, and so is not checked. -/
  | unchecked {handler : PrivilegedHandler} {failure : Failure}
      (illegible : handler.request.ofValue request = .error failure) :
      Course context request (.privileged handler) (.error failure) []
  /-- The request is for no method that is offered, or not for its arguments. -/
  | uncalled {offered : List Service} {failure : Failure} :
      Course context request (.services offered) (.error failure) []
  /-- Anyone may make the request. -/
  | ordinary {handler : OrdinaryHandler} {data : handler.request.Data}
      (read : handler.request.ofValue request = .ok data) :
      Course context request (.ordinary handler)
        ((handler.handle context data).map handler.response.toResponse)
        [.ran ⟨⟨handler.request, data⟩, context⟩]
  /-- The check says no, which is the answer. -/
  | refused {handler : PrivilegedHandler} {data : handler.request.Data} {refusal : Value}
      (read : handler.request.ofValue request = .ok data)
      (denied : (handler.verdict context data).refusal = some refusal) :
      Course context request (.privileged handler) (.ok refusal)
        [.probed (handler.call context data) (handler.verdict context data),
          .counted .authorizationDenied]
  /-- The check says yes, and then the request is executed. -/
  | permitted {handler : PrivilegedHandler} {data : handler.request.Data}
      (read : handler.request.ofValue request = .ok data)
      (allowed : handler.verdict context data = .authorized) :
      Course context request (.privileged handler)
        ((handler.handle (handler.call context data).context data).map fun result =>
          Message.toValue ({ response := handler.response.toResponse result, updatedData := none } :
            SuccessfulExecution))
        [.probed (handler.call context data) .authorized, .ran (handler.call context data)]
  /-- A method is called. -/
  | called {offered : List Service} {outcome : Except Failure Value} {interface method : String}
      {arguments : Typed} :
      Course context request (.services offered) outcome [.called interface method arguments]

variable {context : Context} {request : Value}

/-- An ordinary handler reads a request and answers it. -/
theorem exists_course_ordinary (handler : OrdinaryHandler) :
    ∃ outcome events, Course context request (.ordinary handler) outcome events ∧
      (handler.invoke context request).Gives outcome events := by
  unfold OrdinaryHandler.invoke
  cases read : handler.request.ofValue request with
  | error failure => exact ⟨_, _, .unread read, (Traced.Gives.ofExcept _).bind_error⟩
  | ok data =>
    refine ⟨_, _, .ordinary read, (Traced.Gives.ofExcept _).bind ?_⟩
    exact (Traced.Gives.record _).bind ((Traced.Gives.ofExcept _).bind_pure _)

end Handler

namespace PrivilegedHandler

variable {handler : PrivilegedHandler} {context : Context} {request : Value}
  {data : handler.request.Data}

/-- What follows the check of a call. -/
def proceed (handler : PrivilegedHandler) (context : Context) (data : handler.request.Data) :
    Verdict → Traced Value
  | .notAuthorized message => do
    tally .authorizationDenied
    return Message.toValue ({ message } : UserNotAuthorized)
  | .notAuthenticated message => do
    tally .authorizationDenied
    return Message.toValue ({ message } : UserNotAuthenticated)
  | .authorized => do
    record (.ran (handler.call context data))
    let result ← Traced.ofExcept (handler.handle (handler.call context data).context data)
    let response := handler.response.toResponse result
    return Message.toValue ({ response, updatedData := none } : SuccessfulExecution)

/-- A request that was read is checked first, and what follows depends on the check. -/
theorem invoke_of_read (read : handler.request.ofValue request = .ok data) :
    handler.invoke context request =
      (do
        record (.probed (handler.call context data) (handler.verdict context data))
        handler.proceed context data (handler.verdict context data)) := by
  simp only [invoke, read]
  rfl

/-- After a check that says no, only the refusal is counted and given. -/
theorem proceed_of_refusal {verdict : Verdict} {refusal : Value}
    (denied : verdict.refusal = some refusal) :
    (handler.proceed context data verdict).Gives (.ok refusal) [.counted .authorizationDenied] := by
  cases verdict with
  | authorized => cases denied
  | notAuthorized message =>
    cases denied
    exact (Traced.Gives.record _).bind (.pure _)
  | notAuthenticated message =>
    cases denied
    exact (Traced.Gives.record _).bind (.pure _)

/-- After a check that says yes, the body runs, and its result is the answer. -/
theorem proceed_authorized :
    (handler.proceed context data .authorized).Gives
      ((handler.handle (handler.call context data).context data).map fun result =>
        Message.toValue ({ response := handler.response.toResponse result, updatedData := none } :
          SuccessfulExecution))
      [.ran (handler.call context data)] :=
  (Traced.Gives.record _).bind ((Traced.Gives.ofExcept _).bind_pure _)

end PrivilegedHandler

namespace Service

variable {service : Service} {method : Method} {values : List Value}

/-- A method whose arguments can be read is called on them, and on nothing else. -/
theorem call_gives {arguments : Shape.FieldData method.parameters}
    (taken : takeArguments service.interface method.name method.parameters values =
      .ok arguments) :
    (service.call method values).Gives ((method.run arguments).map method.result.toResponse)
      [.called service.interface method.name
        ⟨.record method.name (service.interface ++ "." ++ method.name) method.parameters,
          arguments⟩] := by
  simp only [call, taken]
  refine (Traced.Gives.ofExcept (.ok arguments)).bind ?_
  exact (Traced.Gives.record _).bind ((Traced.Gives.ofExcept _).bind_pure _)

/-- A method whose arguments cannot be read is not called. -/
theorem call_silent {failure : Failure}
    (unread : takeArguments service.interface method.name method.parameters values =
      .error failure) :
    (service.call method values).Gives (.error failure) [] := by
  simp only [call, unread]
  exact (Traced.Gives.ofExcept _).bind_error

end Service

namespace Handler

variable {context : Context} {request : Value}

/-- A privileged handler asks for authorization before anything else. -/
theorem exists_course_privileged (handler : PrivilegedHandler) :
    ∃ outcome events, Course context request (.privileged handler) outcome events ∧
      (handler.invoke context request).Gives outcome events := by
  cases read : handler.request.ofValue request with
  | error failure =>
    refine ⟨.error failure, [], .unchecked read, ?_⟩
    unfold PrivilegedHandler.invoke
    rw [read]
    exact (Traced.Gives.ofExcept _).bind_error
  | ok data =>
    rw [PrivilegedHandler.invoke_of_read read]
    cases denied : (handler.verdict context data).refusal with
    | some refusal =>
      refine ⟨_, _, .refused read denied, (Traced.Gives.record _).bind ?_⟩
      exact PrivilegedHandler.proceed_of_refusal denied
    | none =>
      have allowed := Verdict.eq_authorized_of_refusal denied
      refine ⟨_, _, .permitted read allowed, ?_⟩
      rw [allowed]
      exact (Traced.Gives.record _).bind PrivilegedHandler.proceed_authorized

/-- A service calls at most one method. -/
theorem exists_course_method (offered : List Service) (service : Service) (name : String)
    (values : List Value) :
    ∃ outcome events, Course context request (.services offered) outcome events ∧
      (service.invoke name values).Gives outcome events := by
  unfold Service.invoke
  cases service.methods.find? (·.name == name) with
  | none => exact ⟨_, _, .uncalled, .throw _⟩
  | some method =>
    cases taken : Service.takeArguments service.interface method.name method.parameters values with
    | error failure => exact ⟨_, _, .uncalled, Service.call_silent taken⟩
    | ok arguments => exact ⟨_, _, .called, Service.call_gives taken⟩

/-- Services call at most one method among them. -/
theorem exists_course_services (offered : List Service) :
    ∃ outcome events, Course context request (.services offered) outcome events ∧
      (Service.route offered request).Gives outcome events := by
  unfold Service.route
  cases (Message.ofValue request : Except Failure RemoteServiceRequest) with
  | error failure => exact ⟨_, _, .uncalled, (Traced.Gives.ofExcept _).bind_error⟩
  | ok asked =>
    cases found : offered.find? (·.interface == asked.interface) with
    | none =>
      refine ⟨.error (.unknownService asked.interface), [], .uncalled, ?_⟩
      refine (Traced.Gives.ofExcept (.ok asked)).bind ?_
      simp only [found]
      exact .throw _
    | some service =>
      obtain ⟨outcome, events, course, gives⟩ :=
        exists_course_method offered service asked.method asked.arguments
      refine ⟨outcome, events, course, (Traced.Gives.ofExcept (.ok asked)).bind ?_⟩
      simpa only [found] using gives

/-- Whatever a handler is asked, its invocation takes one of the courses. -/
theorem exists_course (handler : Handler) (context : Context) (request : Value) :
    ∃ outcome events, Course context request handler outcome events ∧
      (handler.invoke context request).Gives outcome events := by
  cases handler with
  | ordinary handler => exact exists_course_ordinary handler
  | privileged handler => exact exists_course_privileged handler
  | services offered => exact exists_course_services offered

end Handler

end RemoteCall
