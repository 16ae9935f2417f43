import RemoteCall.Proofs.Message
import RemoteCall.Proofs.Server.Building
import RemoteCall.Proofs.Server.Gating
import RemoteCall.Proofs.Typed

/-! Calls of methods reach the method that they name, or none at all. -/

namespace RemoteCall

/-- Where no two items have one key, each is found by its own. -/
theorem find?_eq_some_of_nodup {α : Type} {key : α → String} {items : List α}
    (distinct : (items.map key).Nodup) {item : α} (member : item ∈ items) :
    items.find? (key · == key item) = some item := by
  induction items with
  | nil => cases member
  | cons first items ih =>
    obtain ⟨fresh, distinct⟩ := List.nodup_cons.mp distinct
    rcases List.mem_cons.mp member with rfl | member
    · simp
    · -- The first item has another key, as that of the item occurs behind it.
      have other : (key first == key item) = false := by
        rw [beq_eq_false_iff_ne]
        intro same
        exact fresh (same ▸ List.mem_map_of_mem member)
      rw [List.find?_cons, other]
      exact ih distinct member

namespace Service

/-- A call names a method of an interface that is offered. -/
structure Meant (offered : List Service) (asked : RemoteServiceRequest) (service : Service)
    (method : Method) : Prop where
  offers : service ∈ offered
  interface : service.interface = asked.interface
  declares : method ∈ service.methods
  method : method.name = asked.method

/-- What can be wrong with a call. -/
inductive Faulty (offered : List Service) (asked : RemoteServiceRequest) : Prop where
  /-- Nothing is offered under its interface. -/
  | unknownInterface (unknown : ∀ service ∈ offered, service.interface ≠ asked.interface)
  /-- The interface does not declare its method. -/
  | undeclared {service : Service} (offers : service ∈ offered)
      (interface : service.interface = asked.interface)
      (unknown : ∀ method ∈ service.methods, method.name ≠ asked.method)
  /-- There are fewer arguments than parameters. -/
  | tooFew {service : Service} {method : Method} (meant : Meant offered asked service method)
      (short : asked.arguments.length < method.parameters.length)
  /-- The argument in the place of a parameter cannot be read. -/
  | unreadable {service : Service} {method : Method} (meant : Meant offered asked service method)
      {place : Nat} {parameter : String × Shape} {value : Value} {failure : Failure}
      (expected : method.parameters[place]? = some parameter)
      (given : asked.arguments[place]? = some value)
      (illegible : parameter.2.ofValue value = .error failure)

/-- No method of a service shares its name with another one. -/
def Unambiguous (service : Service) : Prop := (service.methods.map fun method => method.name).Nodup

instance (service : Service) : Decidable service.Unambiguous :=
  inferInstanceAs (Decidable (List.Nodup _))

/-- Arguments read back one by one. -/
def AllSurvive : (parameters : List (String × Shape)) → Shape.FieldData parameters → Prop
  | [], () => True
  | (_, shape) :: parameters, (data, rest) => shape.Survives data ∧ AllSurvive parameters rest

variable {interface method : String} {parameters : List (String × Shape)} {values more : List Value}

/-- An argument that cannot be read is the end of it. -/
theorem takeArguments_of_unread {name : String} {shape : Shape} {value : Value} {failure : Failure}
    (illegible : shape.ofValue value = .error failure) :
    takeArguments interface method ((name, shape) :: parameters) (value :: values) =
      .error failure := by
  rw [takeArguments, illegible]
  rfl

/-- An argument that can be read is followed by the others. -/
theorem takeArguments_of_read {name : String} {shape : Shape} {value : Value} {data : shape.Data}
    (read : shape.ofValue value = .ok data) :
    takeArguments interface method ((name, shape) :: parameters) (value :: values) =
      (takeArguments interface method parameters values).map (data, ·) := by
  rw [takeArguments, read]
  cases takeArguments interface method parameters values with
  | ok rest => rfl
  | error failure => rfl

/-- Arguments that are left over do not matter. -/
theorem takeArguments_append (enough : parameters.length ≤ values.length) :
    takeArguments interface method parameters (values ++ more) =
      takeArguments interface method parameters values := by
  -- Each parameter takes one of the arguments that are enough for all of them.
  induction parameters generalizing values with
  | nil => rfl
  | cons parameter parameters ih =>
    obtain ⟨name, shape⟩ := parameter
    cases values with
    | nil => simp at enough
    | cons value values =>
      have others := ih (show parameters.length ≤ values.length by simpa using enough)
      rw [List.cons_append]
      cases read : shape.ofValue value with
      | error failure => rw [takeArguments_of_unread read, takeArguments_of_unread read]
      | ok data => rw [takeArguments_of_read read, takeArguments_of_read read, others]

/-- There is no reading fewer arguments than parameters. -/
theorem exists_error_of_short (short : values.length < parameters.length) :
    ∃ failure, takeArguments interface method parameters values = .error failure := by
  induction parameters generalizing values with
  | nil => simp at short
  | cons parameter parameters ih =>
    obtain ⟨name, shape⟩ := parameter
    cases values with
    | nil => exact ⟨_, rfl⟩
    | cons value values =>
      -- An argument that cannot be read is noticed before those that are missing.
      cases read : shape.ofValue value with
      | error cause => exact ⟨cause, takeArguments_of_unread read⟩
      | ok data =>
        have still : values.length < parameters.length := by simpa using short
        obtain ⟨failure, missing⟩ := ih still
        exact ⟨failure, by rw [takeArguments_of_read read, missing]; rfl⟩

/-- There is no reading arguments of which one cannot be read. -/
theorem exists_error_of_unreadable {place : Nat} {parameter : String × Shape} {value : Value}
    {failure : Failure} (expected : parameters[place]? = some parameter)
    (given : values[place]? = some value) (illegible : parameter.2.ofValue value = .error failure) :
    ∃ failure, takeArguments interface method parameters values = .error failure := by
  induction parameters generalizing values place with
  | nil => simp at expected
  | cons first parameters ih =>
    obtain ⟨name, shape⟩ := first
    cases values with
    | nil => exact ⟨_, rfl⟩
    | cons head values =>
      cases read : shape.ofValue head with
      | error cause => exact ⟨cause, takeArguments_of_unread read⟩
      | ok data =>
        -- The first argument can be read, so the place is one of those behind it.
        cases place with
        | zero =>
          cases Option.some.inj expected
          cases Option.some.inj given
          cases read.symm.trans illegible
        | succ place =>
          rw [List.getElem?_cons_succ] at expected given
          obtain ⟨cause, later⟩ := ih expected given
          exact ⟨cause, by rw [takeArguments_of_read read, later]; rfl⟩

variable {offered : List Service} {asked : RemoteServiceRequest} {request : Value}

/-- A call reaches the method that it names. -/
theorem route_of_meant (distinct : (offered.map (·.interface)).Nodup)
    (read : Message.ofValue request = .ok asked) {service : Service} {method : Method}
    (meant : Meant offered asked service method) (unambiguous : service.Unambiguous) :
    route offered request = service.call method asked.arguments := by
  have found := find?_eq_some_of_nodup distinct meant.offers
  have declared := find?_eq_some_of_nodup unambiguous meant.declares
  rw [meant.interface] at found
  rw [meant.method] at declared
  funext trace
  simp only [route, read, run_bind, run_ofExcept, found, Service.invoke, declared]

/-- A faulty call reaches no method. -/
theorem route_of_faulty (distinct : (offered.map (·.interface)).Nodup)
    (unambiguous : ∀ service ∈ offered, service.Unambiguous)
    (read : Message.ofValue request = .ok asked) (faulty : Faulty offered asked) :
    ∃ failure, (route offered request).Gives (.error failure) [] := by
  cases faulty with
  | unknownInterface unknown =>
    have missing : offered.find? (·.interface == asked.interface) = none := by
      simpa using unknown
    refine ⟨.unknownService asked.interface, fun trace => ?_⟩
    simp [route, read, missing]
  | @undeclared service offers interface unknown =>
    have found := find?_eq_some_of_nodup distinct offers
    have missing : service.methods.find? (·.name == asked.method) = none := by
      simpa using unknown
    rw [interface] at found
    refine ⟨.unknownService (service.interface ++ "." ++ asked.method), fun trace => ?_⟩
    simp [route, read, found, Service.invoke, missing]
  | tooFew meant short =>
    obtain ⟨failure, unread⟩ := exists_error_of_short short
    rw [route_of_meant distinct read meant (unambiguous _ meant.offers)]
    exact ⟨failure, call_silent unread⟩
  | unreadable meant expected given illegible =>
    obtain ⟨failure, unread⟩ := exists_error_of_unreadable expected given illegible
    rw [route_of_meant distinct read meant (unambiguous _ meant.offers)]
    exact ⟨failure, call_silent unread⟩

/-- A method is called on as many arguments as it has parameters. -/
theorem call_append {service : Service} {method : Method} {values more : List Value}
    (enough : method.parameters.length ≤ values.length) :
    service.call method (values ++ more) = service.call method values := by
  simp only [call, takeArguments_append enough]

end Service

namespace Dispatcher

/-- A request asks for a call of a method in some context, in an envelope or without one. -/
def Carries (request : Value) (context : Context) (asked : RemoteServiceRequest) : Prop :=
  -- Any value that can be read as such a call is one.
  ∃ inner, opened request = .ok (context, inner) ∧ Message.ofValue inner = .ok asked

/-- Only what came in an envelope has a session. -/
theorem isTagged_eq_of_opened {request inner : Value} {context : Context}
    (came : opened request = .ok (context, inner)) :
    Message.isTagged SessionEnvelope request = context.session.isSome := by
  rcases cases_of_opened came with ⟨_, wrapped, _, _, rfl⟩ | ⟨bare, _, rfl⟩
  · exact wrapped
  · simpa using bare

variable {builder left : RegistryBuilder} {registry : Registry} {request other : Value}
  {context : Context} {asked : RemoteServiceRequest} {more : List Value}

/-- A faulty call fails, and nothing happens but counting. -/
theorem execute_of_faulty (built : RegistryBuilder.build builder = .ok registry left)
    (distinct : builder.Distinct) (unambiguous : ∀ service ∈ builder.services, service.Unambiguous)
    (unhandled : builder.services = [] →
      builder.bindings.lookup (Message.typeName RemoteServiceRequest) = none)
    (carries : Carries request context asked) (faulty : Service.Faulty builder.services asked)
    (hostLabel : String) :
    ∃ failure, ∃ tallies : List Tally,
      (execute { registry, hostLabel } request).Gives (.error failure) (tallies.map .counted) := by
  obtain ⟨inner, came, read⟩ := carries
  have tagged := Message.objectType?_of_ofValue read
  by_cases nothing : builder.services = []
  · -- Without services, such calls have no handler.
    have missing := RegistryBuilder.resolve_services_of_build_none built nothing (unhandled nothing)
    have unanswered : ∃ failure, (answer { registry, hostLabel } context inner).Gives
        (.error failure) [] := by
      refine answer_silent context inner fun typeName handler taggedToo found => ?_
      cases tagged.symm.trans taggedToo
      cases missing.symm.trans found
    obtain ⟨failure, silent⟩ := unanswered
    exact ⟨failure, [], execute_gives came silent⟩
  · have found := RegistryBuilder.resolve_services_of_build built nothing
    obtain ⟨failure, silent⟩ := Service.route_of_faulty distinct unambiguous read faulty
    have invoked : (Handler.invoke (.services builder.services) context inner).Gives
        (.error failure) [] := silent
    obtain ⟨tallies, answered⟩ := answer_gives { registry, hostLabel } tagged found invoked
    exact ⟨failure, .dispatched :: tallies, execute_gives came answered⟩

/-- Arguments that are left over change nothing. -/
theorem execute_of_surplus (built : RegistryBuilder.build builder = .ok registry left)
    (distinct : builder.Distinct) {service : Service} {method : Method}
    (meant : Service.Meant builder.services asked service method)
    (unambiguous : service.Unambiguous)
    (enough : method.parameters.length ≤ asked.arguments.length)
    (carries : Carries request context asked)
    (carriesMore : Carries other context { asked with arguments := asked.arguments ++ more })
    (hostLabel : String) :
    execute { registry, hostLabel } other = execute { registry, hostLabel } request := by
  obtain ⟨inner, came, read⟩ := carries
  obtain ⟨innerMore, cameMore, readMore⟩ := carriesMore
  have present : builder.services ≠ [] := List.ne_nil_of_mem meant.offers
  have found := RegistryBuilder.resolve_services_of_build built present
  -- Both calls reach the method, which takes no more arguments than it has parameters.
  have same : Handler.invoke (.services builder.services) context innerMore =
      Handler.invoke (.services builder.services) context inner := by
    change Service.route _ _ = Service.route _ _
    rw [Service.route_of_meant distinct read meant unambiguous,
      Service.route_of_meant distinct readMore { meant with } unambiguous]
    exact Service.call_append enough
  have answered : answer { registry, hostLabel } context innerMore =
      answer { registry, hostLabel } context inner := by
    funext trace
    simp only [answer, Message.objectType?_of_ofValue read, Message.objectType?_of_ofValue readMore,
      found, run_bind, run_ofExcept, same]
  -- Requests of one context came in one form.
  have formed : Message.isTagged SessionEnvelope other = Message.isTagged SessionEnvelope request :=
    (isTagged_eq_of_opened cameMore).trans (isTagged_eq_of_opened came).symm
  rw [execute_eq_of_opened came, execute_eq_of_opened cameMore, answered]
  simp only [returned, formed]

end Dispatcher

end RemoteCall
