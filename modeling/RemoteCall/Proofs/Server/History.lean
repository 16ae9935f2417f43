import RemoteCall.Proofs.Server.Gating

/-! What a builder holds is told from what was done with it, and so is what building comes to. -/

namespace RemoteCall

/-- The type of the requests that call methods. -/
abbrev callType : String := Message.typeName RemoteServiceRequest

namespace RegistryBuilder

namespace Operation

/-- The handler that an operation is to bind to a request type. -/
def handler? (typeName : String) : Operation → Option Handler
  | .register handler => if handler.requestType = typeName then some handler else none
  | _ => none

/-- The service that an operation is to offer under an interface. -/
def service? (interface : String) : Operation → Option Service
  | .registerService service => if service.interface = interface then some service else none
  | _ => none

/-- The request type that an operation requires. -/
def requirement? : Operation → Option String
  | .require typeName => some typeName
  | _ => none

/-- Whether an operation is to offer a service. -/
def isService : Operation → Bool
  | .registerService _ => true
  | _ => false

end Operation

/-- The handler that was registered first for a request type. -/
def firstHandler (operations : List Operation) (typeName : String) : Option Handler :=
  operations.findSome? (Operation.handler? typeName)

/-- The service that was registered first for an interface. -/
def firstService (operations : List Operation) (interface : String) : Option Service :=
  operations.findSome? (Operation.service? interface)

/-- What was required, in order. -/
def requirements (operations : List Operation) : List String :=
  operations.filterMap Operation.requirement?

/-- The handler that answers a request type; where there are services, it is they for calls. -/
def bound (operations : List Operation) (offered : List Service) (typeName : String) :
    Option Handler :=
  -- A handler of one's own comes before the services, which then let no registry be built.
  (firstHandler operations typeName).or
    (if typeName = callType ∧ operations.any Operation.isService then some (.services offered)
      else none)

/-- Whether a request type is answered does not depend on which services there are. -/
theorem isNone_bound (operations : List Operation) (offered : List Service) (typeName : String) :
    (bound operations offered typeName).isNone = (bound operations [] typeName).isNone := by
  unfold bound
  by_cases calls : typeName = callType ∧ operations.any Operation.isService = true
  · simp only [if_pos calls, Option.isNone_or, Option.isNone_some]
  · simp only [if_neg calls]

/-- The first request type that was required and that nothing answers. -/
def firstUnserved (operations : List Operation) : Option String :=
  (requirements operations).find? fun typeName => (bound operations [] typeName).isNone

/-- There are services, and a handler of one's own would answer the same calls of methods. -/
def Doubled (operations : List Operation) : Prop :=
  operations.any Operation.isService = true ∧ (firstHandler operations callType).isSome = true

instance (operations : List Operation) : Decidable (Doubled operations) :=
  inferInstanceAs (Decidable (_ ∧ _))

/-- There is a service among the operations exactly if one is first for some interface. -/
theorem any_isService_iff {operations : List Operation} :
    operations.any Operation.isService = true ↔
      ∃ interface, (firstService operations interface).isSome = true := by
  -- What is registered as a service is first for its interface, or something before it is.
  simp only [firstService, List.any_eq_true, List.findSome?_isSome_iff]
  constructor
  · rintro ⟨operation, member, offers⟩
    cases operation with
    | registerService service =>
      exact ⟨service.interface, .registerService service, member, by simp [Operation.service?]⟩
    | _ => cases offers
  · rintro ⟨interface, operation, member, found⟩
    refine ⟨operation, member, ?_⟩
    cases operation with
    | registerService service => rfl
    | _ => cases found

/-- What is refused where there is one before it fails exactly there, and changes nothing. -/
theorem refused_eq_error_iff {taken : Bool} {refusal failure : Failure}
    {builder added left : RegistryBuilder} :
    (if taken then (.error refusal builder : EStateM.Result Failure RegistryBuilder Unit)
      else .ok () added) = .error failure left ↔
        taken = true ∧ failure = refusal ∧ left = builder := by
  cases taken with
  | false => simp
  | true =>
    simp only [if_true, EStateM.Result.error.injEq, true_and]
    exact and_congr eq_comm eq_comm

/-- What a builder becomes by some operations, of which any may fail. -/
def further (builder : RegistryBuilder) (operations : List Operation) : RegistryBuilder :=
  operations.foldl (fun builder operation => stateAfter (operation.run builder)) builder

/-- A history is told from its end. -/
theorem after_append (before operations : List Operation) :
    after (before ++ operations) = further (after before) operations :=
  List.foldl_append

/-- A builder has what it had before, and of the operations since then what was new. -/
structure Adds (before : RegistryBuilder) (operations : List Operation)
    (builder : RegistryBuilder) : Prop where
  /-- A binding stays, and else the first handler of a request type is bound to it. -/
  handlers : ∀ typeName, builder.bindings.lookup typeName =
    (before.bindings.lookup typeName).or (firstHandler operations typeName)
  /-- So it is for services and their interfaces. -/
  services : ∀ interface, builder.services.find? (·.interface == interface) =
    (before.services.find? (·.interface == interface)).or (firstService operations interface)
  /-- All requirements add up. -/
  required : builder.required = before.required ++ requirements operations

namespace Adds

variable {before between builder : RegistryBuilder} {operations more : List Operation}

/-- Without operations, nothing is new. -/
theorem refl (builder : RegistryBuilder) : Adds builder [] builder where
  handlers _ := (Option.or_none).symm
  services _ := (Option.or_none).symm
  required := (List.append_nil _).symm

/-- What was new stays, when more is added. -/
theorem trans (adds : Adds before operations between) (addsMore : Adds between more builder) :
    Adds before (operations ++ more) builder where
  -- The first of all is found before, else on the way, else in what comes last.
  handlers typeName := by
    rw [addsMore.handlers, adds.handlers, Option.or_assoc, firstHandler, firstHandler,
      firstHandler, List.findSome?_append]
  services interface := by
    rw [addsMore.services, adds.services, Option.or_assoc, firstService, firstService,
      firstService, List.findSome?_append]
  required := by
    rw [addsMore.required, adds.required, List.append_assoc, requirements, requirements,
      requirements, List.filterMap_append]

/-- A handler is bound to its request type, unless there is one before it. -/
theorem of_register (handler : Handler) :
    Adds builder [.register handler] (stateAfter (RegistryBuilder.register handler builder)) := by
  rw [register_eq]
  cases found : builder.bindings.lookup handler.requestType with
  | some earlier =>
    refine ⟨fun typeName => ?_, fun _ => (Option.or_none).symm, (List.append_nil _).symm⟩
    -- The one handler that could be new is refused, as its request type has one.
    by_cases same : handler.requestType = typeName
    · subst same
      simp [stateAfter, found]
    · simp [stateAfter, firstHandler, Operation.handler?, same]
  | none =>
    refine ⟨fun typeName => ?_, fun _ => (Option.or_none).symm, (List.append_nil _).symm⟩
    -- The new binding comes last, so that it is found only where there was none.
    simp only [stateAfter, Option.isSome_none, Bool.false_eq_true, if_false, List.lookup_append]
    congr 1
    by_cases same : handler.requestType = typeName
    · simp [firstHandler, Operation.handler?, same]
    · simp [firstHandler, Operation.handler?, same, Ne.symm same]

/-- A service is offered under its interface, unless there is one before it. -/
theorem of_registerService (service : Service) :
    Adds builder [.registerService service]
      (stateAfter (RegistryBuilder.registerService service builder)) := by
  rw [registerService_eq, ← List.isSome_find?]
  cases found : builder.services.find? (·.interface == service.interface) with
  | some earlier =>
    refine ⟨fun _ => (Option.or_none).symm, fun interface => ?_, (List.append_nil _).symm⟩
    -- The service is refused, so its interface is served by the earlier one.
    by_cases same : service.interface = interface
    · subst same
      simp [stateAfter, found]
    · simp [stateAfter, firstService, Operation.service?, same]
  | none =>
    refine ⟨fun _ => (Option.or_none).symm, fun interface => ?_, (List.append_nil _).symm⟩
    -- The new service comes last as well.
    simp only [stateAfter, Option.isSome_none, Bool.false_eq_true, if_false, List.find?_append]
    congr 1
    by_cases same : service.interface = interface
    · simp [firstService, Operation.service?, same]
    · simp [firstService, Operation.service?, same]

/-- An operation adds what it says, unless it builds. -/
theorem of_run (operation : Operation) (unbuilt : operation ≠ .build) :
    Adds builder [operation] (stateAfter (operation.run builder)) := by
  cases operation with
  | register handler => exact of_register handler
  | registerService service => exact of_registerService service
  | require typeName =>
    exact ⟨fun _ => (Option.or_none).symm, fun _ => (Option.or_none).symm, rfl⟩
  | build => exact (unbuilt rfl).elim

end Adds

/-- Operations add what they say, as long as none of them builds. -/
theorem further_adds {operations : List Operation} (unbuilt : .build ∉ operations)
    (builder : RegistryBuilder) : Adds builder operations (further builder operations) := by
  -- The induction goes through the operations, whatever the builder holds before them.
  induction operations generalizing builder with
  | nil => exact .refl builder
  | cons operation operations ih =>
    have here : Adds builder [operation] (stateAfter (operation.run builder)) :=
      .of_run operation (List.ne_of_not_mem_cons unbuilt).symm
    exact here.trans (ih (List.not_mem_of_not_mem_cons unbuilt) _)

namespace Adds

variable {operations : List Operation} {builder : RegistryBuilder}
  (adds : Adds {} operations builder)
include adds

/-- What is bound to a request type is the handler that was registered first for it. -/
theorem lookup_eq (typeName : String) :
    builder.bindings.lookup typeName = firstHandler operations typeName :=
  adds.handlers typeName

/-- What is offered under an interface is the service that was registered first for it. -/
theorem find_eq (interface : String) :
    builder.services.find? (·.interface == interface) = firstService operations interface :=
  adds.services interface

/-- A builder refuses a handler exactly where its request type has one. -/
theorem register_eq_error_iff (handler : Handler) (failure : Failure) (left : RegistryBuilder) :
    register handler builder = .error failure left ↔
      (firstHandler operations handler.requestType).isSome = true ∧
        failure = .duplicateHandler handler.requestType ∧ left = builder := by
  rw [register_eq, adds.lookup_eq, refused_eq_error_iff]

/-- A builder refuses a service exactly where its interface has one. -/
theorem registerService_eq_error_iff (service : Service) (failure : Failure)
    (left : RegistryBuilder) :
    registerService service builder = .error failure left ↔
      (firstService operations service.interface).isSome = true ∧
        failure = .duplicateHandler service.interface ∧ left = builder := by
  rw [registerService_eq, ← List.isSome_find?, adds.find_eq, refused_eq_error_iff]

/-- There are services exactly if some were registered. -/
theorem services_ne_nil_iff :
    builder.services ≠ [] ↔ operations.any Operation.isService = true := by
  rw [any_isService_iff]
  constructor
  · intro present
    -- Any service at all is found under its own interface.
    obtain ⟨service, others, same⟩ := List.exists_cons_of_ne_nil present
    refine ⟨service.interface, ?_⟩
    rw [← adds.find_eq, same]
    simp
  · rintro ⟨interface, first⟩ none
    rw [← adds.find_eq, none] at first
    cases first

/-- Services are not combined with a handler of one's own for calls of methods. -/
theorem allBindings_of_doubled (doubled : Doubled operations) :
    builder.allBindings = .error (.duplicateHandler callType) := by
  have present : ¬ builder.services.isEmpty = true := by
    simpa using adds.services_ne_nil_iff.mpr doubled.1
  have taken : (builder.bindings.lookup callType).isSome = true := by
    rw [adds.lookup_eq]
    exact doubled.2
  rw [allBindings, if_neg present]
  exact if_pos taken

/-- Else the services, if there are any, are one more handler. -/
theorem exists_allBindings (single : ¬ Doubled operations) :
    ∃ bindings, builder.allBindings = .ok bindings ∧
      ∀ typeName, bindings.lookup typeName = bound operations builder.services typeName := by
  by_cases present : operations.any Operation.isService = true
  · -- Nothing of one's own is in the way of the services, which are bound last.
    have nonempty : ¬ builder.services.isEmpty = true := by
      simpa using adds.services_ne_nil_iff.mpr present
    have free : ¬ (builder.bindings.lookup callType).isSome = true := by
      rw [adds.lookup_eq]
      exact fun taken => single ⟨present, taken⟩
    refine ⟨builder.bindings ++ [(callType, .services builder.services)], ?_, fun typeName => ?_⟩
    · rw [allBindings, if_neg nonempty]
      exact if_neg free
    · rw [List.lookup_append, adds.lookup_eq, bound]
      -- Behind the handlers, only calls of methods are still answered.
      congr 1
      by_cases calls : typeName = callType
      · simp [calls, present]
      · simp [calls]
  · -- Without services, what is bound is all there is.
    have nothing : builder.services.isEmpty = true := by
      simpa using mt adds.services_ne_nil_iff.mp present
    refine ⟨builder.bindings, by rw [allBindings, if_pos nothing], fun typeName => ?_⟩
    simp [adds.lookup_eq, bound, present]

/-- The first requirement that no binding answers is told from the history. -/
theorem find_required {bindings : List (String × Handler)}
    (answered : ∀ typeName, bindings.lookup typeName = bound operations builder.services typeName) :
    (builder.required.find? fun typeName => (bindings.lookup typeName).isNone) =
      firstUnserved operations := by
  rw [adds.required, firstUnserved]
  simp only [answered, isNone_bound operations builder.services]
  rfl

end Adds

/-- What building comes to, after operations on a new builder, and what it leaves behind. -/
inductive Builds (operations : List Operation) (services : List Service) :
    EStateM.Result Failure RegistryBuilder Registry → Prop where
  /-- Calls of methods would be answered twice, and what was required stays so. -/
  | doubled (doubled : Doubled operations) :
      Builds operations services
        (.error (.duplicateHandler callType) { required := requirements operations })
  /-- Something that was required is not answered, and nothing stays. -/
  | unserved {typeName : String} (single : ¬ Doubled operations)
      (unserved : firstUnserved operations = some typeName) :
      Builds operations services (.error (.handlerNotFound typeName) {})
  /-- All that was required is answered, and the next registry starts from nothing. -/
  | served {registry : Registry} (single : ¬ Doubled operations)
      (served : firstUnserved operations = none)
      (answers : ∀ typeName,
        registry.bindings.lookup typeName = bound operations services typeName) :
      Builds operations services (.ok registry {})

/-- What building comes to is told from the operations before it. -/
theorem Adds.builds {operations : List Operation} {builder : RegistryBuilder}
    (adds : Adds {} operations builder) :
    Builds operations builder.services (build builder) := by
  rw [build_eq]
  -- Calls of methods are looked at first, and the requirements only after that.
  by_cases doubled : Doubled operations
  · rw [adds.allBindings_of_doubled doubled, adds.required]
    exact .doubled doubled
  · obtain ⟨bindings, all, answers⟩ := adds.exists_allBindings doubled
    simp only [all, adds.find_required answers]
    cases unserved : firstUnserved operations with
    | some typeName => exact .unserved doubled unserved
    | none => exact .served doubled unserved answers

namespace Builds

variable {operations : List Operation} {services : List Service}
  {result : EStateM.Result Failure RegistryBuilder Registry}

/-- Building fails in two ways, of which the first one hides the other. -/
theorem error_iff (builds : Builds operations services result) (failure : Failure) :
    (∃ left, result = .error failure left) ↔
      (Doubled operations ∧ failure = .duplicateHandler callType) ∨
        ¬ Doubled operations ∧ ∃ typeName, firstUnserved operations = some typeName ∧
          failure = .handlerNotFound typeName := by
  cases builds with
  | doubled doubled => simp [doubled, eq_comm]
  | unserved single unserved => simp [single, unserved, eq_comm]
  | served single served => simp [single, served]

/-- There is a registry exactly if neither of them happens. -/
theorem ok_iff (builds : Builds operations services result) :
    (∃ registry left, result = .ok registry left) ↔
      ¬ Doubled operations ∧ firstUnserved operations = none := by
  cases builds with
  | doubled doubled => simp [doubled]
  | unserved single unserved => simp [unserved]
  | served single served => simp [single, served]

/-- A registry has what was registered first. -/
theorem lookup_eq (builds : Builds operations services result) {registry : Registry}
    {left : RegistryBuilder} (built : result = .ok registry left) (typeName : String) :
    registry.bindings.lookup typeName = bound operations services typeName := by
  cases builds with
  | doubled doubled => cases built
  | unserved single unserved => cases built
  | served single served answers =>
    cases built
    exact answers typeName

end Builds

end RegistryBuilder

end RemoteCall
