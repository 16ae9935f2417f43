import RemoteCall.Proofs.Steps
import RemoteCall.Server.Registry

/-! However a registry comes about, a handler is found under the name of its own requests. -/

namespace RemoteCall

namespace RegistryBuilder

/-- What may be done with a builder. -/
inductive Operation where
  | register (handler : Handler)
  | registerService (service : Service)
  | require (typeName : String)
  /-- Builds a registry, after which the builder may be used again. -/
  | build

/-- Does one thing with a builder. -/
def Operation.run : Operation → Building Unit
  | .register handler => RegistryBuilder.register handler
  | .registerService service => RegistryBuilder.registerService service
  | .require typeName => RegistryBuilder.require typeName
  | .build => do let _ ← RegistryBuilder.build

/-- A builder after some operations, of which any may have failed. -/
def after (operations : List Operation) : RegistryBuilder :=
  -- A builder starts with nothing in it.
  operations.foldl (fun builder operation => stateAfter (operation.run builder)) {}

section

variable (builder : RegistryBuilder)

/-- Registering a handler either fails, and changes nothing, or adds its binding at the end. -/
theorem register_eq (handler : Handler) :
    register handler builder =
      if (builder.bindings.lookup handler.requestType).isSome then
        .error (.duplicateHandler handler.requestType) builder
      else
        .ok () { builder with
          bindings := builder.bindings ++ [(handler.requestType, handler)] } := by
  simp only [register, run_bind, run_get]
  split
  · rfl
  · rfl

/-- Registering a service either fails, and changes nothing, or adds it at the end. -/
theorem registerService_eq (service : Service) :
    registerService service builder =
      if builder.services.any (·.interface == service.interface) then
        .error (.duplicateHandler service.interface) builder
      else .ok () { builder with services := builder.services ++ [service] } := by
  simp only [registerService, run_bind, run_get]
  split
  · rfl
  · rfl

/-- Building takes handlers and services out, and the requirements unless services double. -/
theorem build_eq :
    build builder =
      match builder.allBindings with
      | .error failure => .error failure { builder with bindings := [], services := [] }
      | .ok bindings =>
        match builder.required.find? fun typeName => (bindings.lookup typeName).isNone with
        | some typeName => .error (.handlerNotFound typeName) {}
        | none => .ok { bindings } {} := by
  simp only [build, run_bind, run_get, run_set]
  cases builder.allBindings with
  | error failure => rfl
  | ok bindings =>
    simp only [run_ofExcept_ok]
    cases builder.required.find? fun typeName => (bindings.lookup typeName).isNone with
    | some typeName => rfl
    | none => rfl

end

/-- Every handler is bound to the name of its own requests. -/
def Named (bindings : List (String × Handler)) : Prop :=
  -- Names are what handlers are looked up by.
  ∀ binding ∈ bindings, binding.2.requestType = binding.1

/-- A handler that is added under the name of its requests keeps bindings named. -/
theorem Named.append {bindings : List (String × Handler)} (named : Named bindings)
    (handler : Handler) : Named (bindings ++ [(handler.requestType, handler)]) := by
  intro binding member
  rcases List.mem_append.mp member with member | member
  · exact named binding member
  · rw [List.mem_singleton.mp member]

/-- The binding for services is named as well. -/
theorem Named.allBindings {builder : RegistryBuilder} (named : Named builder.bindings)
    {bindings : List (String × Handler)} (joined : builder.allBindings = .ok bindings) :
    Named bindings := by
  simp only [RegistryBuilder.allBindings] at joined
  split at joined
  · cases joined
    exact named
  · split at joined
    · cases joined
    · cases joined
      exact named.append _

/-- Nothing is named wrongly where nothing is bound. -/
theorem named_nil : Named [] := fun _ member => nomatch member

/-- Registering a handler keeps bindings named, also where there is one for its requests. -/
theorem register_keeps (handler : Handler) :
    Keeps (fun builder => Named builder.bindings) (register handler) := by
  refine Keeps.bind (fun builder named => named) fun builder => ?_
  split
  · exact Keeps.bind (.throw _) fun _ builder named => named.append handler
  · exact fun builder named => named.append handler

/-- Registering a service leaves the bindings alone. -/
theorem registerService_keeps (service : Service) :
    Keeps (fun builder => Named builder.bindings) (registerService service) := by
  refine Keeps.bind (fun builder named => named) fun builder => ?_
  split
  · exact Keeps.bind (.throw _) fun _ builder named => named
  · exact fun builder named => named

/-- Building keeps what holds without handlers and services, as it takes them out in any case. -/
theorem build_keeps {kept : RegistryBuilder → Prop} (empty : ∀ required, kept { required }) :
    Keeps kept build := by
  intro builder _
  rw [build_eq]
  cases builder.allBindings with
  -- Only in this case are there still requirements.
  | error failure => exact empty builder.required
  | ok bindings =>
    dsimp only
    split
    · exact empty []
    · exact empty []

/-- A registry is built of all that is bound, and of services if there are any. -/
theorem allBindings_of_build {builder left : RegistryBuilder} {registry : Registry}
    (built : build builder = .ok registry left) : builder.allBindings = .ok registry.bindings := by
  rw [build_eq] at built
  cases all : builder.allBindings with
  | error failure =>
    rw [all] at built
    cases built
  | ok bindings =>
    -- The registry has all the bindings, if no requirement lets the build fail.
    simp only [all] at built
    split at built
    · cases built
    · cases built
      rfl

/-- What is built is named. -/
theorem named_of_build {builder left : RegistryBuilder} {registry : Registry}
    (named : Named builder.bindings) (built : build builder = .ok registry left) :
    Named registry.bindings :=
  named.allBindings (allBindings_of_build built)

/-- An operation keeps bindings named, also when it fails. -/
theorem Operation.run_keeps (operation : Operation) :
    Keeps (fun builder => Named builder.bindings) operation.run := by
  cases operation with
  | register handler => exact register_keeps handler
  | registerService service => exact registerService_keeps service
  | require typeName => exact fun builder named => named
  | build => exact (build_keeps fun _ => named_nil).bind fun _ => .pure _

/-- What operations keep and a new builder has, a builder has whatever was done with it. -/
theorem after_of_keeps {kept : RegistryBuilder → Prop} (new : kept {})
    (keeps : ∀ operation : Operation, Keeps kept operation.run) (operations : List Operation) :
    kept (after operations) := by
  -- The induction goes through the operations, whatever was done before them.
  have further : ∀ builder, kept builder →
      kept (operations.foldl (fun builder operation => stateAfter (operation.run builder))
        builder) := by
    induction operations with
    | nil => exact fun builder holds => holds
    | cons operation operations ih =>
      exact fun builder holds => ih _ (keeps operation builder holds)
  exact further {} new

/-- Whatever was done with a builder, its bindings are named. -/
theorem after_named (operations : List Operation) : Named (after operations).bindings :=
  after_of_keeps named_nil Operation.run_keeps operations

/-- No two services have one interface. -/
def Distinct (builder : RegistryBuilder) : Prop := (builder.services.map (·.interface)).Nodup

/-- Registering a service keeps interfaces distinct, as a second one for an interface is refused. -/
theorem registerService_keeps_distinct (service : Service) :
    Keeps Distinct (registerService service) := by
  intro builder distinct
  by_cases taken : builder.services.any (·.interface == service.interface) = true
  · rw [registerService_eq, if_pos taken]
    exact distinct
  · -- The new interface is none of those before it.
    have fresh : service.interface ∉ builder.services.map (·.interface) := by
      simpa [List.any_eq_true, List.mem_map] using taken
    have joined : ((builder.services ++ [service]).map (·.interface)).Nodup := by
      rw [List.map_append, List.nodup_append]
      refine ⟨distinct, by simp, fun first member second only => ?_⟩
      rintro rfl
      rw [List.mem_singleton.mp only] at member
      exact fresh member
    rw [registerService_eq, if_neg taken]
    exact joined

/-- An operation keeps interfaces distinct, also when it fails. -/
theorem Operation.run_keeps_distinct (operation : Operation) : Keeps Distinct operation.run := by
  cases operation with
  | register handler =>
    refine Keeps.bind (fun _ distinct => distinct) fun builder => ?_
    split
    · exact Keeps.bind (.throw _) fun _ _ distinct => distinct
    · exact fun _ distinct => distinct
  | registerService service => exact registerService_keeps_distinct service
  | require typeName => exact fun _ distinct => distinct
  | build => exact (build_keeps fun _ => List.nodup_nil).bind fun _ => .pure _

/-- Whatever was done with a builder, no two of its services have one interface. -/
theorem after_distinct (operations : List Operation) : Distinct (after operations) :=
  after_of_keeps List.nodup_nil Operation.run_keeps_distinct operations

/-- Where there are services, they answer the calls of methods. -/
theorem resolve_services_of_build {builder left : RegistryBuilder} {registry : Registry}
    (built : build builder = .ok registry left) (some : builder.services ≠ []) :
    registry.resolve (Message.typeName RemoteServiceRequest) =
      .ok (.services builder.services) := by
  have all := allBindings_of_build built
  have present : ¬ builder.services.isEmpty = true := by simpa using some
  rw [allBindings, if_neg present] at all
  -- A handler of one's own for such calls would have let the build fail.
  split at all
  · cases all
  · next free =>
    have bindings := Except.ok.inj all
    have unbound : builder.bindings.lookup (Message.typeName RemoteServiceRequest) = none :=
      Option.not_isSome_iff_eq_none.mp free
    rw [Registry.resolve, ← bindings, List.lookup_append, unbound]
    rfl

/-- Where there are none, and no handler of one's own, no such call is answered. -/
theorem resolve_services_of_build_none {builder left : RegistryBuilder} {registry : Registry}
    (built : build builder = .ok registry left) (none : builder.services = [])
    (unbound : builder.bindings.lookup (Message.typeName RemoteServiceRequest) = .none) :
    registry.resolve (Message.typeName RemoteServiceRequest) =
      .error (.handlerNotFound (Message.typeName RemoteServiceRequest)) := by
  have all := allBindings_of_build built
  rw [allBindings, none] at all
  have bindings : builder.bindings = registry.bindings := Except.ok.inj all
  rw [Registry.resolve, ← bindings, unbound]

end RegistryBuilder

namespace Registry

/-- A registry that came out of a builder. -/
def Built (registry : Registry) : Prop :=
  -- Anything may have been done with the builder before.
  ∃ operations left, RegistryBuilder.build (RegistryBuilder.after operations) = .ok registry left

/-- What is found in a list of bindings is in it. -/
theorem mem_of_resolve {registry : Registry} {typeName : String} {handler : Handler}
    (found : registry.resolve typeName = .ok handler) :
    (typeName, handler) ∈ registry.bindings := by
  unfold resolve at found
  split at found
  · next bound =>
    cases found
    -- The first binding of the name is the one that is found.
    obtain ⟨before, behind, same, _⟩ := List.lookup_eq_some_iff.mp bound
    simp [same]
  · cases found

/-- A handler answers the requests that it was registered for, and no others. -/
theorem Built.requestType {registry : Registry} (built : registry.Built) {typeName : String}
    {handler : Handler} (found : registry.resolve typeName = .ok handler) :
    handler.requestType = typeName := by
  obtain ⟨operations, left, built⟩ := built
  exact RegistryBuilder.named_of_build (RegistryBuilder.after_named operations) built _
    (mem_of_resolve found)

end Registry

end RemoteCall
