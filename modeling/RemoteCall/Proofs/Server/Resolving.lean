import RemoteCall.Proofs.Server.History

/-! What a registry answers, and what a dispatcher executes with it, is told from its history. -/

namespace RemoteCall

namespace Dispatcher

/-- An execution is one invocation of a handler, with counting around it, and comes to the same. -/
def Invokes (dispatcher : Dispatcher) (request : Value) (handler : Handler) : Prop :=
  ∃ context inner outcome events tallies, opened request = .ok (context, inner) ∧
    handler.Course context inner outcome events ∧
    (handler.invoke context inner).Gives outcome events ∧
    (dispatcher.execute request).Gives (outcome.map (dispatcher.returned request))
      (around events tallies)

variable {dispatcher : Dispatcher} {request inner : Value} {context : Context} {typeName : String}
  (came : opened request = .ok (context, inner)) (tagged : inner.objectType? = some typeName)
include came tagged

/-- The handler that is bound to the tag of a request is the one that is invoked. -/
theorem invokes_of_lookup {handler : Handler}
    (found : dispatcher.registry.bindings.lookup typeName = some handler) :
    dispatcher.Invokes request handler := by
  have resolved : dispatcher.registry.resolve typeName = .ok handler := by
    rw [Registry.resolve, found]
  obtain ⟨outcome, events, course, gives⟩ := handler.exists_course context inner
  obtain ⟨tallies, answered⟩ := dispatcher.answer_gives tagged resolved gives
  exact ⟨context, inner, outcome, events, tallies, came, course, gives,
    execute_gives came answered⟩

/-- A request whose tag nothing is bound to is refused, and nothing happens. -/
theorem execute_of_unbound (missing : dispatcher.registry.bindings.lookup typeName = none) :
    (dispatcher.execute request).Gives (.error (.handlerNotFound typeName)) [] := by
  have unresolved : dispatcher.registry.resolve typeName = .error (.handlerNotFound typeName) := by
    rw [Registry.resolve, missing]
  have refused :
      (dispatcher.answer context inner).Gives (.error (.handlerNotFound typeName)) [] := by
    simp only [answer, tagged, unresolved]
    exact (Traced.Gives.ofExcept _).bind_error
  exact execute_gives came refused

end Dispatcher

namespace RegistryBuilder

/-- What a builder refuses, builds and has answered is all told from its history. -/
structure Exact (operations : List Operation) (builder : RegistryBuilder) : Prop where
  /-- A handler is refused exactly where its request type has one, and this changes nothing. -/
  registering : ∀ handler failure left, register handler builder = .error failure left ↔
    (firstHandler operations handler.requestType).isSome = true ∧
      failure = .duplicateHandler handler.requestType ∧ left = builder
  /-- A service is refused exactly where its interface has one, and this changes nothing. -/
  offering : ∀ service failure left, registerService service builder = .error failure left ↔
    (firstService operations service.interface).isSome = true ∧
      failure = .duplicateHandler service.interface ∧ left = builder
  /-- The handler that is bound to a request type is the first, whatever is registered later. -/
  binding : ∀ more, .build ∉ more → ∀ typeName handler,
    firstHandler operations typeName = some handler →
      (further builder more).bindings.lookup typeName = some handler
  /-- So is the service that is offered under an interface. -/
  serving : ∀ more, .build ∉ more → ∀ interface service,
    firstService operations interface = some service →
      (further builder more).services.find? (·.interface == interface) = some service
  /-- Building fails over calls of methods, or else over the first requirement that is not met. -/
  failing : ∀ failure, (∃ left, build builder = .error failure left) ↔
    (Doubled operations ∧ failure = .duplicateHandler callType) ∨
      ¬ Doubled operations ∧ ∃ typeName, firstUnserved operations = some typeName ∧
        failure = .handlerNotFound typeName
  /-- Else there is a registry. -/
  building : (∃ registry left, build builder = .ok registry left) ↔
    ¬ Doubled operations ∧ firstUnserved operations = none
  /-- It has the first handler of each request type, and the services for calls of methods. -/
  answering : ∀ registry left, build builder = .ok registry left →
    (∀ typeName,
      registry.bindings.lookup typeName = bound operations builder.services typeName) ∧
    ∀ interface,
      builder.services.find? (·.interface == interface) = firstService operations interface
  /-- The handler of its tag is what a request is executed by, and no other. -/
  executing : ∀ (dispatcher : Dispatcher) left, build builder = .ok dispatcher.registry left →
    ∀ request context inner typeName, Dispatcher.opened request = .ok (context, inner) →
      inner.objectType? = some typeName →
        (∀ handler, bound operations builder.services typeName = some handler →
          dispatcher.Invokes request handler) ∧
        (bound operations builder.services typeName = none →
          (dispatcher.execute request).Gives (.error (.handlerNotFound typeName)) [])

/--
Whatever is registered and required with a new builder, what becomes of it is told from the history.

The operations may fail, and then count for nothing.
-/
theorem after_exact {operations : List Operation} (unbuilt : .build ∉ operations) :
    Exact operations (after operations) := by
  have adds : Adds {} operations (after operations) := further_adds unbuilt {}
  -- What is refused and built is told from what was added so far.
  refine {
    registering := adds.register_eq_error_iff
    offering := adds.registerService_eq_error_iff
    binding := fun more unbuiltToo typeName handler first => ?binding
    serving := fun more unbuiltToo interface service first => ?serving
    failing := adds.builds.error_iff
    building := adds.builds.ok_iff
    answering := fun registry left built => ⟨adds.builds.lookup_eq built, adds.find_eq⟩
    executing := fun dispatcher left built request _ _ typeName came tagged => ?executing }
  -- Whatever is added later comes behind what was first.
  case binding =>
    rw [(further_adds unbuiltToo _).handlers, adds.lookup_eq, first, Option.some_or]
  case serving =>
    rw [(further_adds unbuiltToo _).services, adds.find_eq, first, Option.some_or]
  -- A dispatcher looks a tag up as the registry answers it.
  case executing =>
    rw [← adds.builds.lookup_eq built]
    exact ⟨fun handler => Dispatcher.invokes_of_lookup came tagged,
      Dispatcher.execute_of_unbound came tagged⟩

end RegistryBuilder

namespace Sample

open RegistryBuilder

/-- What requires a handler that is missing, besides registering one for calls of methods. -/
def hijackOperations : List Operation :=
  [.register (.ordinary hijack), .require "test.Scale"]

/-- At the gate the first handlers count; hijacked calls let building fail before anything else. -/
theorem after_exact_gate :
    let builder := after gateOperations
    .build ∉ gateOperations ∧ .build ∉ hijackOperations ++ gateOperations ∧
      register (.privileged renameUser) builder =
        .error (.duplicateHandler "com.example.RenameUser") builder ∧
      build builder = .ok gate.registry {} ∧
      gate.Invokes renameRequest (.privileged renameUser) ∧
      gate.Invokes (renameBy "admin") (.privileged renameUser) ∧
      (gate.execute (.object "test.Scale" [])).Gives (.error (.handlerNotFound "test.Scale")) [] ∧
      (∃ left, build (after (hijackOperations ++ gateOperations)) =
        .error (.duplicateHandler callType) left) ∧
      ∃ left, build (after hijackOperations) = .error (.handlerNotFound "test.Scale") left := by
  intro builder
  have unbuilt : .build ∉ gateOperations := by simp [gateOperations]
  have unbuiltToo : .build ∉ hijackOperations ++ gateOperations := by
    simp [gateOperations, hijackOperations]
  have gated : Exact gateOperations builder := after_exact unbuilt
  have built : build builder = .ok gate.registry {} := rfl
  have executed := gated.executing gate {} built
  refine ⟨unbuilt, unbuiltToo, ?_, built, ?bare, ?enveloped, ?missing, ?doubled, ?unserved⟩
  · exact (gated.registering _ _ _).mpr ⟨by decide, rfl, rfl⟩
  case bare => exact (executed renameRequest {} _ _ rfl rfl).1 _ rfl
  case enveloped =>
    exact (executed (renameBy "admin") _ _ _ (Dispatcher.opened_toValue _) rfl).1 _ rfl
  case missing => exact (executed (.object "test.Scale" []) {} _ _ rfl rfl).2 rfl
  case doubled =>
    exact ((after_exact unbuiltToo).failing _).mpr (.inl ⟨⟨rfl, rfl⟩, rfl⟩)
  case unserved =>
    have single : ¬ Doubled hijackOperations := by
      rintro ⟨present, _⟩
      cases present
    exact ((after_exact (by simp [hijackOperations])).failing _).mpr (.inr ⟨single, _, rfl, rfl⟩)

end Sample

end RemoteCall
