import RemoteCall.Proofs.Server.History
import RemoteCall.Sample.Server

/-! A builder that is used again: only what was done since it was built from counts. -/

namespace RemoteCall

namespace RegistryBuilder

/-- What counts of a history when one more thing is done. -/
def Operation.follow (history : List Operation) : Operation → List Operation
  -- Building drops handlers and services in any case, and the requirements in all cases but one.
  | .build => if Doubled history then (requirements history).map .require else []
  | operation => history ++ [operation]

/-- What counts of a history in which registries were built, or failed to be. -/
def standing (operations : List Operation) : List Operation :=
  operations.foldl Operation.follow []

/-- Requirements are added to a builder in order. -/
theorem further_map_require (builder : RegistryBuilder) (names : List String) :
    further builder (names.map .require) =
      { builder with required := builder.required ++ names } := by
  induction names generalizing builder with
  | nil => simp [further]
  | cons name names ih =>
    have step : further builder ((name :: names).map .require) =
        further { builder with required := builder.required ++ [name] } (names.map .require) := rfl
    rw [step, ih]
    simp

/-- What building leaves behind. -/
theorem Builds.stateAfter_eq {history : List Operation} {services : List Service}
    {result : EStateM.Result Failure RegistryBuilder Registry}
    (builds : Builds history services result) :
    stateAfter result =
      if Doubled history then { required := requirements history } else {} := by
  cases builds with
  | doubled doubled => rw [if_pos doubled, stateAfter]
  | unserved single => rw [if_neg single, stateAfter]
  | served single => rw [if_neg single, stateAfter]

/-- The operation that builds leaves behind what building does. -/
theorem stateAfter_run_build (builder : RegistryBuilder) :
    stateAfter (Operation.build.run builder) = stateAfter (build builder) := by
  simp only [Operation.run, run_bind]
  cases build builder with
  | ok registry left => rfl
  | error failure left => rfl

/-- One operation on a builder is as one on what counts of its history. -/
theorem Operation.stateAfter_run {history : List Operation} (unbuilt : .build ∉ history)
    (operation : Operation) :
    .build ∉ operation.follow history ∧
      stateAfter (operation.run (after history)) = after (operation.follow history) := by
  have append (operation : Operation) (other : operation ≠ .build) :
      .build ∉ history ++ [operation] ∧
        stateAfter (operation.run (after history)) = after (history ++ [operation]) :=
    ⟨by simp [unbuilt, other.symm], (after_append history [operation]).symm⟩
  -- All but building goes to the end of the history.
  cases operation with
  | register handler => exact append _ nofun
  | registerService service => exact append _ nofun
  | require typeName => exact append _ nofun
  | build =>
    have adds : Adds {} history (after history) := further_adds unbuilt {}
    rw [stateAfter_run_build, adds.builds.stateAfter_eq]
    by_cases doubled : Doubled history
    · simp only [follow, if_pos doubled]
      exact ⟨by simp, (further_map_require {} _).symm⟩
    · simp only [follow, if_neg doubled]
      exact ⟨List.not_mem_nil, rfl⟩

/-- Whatever was built on the way, a builder is as after what counts of its history. -/
theorem after_standing (operations : List Operation) :
    .build ∉ standing operations ∧ after operations = after (standing operations) := by
  -- The induction goes through the operations, from any history without a building.
  have further : ∀ history, .build ∉ history →
      .build ∉ operations.foldl Operation.follow history ∧
        further (after history) operations = after (operations.foldl Operation.follow history) := by
    induction operations with
    | nil => exact fun history unbuilt => ⟨unbuilt, rfl⟩
    | cons operation operations ih =>
      intro history unbuilt
      obtain ⟨unbuiltToo, same⟩ := operation.stateAfter_run unbuilt
      obtain ⟨still, ran⟩ := ih _ unbuiltToo
      exact ⟨still, (congrArg (RegistryBuilder.further · operations) same).trans ran⟩
  exact further [] List.not_mem_nil

/-- A registry has all that was registered and required. -/
structure Complete (history : List Operation) (registry : Registry) : Prop where
  /-- What was required is answered. -/
  required : ∀ typeName ∈ requirements history, registry.contains typeName = true
  /-- A handler that was registered is the one that is found. -/
  handlers : ∀ typeName handler, firstHandler history typeName = some handler →
    registry.resolve typeName = .ok handler
  /-- A service that was registered is among those that calls of methods go to. -/
  services : ∀ interface service, firstService history interface = some service →
    ∃ offered, registry.resolve callType = .ok (.services offered) ∧
      offered.find? (·.interface == interface) = some service

/-- A registry that is built has all that was registered and required before, without building. -/
theorem Adds.complete {history : List Operation} {builder left : RegistryBuilder}
    {registry : Registry} (adds : Adds {} history builder)
    (built : build builder = .ok registry left) : Complete history registry := by
  have answers := adds.builds.lookup_eq built
  obtain ⟨single, served⟩ := adds.builds.ok_iff.mp ⟨registry, left, built⟩
  refine ⟨fun typeName member => ?required, fun typeName handler first => ?handlers,
    fun interface service first => ?services⟩
  case required =>
    -- No requirement is unserved, which does not depend on the services.
    have answered := List.find?_eq_none.mp served typeName member
    rw [← isNone_bound history builder.services, ← answers] at answered
    simpa [Registry.contains, Option.isSome_iff_ne_none] using answered
  case handlers =>
    rw [Registry.resolve, answers, bound, first, Option.some_or]
  case services =>
    -- As there are services, no handler of one's own answers in their place.
    have present : history.any Operation.isService = true :=
      any_isService_iff.mpr ⟨interface, by rw [first]; rfl⟩
    have free : firstHandler history callType = none :=
      Option.not_isSome_iff_eq_none.mp fun taken => single ⟨present, taken⟩
    refine ⟨builder.services, ?_, by rw [adds.find_eq, first]⟩
    rw [Registry.resolve, answers, bound, free, if_pos ⟨rfl, present⟩, Option.none_or]

/--
What building comes to is decided by what was done since the builder was last built from.

It does not matter whether that failed: handlers and services are forgotten, and so are the
requirements, unless it failed over calls of methods.
-/
theorem build_standing (operations : List Operation) :
    .build ∉ standing operations ∧
      Builds (standing operations) (after operations).services (build (after operations)) ∧
      ∀ registry left, build (after operations) = .ok registry left →
        Complete (standing operations) registry := by
  obtain ⟨unbuilt, same⟩ := after_standing operations
  have adds : Adds {} (standing operations) (after operations) := same ▸ further_adds unbuilt {}
  exact ⟨unbuilt, adds.builds, fun registry left => adds.complete⟩

-- A requirement outlives a building that fails over calls of methods.
example :
    standing [.register (.ordinary Sample.hijack), .registerService Sample.directory,
      .require "test.Echo", .build] = [.require "test.Echo"] := rfl

end RegistryBuilder

namespace Sample

open RegistryBuilder

/-- What cannot be built from, as a handler is missing. -/
def unservedOperations : List Operation :=
  [.register (.ordinary listNames), .require "test.Echo"]

/-- To build once more, after that has failed, gives a registry in which nothing is left. -/
theorem build_again_incomplete :
    (∃ left, build (after unservedOperations) = .error (.handlerNotFound "test.Echo") left ∧
      left ≠ after unservedOperations) ∧
    ∃ registry left, build (after (unservedOperations ++ [.build])) = .ok registry left ∧
      registry.contains "test.Echo" = false ∧ registry.contains "test.ListNames" = false ∧
        ¬ Complete unservedOperations registry := by
  refine ⟨⟨{}, rfl, fun same => ?_⟩, { bindings := [] }, {}, rfl, rfl, rfl, fun complete => ?_⟩
  · exact absurd (congrArg RegistryBuilder.required same) (by decide)
  · exact absurd (complete.required "test.Echo" (by decide)) (by decide)

end Sample

end RemoteCall
