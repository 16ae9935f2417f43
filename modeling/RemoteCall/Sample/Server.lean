import RemoteCall.Sample.Handlers

/-! The services of the sample server, and all that it serves. -/

namespace RemoteCall.Sample

/-- A directory of names. -/
def directory : Service where
  interface := "com.example.Directory"
  methods := [
    { name := "names", parameters := [], result := .list .string
      run := fun () => .ok ["a", "b"] },
    { name := "lookup", parameters := [("name", .string)], result := .option .string
      run := fun ((name : String), ()) => .ok (if name = "a" then some "alpha" else none) },
    { name := "fail", parameters := [], result := .unit
      run := fun () => .error (.custom "directory offline") },
    { name := "ping", parameters := [], result := .unit
      run := fun () => .ok () }]

/-- A catalogue of titles. -/
def catalog : Service where
  interface := "test.Catalog"
  methods := [
    { name := "titles", parameters := [], result := .list .string
      run := fun () => .ok ["a", "b"] },
    { name := "count", parameters := [("shelf", .string), ("min", .integer .u32)]
      result := .integer .u64
      run := fun ((shelf : String), least, ()) =>
        .ok (number .u64 (shelf.utf8ByteSize + least.val)) },
    { name := "shift", parameters := [("p", point), ("dx", .integer .i32)], result := point
      run := fun ((x, rest), distance, ()) => .ok (number .i32 (x.val + distance.val), rest) },
    { name := "picks"
      parameters := [("first", .option .bool), ("rest", .list (.integer .u16))]
      result := .list (.integer .u16)
      run := fun ((first : Option Bool), rest, ()) =>
        .ok (match first with
          | some true => rest.take 1
          | some false => []
          | none => rest) }]

/-- All services under their names. -/
def services : List (String × Service) :=
  [("Directory", directory), ("Catalog", catalog)]

/-- Registers everything but the handler that takes the place of services. -/
def registerAll : RegistryBuilder.Building Unit := do
  for (name, handler) in handlers do
    if name ≠ "Hijack" then
      try RegistryBuilder.register handler catch _ => pure ()
  for (_, service) in services do
    try RegistryBuilder.registerService service catch _ => pure ()

/-- A registry of all that is registered. -/
def registry : Registry :=
  match (registerAll *> RegistryBuilder.build) {} with
  | .ok registry _ => registry
  | .error _ _ => { bindings := [] }

/-- The interface that a method is part of, and the method. -/
def method? (name : String) : Option (Service × Method) :=
  services.findSome? fun (_, service) =>
    (service.methods.find? (·.name == name)).map (service, ·)

end RemoteCall.Sample
