import RemoteCall.Typed.Shape

/-! Shapes of the data that the sample server is about. -/

namespace RemoteCall.Sample

/-- A point with a label that may be absent. -/
abbrev point : Shape :=
  .record "Point" "com.example.Point"
    [("x", .integer .i32), ("y", .double), ("label", .option .string)]

/-- A postal address. -/
abbrev address : Shape :=
  .record "Address" "com.example.Address"
    [("street", .string), ("zip", .option (.integer .u32))]

/-- A customer. -/
abbrev customer : Shape :=
  .record "Customer" "com.example.Customer"
    [("id", .integer .u64), ("name", .string), ("balance", .double), ("active", .bool),
      ("tags", .list .string), ("address", address)]

/-- A number under a name of its own. -/
abbrev wrapper : Shape := .renamed "com.example.Wrapper" (.integer .u32)

/-- A number of a type, out of one that may be too large. -/
def number (kind : IntegerKind) (value : Int) : (Shape.integer kind).Data := kind.wrap value

end RemoteCall.Sample
