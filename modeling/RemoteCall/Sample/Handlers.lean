import RemoteCall.Sample.Failures
import RemoteCall.Sample.Shapes
import RemoteCall.Server.Registry

/-! The handlers of the sample server. -/

namespace RemoteCall.Sample

/-- A request id, unless it is one that a caller drew. -/
def shownId (requestId : String) : String :=
  if requestId.utf8ByteSize = 36 then "<uuid>" else requestId

/-- Two names with a beginning in common. -/
def listNames : OrdinaryHandler where
  request := .record "ListNames" "test.ListNames" [("prefix", .string)]
  response := .list .string
  handle := fun _ ((start : String), ()) => .ok [start ++ "a", start ++ "b"]

/-- The failure that is asked for. -/
def fail : OrdinaryHandler where
  request := .record "Fail" "test.Fail" [("kind", .string), ("message", .string)]
  response := .unit
  handle := fun _ ((kind : String), (message : String), ()) => .error (failureOf kind message)

/-- The text that is given. -/
def echo : OrdinaryHandler where
  request := .record "Echo" "test.Echo" [("text", .string)]
  response := .string
  handle := fun _ (text, ()) => .ok text

/-- Numbers times a factor. -/
def scale : OrdinaryHandler where
  request := .record "Scale" "test.Scale" [("values", .list .double), ("factor", .double)]
  response := .list .double
  handle := fun _ ((values : List Double), (factor : Double), ()) =>
    .ok (values.map fun value => Double.ofFloat (value.toFloat * factor.toFloat))

/-- The point of these coordinates. -/
def makePoint : OrdinaryHandler where
  request := .record "MakePoint" "test.MakePoint"
    [("x", .integer .i32), ("y", .double), ("label", .option .string)]
  response := point
  handle := fun _ data => .ok data

/-- Points in a row, half as high as they are far. -/
def points : OrdinaryHandler where
  request := .record "Points" "test.Points" [("count", .integer .u32)]
  response := .list point
  handle := fun _ (count, ()) =>
    .ok ((List.range count.val.toNat).map fun (index : Nat) =>
      (number .i32 index, (Double.ofDecimal false (5 * index) (-1) : Double), none, ()))

/-- What is known of the call. -/
def context : OrdinaryHandler where
  request := .record "Context" "test.Context" []
  response := .list (.option .string)
  handle := fun context () =>
    let session := context.session
    .ok [session.bind (·.userName), session.map (·.host), session.map (·.program),
      session.map fun session => toString session.processId.toNat,
      context.requestId.map shownId, context.subject]

/-- A list of names, or none at all. -/
def maybeNames : OrdinaryHandler where
  request := .record "MaybeNames" "test.MaybeNames" [("some", .bool)]
  response := .option (.list .string)
  handle := fun _ ((given : Bool), ()) => .ok (if given then some ["m"] else none)

/-- Rows that count up, each longer by one. -/
def matrix : OrdinaryHandler where
  request := .record "Matrix" "test.Matrix" [("n", .integer .u32)]
  response := .list (.list (.integer .u32))
  handle := fun _ (count, ()) =>
    .ok ((List.range count.val.toNat).map fun row =>
      (List.range (row + 1)).map fun (index : Nat) => number .u32 index)

/-- Takes requests that are meant for services. -/
def hijack : OrdinaryHandler where
  request := .record "Hijack" "wirecall.RemoteServiceRequest"
    [("interface", .string), ("method", .string)]
  response := .string
  handle := fun _ ((interface : String), (method : String), ()) =>
    .ok s!"hijacked {interface}.{method}"

/-- Gives a user a new name, on behalf of the administrator alone. -/
def renameUser : PrivilegedHandler where
  request := .record "RenameUser" "com.example.RenameUser"
    [("user", .option .string), ("new_name", .string)]
  response := .string
  user := Prod.fst
  authorize := fun context _ =>
    match context.subject with
    | none => .notAuthenticated "who are you?"
    | some "admin" => .authorized
    | some _ => .notAuthorized "no permission"
  handle := fun _ (_, (name : String), ()) =>
    if name = "" then .error (.custom "empty name") else .ok name

/-- Tells on whose behalf it is executed. -/
def whoAmI : PrivilegedHandler where
  request := .record "WhoAmI" "com.example.WhoAmI" [("user", .option .string)]
  response := .string
  user := Prod.fst
  authorize := fun context _ =>
    if context.subject.isNone then .notAuthenticated "anonymous" else .authorized
  handle := fun context _ =>
    let id := (context.requestId.map shownId).getD ""
    .ok (context.subject.getD "" ++ "/" ++ id)

/-- Gives codes back in reverse, as long as all of them are small. -/
def audit : PrivilegedHandler where
  request := .record "Audit" "com.example.Audit"
    [("user", .option .string), ("codes", .list (.integer .u16))]
  response := .list (.integer .u16)
  user := Prod.fst
  authorize := fun context (_, codes, ()) =>
    match codes.find? fun code => 1000 ≤ code.val with
    | some code =>
      .notAuthorized (context.subject.getD "?" ++ " may not audit " ++ toString code.val)
    | none => .authorized
  handle := fun _ (_, codes, ()) => .ok codes.reverse

/-- All handlers under their names. -/
def handlers : List (String × Handler) :=
  [("ListNames", .ordinary listNames), ("Fail", .ordinary fail), ("Echo", .ordinary echo),
    ("Scale", .ordinary scale), ("MakePoint", .ordinary makePoint), ("Points", .ordinary points),
    ("Context", .ordinary context), ("MaybeNames", .ordinary maybeNames),
    ("Matrix", .ordinary matrix), ("Hijack", .ordinary hijack),
    ("RenameUser", .privileged renameUser), ("WhoAmI", .privileged whoAmI),
    ("Audit", .privileged audit)]

end RemoteCall.Sample
