import RemoteCall.Settings.Fault
import RemoteCall.Toml.Value

/-! Reading of records from documents, whose fields come by name or by position. -/

namespace RemoteCall

/-- How a reader of typed data sees a value. -/
def Toml.Value.found : Toml.Value → Found
  | .string text => .string text
  | .integer number => .integer number.toInt
  | .float number => .float number
  | .boolean flag => .boolean flag
  | .moment _ | .table _ => .map
  | .array _ => .sequence

/-- Reads settings of some type, or tells why there are none. -/
abbrev Reading := Except SettingsFault

namespace Reading

variable {α : Type}

/-- Refuses a value of the wrong type. -/
def refuse (value : Toml.Value) (expected : String) : Reading α :=
  .error (.mismatch (.wrongType value.found expected))

/-- Reads a text. -/
def string : Toml.Value → Reading String
  | .string text => .ok text
  | value => refuse value "a string"

/-- Reads a flag. -/
def boolean : Toml.Value → Reading Bool
  | .boolean flag => .ok flag
  | value => refuse value "a boolean"

/-- Reads a number that is not negative, and goes by a name where it is missing. -/
def word (expected : String) : Toml.Value → Reading UInt64
  | .integer number =>
    if number < 0 then .error (.mismatch (.outOfRange number.toInt expected))
    else .ok number.toUInt64
  | value => refuse value expected

end Reading

/-- A field of a record: its name, and how it is set from a value. -/
structure RecordField (ρ : Type) where
  name : String
  /-- Whether the record cannot do without the field. -/
  isRequired : Bool
  set : ρ → Toml.Value → Reading ρ

namespace RecordField

variable {ρ α : Type}

/-- A field that the record cannot do without. -/
def required (name : String) (read : Toml.Value → Reading α) (put : ρ → α → ρ) :
    RecordField ρ where
  name
  isRequired := true
  set record value := put record <$> read value

/-- A field that may be missing. -/
def allowed (name : String) (read : Toml.Value → Reading α) (put : ρ → α → ρ) :
    RecordField ρ where
  name
  isRequired := false
  set record value := put record <$> read value

/-- Sets the field of a name; a name that no field has is of no account. -/
def setByName (fields : List (RecordField ρ)) (record : ρ) (entry : String × Toml.Value) :
    Reading ρ :=
  match fields.find? (·.name = entry.1) with
  | some field => field.set record entry.2
  | none => .ok record

/-- Reads a record from a table, entry by entry, and then asks for what is missing. -/
def readTable (fields : List (RecordField ρ)) (blank : ρ) (table : Toml.Table) : Reading ρ := do
  let record ← table.foldlM (setByName fields) blank
  let isMissing (field : RecordField ρ) : Bool :=
    field.isRequired && (table.lookup field.name).isNone
  match fields.find? isMissing with
  | some field => .error (.mismatch (.missingField field.name))
  | none => .ok record

/-- Reads a record from values in the order of its fields, with no regard to any that follow. -/
def readList (tooFew : SettingsFault) :
    List (RecordField ρ) → ρ → List Toml.Value → Reading ρ
  | [], record, _ => .ok record
  | field :: fields, record, [] =>
    if field.isRequired then .error tooFew else readList tooFew fields record []
  | field :: fields, record, value :: values => do
    readList tooFew fields (← field.set record value) values

/-- Reads a record that goes by a name. -/
def readRecord (recordName : String) (fields : List (RecordField ρ)) (blank : ρ) :
    Toml.Value → Reading ρ
  | .table entries => readTable fields blank entries
  | .array values =>
    let tooFew : Mismatch := .tooFewElements values.length recordName fields.length
    readList (.mismatch tooFew) fields blank values
  -- A moment is a table with one entry, which no record knows.
  | .moment _ => readTable fields blank []
  | value => Reading.refuse value ("struct " ++ recordName)

end RecordField

end RemoteCall
