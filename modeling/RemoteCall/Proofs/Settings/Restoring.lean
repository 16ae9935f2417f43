import RemoteCall.Proofs.Steps
import RemoteCall.Settings.RecordField

/-! Records are read back from tables that hold their fields in order. -/

namespace RemoteCall.RecordField

variable {ρ α : Type} {fields others : List (RecordField ρ)} {record after : ρ}
  {table : Toml.Table} {name : String} {read : Toml.Value → Reading α} {put : ρ → α → ρ}

/-- The fields of a record are set from the entries of a table, in order and with gaps allowed. -/
inductive Restores : List (RecordField ρ) → ρ → Toml.Table → ρ → Prop
  | done {record : ρ} : Restores [] record [] record
  | set {field : RecordField ρ} {fields : List (RecordField ρ)} {record between after : ρ}
    {value : Toml.Value} {table : Toml.Table} (sets : field.set record value = .ok between)
    (restores : Restores fields between table after) :
    Restores (field :: fields) record ((field.name, value) :: table) after
  | skip {field : RecordField ρ} {fields : List (RecordField ρ)} {record after : ρ}
    {table : Toml.Table} (free : field.isRequired = false)
    (restores : Restores fields record table after) :
    Restores (field :: fields) record table after

/-- A field is found by its name where no other one has that name. -/
theorem find?_name (distinct : (fields.map RecordField.name).Nodup) :
    ∀ field ∈ fields, fields.find? (·.name = field.name) = some field := by
  induction fields with
  | nil => simp
  | cons first fields ih =>
    rw [List.map_cons, List.nodup_cons] at distinct
    intro field member
    rcases List.mem_cons.mp member with rfl | member
    · simp
    · have differs : first.name ≠ field.name := by
        intro same
        exact distinct.1 (same ▸ List.mem_map_of_mem member)
      rw [List.find?_cons_of_neg (by simpa using differs)]
      exact ih distinct.2 field member

namespace Restores

/-- Entries set the fields of their names, among which those in question are. -/
theorem foldlM (restores : Restores fields record table after)
    (found : ∀ field ∈ fields, others.find? (·.name = field.name) = some field) :
    table.foldlM (setByName others) record = .ok after := by
  induction restores with
  | done => rfl
  | @set field fields record between after value table sets _ ih =>
    have step : setByName others record (field.name, value) = .ok between := by
      rw [setByName, found field List.mem_cons_self]
      exact sets
    rw [List.foldlM_cons, step]
    exact ih fun other member => found other (List.mem_cons_of_mem _ member)
  | skip _ _ ih => exact ih fun other member => found other (List.mem_cons_of_mem _ member)

/-- No field is missing that the record cannot do without. -/
theorem complete (restores : Restores fields record table after) :
    ∀ field ∈ fields, field.isRequired → field.name ∈ table.map Prod.fst := by
  induction restores with
  | done => simp
  | set _ _ ih =>
    intro field member required
    rcases List.mem_cons.mp member with rfl | member
    · exact List.mem_cons_self
    · exact List.mem_cons_of_mem _ (ih field member required)
  | skip free _ ih =>
    intro field member required
    rcases List.mem_cons.mp member with rfl | member
    · simp [free] at required
    · exact ih field member required

/-- The keys of a table stand in the order of the fields. -/
theorem keys_sublist (restores : Restores fields record table after) :
    (table.map Prod.fst).Sublist (fields.map RecordField.name) := by
  induction restores with
  | done => exact .slnil
  | set _ _ ih => exact ih.cons_cons _
  | skip _ _ ih => exact ih.cons _

/-- A record is read from a table that restores it. -/
theorem readTable (restores : Restores fields record table after)
    (distinct : (fields.map RecordField.name).Nodup) :
    readTable fields record table = .ok after := by
  have set := restores.foldlM (find?_name distinct)
  have complete : fields.find? (fun field =>
      field.isRequired && (table.lookup field.name).isNone) = none := by
    rw [List.find?_eq_none]
    intro field member missing
    rw [Bool.and_eq_true, Option.isNone_iff_eq_none, List.lookup_eq_none_iff] at missing
    obtain ⟨entry, there, same⟩ := List.mem_map.mp (restores.complete field member missing.1)
    have differs := missing.2 entry there
    simp [same] at differs
  unfold RecordField.readTable
  rw [set]
  dsimp only [bind, Except.bind]
  rw [complete]

/-- A field that the record cannot do without is set from its entry. -/
theorem required {value : Toml.Value} {content : α} (reads : read value = .ok content)
    (restores : Restores fields (put record content) table after) :
    Restores (required name read put :: fields) record ((name, value) :: table) after := by
  have sets : (RecordField.required name read put).set record value = .ok (put record content) := by
    change put record <$> read value = _
    rw [reads]
    rfl
  exact .set sets restores

/-- A field that may be missing is set from its entry, if there is one. -/
theorem present {value : Toml.Value} {content : α} (reads : read value = .ok content)
    (restores : Restores fields (put record content) table after) :
    Restores (allowed name read put :: fields) record ((name, value) :: table) after := by
  have sets : (allowed name read put).set record value = .ok (put record content) := by
    change put record <$> read value = _
    rw [reads]
    rfl
  exact .set sets restores

/-- A field that may be missing is set just where there is something to set it to. -/
theorem optional {write : α → Toml.Value} {content : Option α}
    (reads : ∀ present ∈ content, read (write present) = .ok present)
    (restores : Restores fields (content.elim record (put record)) table after) :
    Restores (allowed name read put :: fields) record
      ((content.map fun present => (name, write present)).toList ++ table) after := by
  cases content with
  | none => exact .skip rfl restores
  | some present => exact .present (reads present rfl) restores

end Restores

end RemoteCall.RecordField
