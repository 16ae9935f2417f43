import RemoteCall.Proofs.Steps
import RemoteCall.Value

/-! What is taken out of fields by a name, and what is left of them. -/

namespace RemoteCall.Fields

/-- The values under a name, first to last. -/
def held (name : String) (entries : List (String × Value)) : List Value :=
  -- A name may be repeated, and may be missing.
  (entries.filter (·.1 == name)).map Prod.snd

section Held

variable {name : String} {entries others : List (String × Value)}

@[simp] theorem held_nil (name : String) : held name [] = [] := rfl

@[simp] theorem held_append (name : String) (front back : List (String × Value)) :
    held name (front ++ back) = held name front ++ held name back := by
  simp [held]

@[simp] theorem held_cons_self (name : String) (value : Value)
    (entries : List (String × Value)) :
    held name ((name, value) :: entries) = value :: held name entries := by
  simp [held]

theorem held_cons_of_ne {other : String} (different : other ≠ name) (value : Value)
    (entries : List (String × Value)) :
    held name ((other, value) :: entries) = held name entries := by
  simp [held, different]

/-- Nothing is held under a name exactly when no field has it. -/
theorem held_eq_nil_iff : held name entries = [] ↔ ∀ entry ∈ entries, entry.1 ≠ name := by
  simp [held]

/-- As many values are held under a name as there are fields of it. -/
theorem length_held (name : String) (entries : List (String × Value)) :
    (held name entries).length = (entries.map Prod.fst).count name := by
  -- Both count the fields of the name.
  rw [held, List.length_map, ← List.countP_eq_length_filter, List.count, List.countP_map]
  rfl

/-- Fields in another order hold the same under a name, up to the order. -/
theorem held_perm (same : entries.Perm others) (name : String) :
    (held name entries).Perm (held name others) :=
  (same.filter _).map _

/-- A single value has only one order. -/
theorem eq_of_perm_of_length_le_one {values few : List Value} (same : values.Perm few)
    (short : few.length ≤ 1) : values = few := by
  match few with
  | [] => exact List.perm_nil.mp same
  | [value] => exact List.perm_singleton.mp same
  | _ :: _ :: _ => simp at short

end Held

/-- The fields behind one that is taken out: the last of them moves into its place. -/
def refill (back : List (String × Value)) : List (String × Value) :=
  match back.getLast? with
  | none => []
  | some last => last :: back.dropLast

@[simp] theorem refill_nil : refill [] = [] := rfl

@[simp] theorem refill_append_singleton (back : List (String × Value))
    (last : String × Value) : refill (back ++ [last]) = last :: back := by
  simp [refill]

/-- No field is lost when the last one moves. -/
theorem refill_perm (back : List (String × Value)) : (refill back).Perm back := by
  rcases List.eq_nil_or_concat back with rfl | ⟨front, last, rfl⟩
  · exact .refl []
  · rw [List.concat_eq_append, refill_append_singleton]
    exact (List.perm_append_singleton last front).symm

/-- Where something is held under a name, the fields are split at the first one of it. -/
theorem exists_split {name : String} {entries : List (String × Value)}
    (present : held name entries ≠ []) :
    ∃ front value back, entries = front ++ (name, value) :: back ∧
      ∀ entry ∈ front, entry.1 ≠ name := by
  induction entries with
  | nil => exact absurd rfl present
  | cons entry entries ih =>
    obtain ⟨key, value⟩ := entry
    by_cases same : key = name
    · subst same
      exact ⟨[], value, entries, rfl, by simp⟩
    · -- The first field of the name is behind the head.
      rw [held_cons_of_ne same] at present
      obtain ⟨front, found, back, rfl, fresh⟩ := ih present
      exact ⟨(key, value) :: front, found, back, rfl, List.forall_mem_cons.mpr ⟨same, fresh⟩⟩

variable {typeName name : String}

/-- A name that no field has is taken as null, and nothing changes. -/
theorem take_of_absent {entries : List (String × Value)}
    (absent : ∀ entry ∈ entries, entry.1 ≠ name) :
    take name ⟨typeName, entries⟩ = .ok .null ⟨typeName, entries⟩ := by
  have nowhere : entries.findIdx? (·.1 == name) = none := by
    simpa [List.findIdx?_eq_none_iff] using absent
  simp [take, nowhere]

/-- The first field of a name is taken out, and the last of those behind it takes its place. -/
theorem take_of_split {front : List (String × Value)} (fresh : ∀ entry ∈ front, entry.1 ≠ name)
    (typeName : String) (value : Value) (back : List (String × Value)) :
    take name ⟨typeName, front ++ (name, value) :: back⟩ =
      .ok value ⟨typeName, front ++ refill back⟩ := by
  have nowhere : front.findIdx? (·.1 == name) = none := by
    simpa [List.findIdx?_eq_none_iff] using fresh
  have here : (front ++ (name, value) :: back).findIdx? (·.1 == name) = some front.length := by
    simp [List.findIdx?_append, List.findIdx?_cons, nowhere]
  rcases List.eq_nil_or_concat back with rfl | ⟨between, last, rfl⟩
  · -- The field is the last one itself.
    simp [take, here]
  · -- The last field is written over the one that was found, and then dropped at its old place.
    rw [List.concat_eq_append] at here ⊢
    have final : (front ++ (name, value) :: (between ++ [last])).getLast? = some last := by
      rw [← List.cons_append, ← List.append_assoc, List.getLast?_concat]
    have placed : ((front ++ (name, value) :: (between ++ [last])).set front.length last).dropLast =
        front ++ last :: between := by
      rw [List.set_append_right _ _ (Nat.le_refl _), Nat.sub_self, List.set_cons_zero,
        ← List.cons_append, ← List.append_assoc, List.dropLast_concat]
    unfold take
    simp only [here, final, placed, refill_append_singleton]
    simp

/-- The field at the head is taken out by its name, and the last one takes its place. -/
theorem take_head (typeName name : String) (value : Value) (back : List (String × Value)) :
    take name ⟨typeName, (name, value) :: back⟩ = .ok value ⟨typeName, refill back⟩ := by
  have fresh : ∀ entry ∈ ([] : List (String × Value)), entry.1 ≠ name := List.forall_mem_nil _
  exact take_of_split fresh typeName value back

/-- A name that is taken is that of no field, or the fields are split at the first one of it. -/
theorem take_cases (name : String) (fields : Fields) :
    (held name fields.entries = [] ∧ take name fields = .ok .null fields) ∨
      ∃ front value back, fields.entries = front ++ (name, value) :: back ∧
        (∀ entry ∈ front, entry.1 ≠ name) ∧
        take name fields = .ok value ⟨fields.typeName, front ++ refill back⟩ := by
  obtain ⟨typeName, entries⟩ := fields
  by_cases absent : held name entries = []
  · exact .inl ⟨absent, take_of_absent (held_eq_nil_iff.mp absent)⟩
  · obtain ⟨front, value, back, rfl, fresh⟩ := exists_split absent
    exact .inr ⟨front, value, back, rfl, fresh, take_of_split fresh typeName value back⟩

/-- What a name is taken as is the first value under it, and that is gone from there. -/
theorem take_eq (name : String) (fields : Fields) :
    ∃ left, take name fields = .ok ((held name fields.entries).headD .null) left ∧
      left.typeName = fields.typeName ∧
      ∀ other, (held other left.entries).Perm
        (if other = name then (held name fields.entries).tail else held other fields.entries) := by
  rcases take_cases name fields with ⟨absent, taken⟩ | ⟨front, value, back, split, fresh, taken⟩
  · refine ⟨fields, by rw [taken, absent, List.headD_nil], rfl, fun other => ?_⟩
    by_cases same : other = name
    · simp [same, absent]
    · simp [same]
  · -- In front of the first field, nothing is held under the name.
    have none : held name front = [] := held_eq_nil_iff.mpr fresh
    refine ⟨⟨fields.typeName, front ++ refill back⟩, ?_, rfl, fun other => ?_⟩
    · rw [taken, split]
      simp [none]
    -- What is left is all but the field that was taken, in some order.
    have left : (held other (front ++ refill back)).Perm (held other (front ++ back)) :=
      held_perm ((refill_perm back).append_left front) other
    rw [split]
    by_cases same : other = name
    · subst same
      simpa [none] using left
    · simpa [same, held_cons_of_ne (Ne.symm same)] using left

/-- A field that is read is taken first. -/
theorem takeAs_eq_ok {α : Type} {name expected : String} {read : Value → Option α}
    {fields left : Fields} {answer : α} (ran : takeAs name expected read fields = .ok answer left) :
    ∃ value, take name fields = .ok value left ∧ read value = some answer := by
  obtain ⟨value, between, taken, ran⟩ := run_bind_eq_ok_iff.mp ran
  cases found : read value with
  | none =>
    rw [found] at ran
    cases ran
  | some result =>
    rw [found] at ran
    cases ran
    exact ⟨value, taken, found⟩

/-- A string that may be missing is taken as it would be sent. -/
theorem takeString?_eq_ok {name : String} {fields left : Fields} {text : Option String}
    (ran : takeString? name fields = .ok text left) :
    take name fields = .ok (.ofString? text) left := by
  obtain ⟨value, taken, read⟩ := takeAs_eq_ok ran
  rw [taken]
  -- Only null and strings are read so.
  cases value with
  | null | string =>
    cases read
    rfl
  | _ => cases read

end RemoteCall.Fields
