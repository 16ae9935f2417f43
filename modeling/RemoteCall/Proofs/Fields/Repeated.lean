import Mathlib.Data.List.Induction
import Mathlib.Data.List.Nodup
import RemoteCall.Proofs.Fields.Taking
import RemoteCall.Proofs.Message

/-! Fields of a repeated name, and when they are taken in the order in which they were sent. -/

namespace RemoteCall

namespace Fields

/-- Takes fields out one after the other. -/
def takeEach (names : List String) : Taking (List Value) :=
  names.mapM take

/-- What fields are taken as when those of a name come out in the order in which they were sent. -/
def inOrder : List String → List (String × Value) → List Value
  | [], _ => []
  | name :: names, entries =>
    -- The first field of the name goes, and all others stay where they are.
    (held name entries).headD .null :: inOrder names (entries.eraseP (·.1 == name))

/-- Fields of these names come out in order, whatever they hold and whatever is taken. -/
def InOrder (keys : List String) : Prop :=
  ∀ fields : Fields, fields.entries.map Prod.fst = keys → ∀ names,
    ∃ left, takeEach names fields = .ok (inOrder names fields.entries) left

variable {name typeName : String}

/-- A take is followed by the next ones. -/
theorem takeEach_cons {names : List String} {fields between left : Fields} {value : Value}
    {values : List Value} (first : take name fields = .ok value between)
    (next : takeEach names between = .ok values left) :
    takeEach (name :: names) fields = .ok (value :: values) left := by
  rw [takeEach, List.mapM_cons]
  simp only [run_bind, first, run_pure]
  rw [takeEach] at next
  simp only [next]

/-- Takes are followed by further ones. -/
theorem takeEach_append {names others : List String} {fields between left : Fields}
    {values more : List Value} (first : takeEach names fields = .ok values between)
    (next : takeEach others between = .ok more left) :
    takeEach (names ++ others) fields = .ok (values ++ more) left := by
  rw [takeEach] at first next
  rw [takeEach, List.mapM_append]
  simp only [run_bind, first, next, run_pure]

/-- Where the first field of a name has gone, the others of it are still held in order. -/
theorem held_eraseP (name other : String) (entries : List (String × Value)) :
    held other (entries.eraseP (·.1 == name)) =
      if other = name then (held name entries).tail else held other entries := by
  by_cases absent : held name entries = []
  · -- No field of the name is there to go.
    rw [List.eraseP_of_forall_not (by simpa using held_eq_nil_iff.mp absent)]
    by_cases same : other = name
    · simp [same, absent]
    · simp [same]
  · obtain ⟨front, value, back, rfl, fresh⟩ := exists_split absent
    have none : held name front = [] := held_eq_nil_iff.mpr fresh
    rw [List.eraseP_append_right _ (by simpa using fresh), List.eraseP_cons_of_pos (by simp)]
    by_cases same : other = name
    · subst same
      simp [none]
    · simp [same, held_cons_of_ne (Ne.symm same)]

section Distinct

/-- Where no name is repeated, it does not matter that the last field moves. -/
theorem held_refill {front back : List (String × Value)}
    (distinct : ((front ++ back).map Prod.fst).Nodup) (name : String) :
    held name (front ++ refill back) = held name (front ++ back) := by
  have perm : (held name (front ++ refill back)).Perm (held name (front ++ back)) :=
    held_perm ((refill_perm back).append_left front) name
  -- At most one value is held, and that has only one order.
  have few : (held name (front ++ back)).length ≤ 1 := by
    rw [length_held]
    exact List.nodup_iff_count_le_one.mp distinct name
  exact eq_of_perm_of_length_le_one perm few

/-- What is left when a field is taken from fields of which only the first can be repeated. -/
theorem distinct_take {front back : List (String × Value)} {value : Value}
    (distinct : ((front ++ (name, value) :: back).map Prod.fst).tail.Nodup) :
    ((front ++ refill back).map Prod.fst).tail.Nodup ∧
      ∀ other, held other (front ++ refill back) = held other (front ++ back) := by
  cases front with
  | nil =>
    -- The first field of all is taken, and the others are distinct.
    have distinct : (back.map Prod.fst).Nodup := by simpa using distinct
    have moved : ((refill back).map Prod.fst).Nodup :=
      ((refill_perm back).map Prod.fst).nodup_iff.mpr distinct
    exact ⟨moved.tail, @held_refill [] back distinct⟩
  | cons first front =>
    -- A field behind the first one is taken, and so is the last one that moves.
    have fewer : ((front ++ back).map Prod.fst).Nodup := by
      refine distinct.sublist ?_
      simp
    have moved : ((front ++ refill back).map Prod.fst).Nodup :=
      (((refill_perm back).append_left front).map Prod.fst).nodup_iff.mpr fewer
    refine ⟨moved, fun other => ?_⟩
    have same := held_refill fewer other
    rw [List.cons_append, List.cons_append, ← List.singleton_append, held_append, same,
      ← held_append, List.singleton_append]

/-- Fields among which no name but that of the first one is repeated hold what others do. -/
structure Orderly (entries sent : List (String × Value)) : Prop where
  /-- Only the name of the first field can be there once more. -/
  distinct : (entries.map Prod.fst).tail.Nodup
  same : ∀ name, held name entries = held name sent

/-- One field is taken in order, and so can be the next one. -/
theorem Orderly.take {entries sent : List (String × Value)} (orderly : Orderly entries sent)
    (name typeName : String) :
    ∃ left, Fields.take name ⟨typeName, entries⟩ =
        .ok ((held name sent).headD .null) ⟨typeName, left⟩ ∧
      Orderly left (sent.eraseP (·.1 == name)) := by
  obtain ⟨distinct, same⟩ := orderly
  rw [← same name]
  rcases take_cases name ⟨typeName, entries⟩ with
    ⟨absent, taken⟩ | ⟨front, value, back, rfl, fresh, taken⟩
  · refine ⟨entries, by rw [taken, absent, List.headD_nil], distinct, fun other => ?_⟩
    rw [held_eraseP, ← same name, ← same other]
    by_cases equal : other = name
    · simp [equal, absent]
    · simp [equal]
  · have none : held name front = [] := held_eq_nil_iff.mpr fresh
    obtain ⟨distinctToo, held⟩ := distinct_take distinct
    refine ⟨front ++ refill back, by simpa [none] using taken, distinctToo, fun other => ?_⟩
    -- What is held is what was held before, without the value that was taken.
    rw [held_eraseP, ← same name, ← same other, held]
    by_cases equal : other = name
    · subst equal
      simp [none]
    · simp [equal, held_cons_of_ne (Ne.symm equal)]

/-- All fields are taken in order. -/
theorem Orderly.takeEach {entries sent : List (String × Value)} (orderly : Orderly entries sent)
    (names : List String) (typeName : String) :
    ∃ left, Fields.takeEach names ⟨typeName, entries⟩ = .ok (inOrder names sent) left := by
  -- The induction is on the names, from any fields that hold what was sent.
  induction names generalizing entries sent with
  | nil => exact ⟨⟨typeName, entries⟩, rfl⟩
  | cons name names ih =>
    obtain ⟨between, taken, still⟩ := orderly.take name typeName
    obtain ⟨left, ran⟩ := ih still
    exact ⟨left, takeEach_cons taken ran⟩

end Distinct

section Doubled

/-- The answer to one more take, in order: of the fields of its name, the first that is left. -/
theorem inOrder_append_singleton (names : List String) (name : String)
    (entries : List (String × Value)) :
    inOrder (names ++ [name]) entries =
      inOrder names entries ++ [((held name entries)[names.count name]?).getD .null] := by
  induction names generalizing entries with
  | nil => cases found : held name entries <;> simp [inOrder, found]
  | cons first names ih =>
    rw [List.cons_append, inOrder, inOrder, ih, held_eraseP, List.cons_append]
    by_cases same : name = first
    · subst same
      simp [List.getElem?_tail]
    · simp [same, List.count_cons_of_ne (Ne.symm same)]

/-- Fields of these names that hold nothing. -/
def blank (names : List String) : List (String × Value) :=
  names.map fun name => (name, .null)

@[simp] theorem names_blank (names : List String) : (blank names).map Prod.fst = names := by
  rw [blank, List.map_map]
  exact List.map_id names

theorem held_blank (name : String) (names : List String) :
    held name (blank names) = List.replicate (names.count name) .null := by
  induction names with
  | nil => rfl
  | cons first names ih =>
    by_cases same : first = name
    · subst same
      simp [blank, List.replicate_succ, ← ih]
    · simp [blank, held_cons_of_ne same, List.count_cons_of_ne same, ← ih]

/-- The name of the last field takes that away, where all fields of the name hold nothing. -/
theorem take_last {front : List (String × Value)}
    (nothing : ∀ entry ∈ front, entry.1 = name → entry.2 = .null) :
    take name ⟨typeName, front ++ [(name, .null)]⟩ = .ok .null ⟨typeName, front⟩ := by
  by_cases absent : held name front = []
  · simpa using take_of_split (held_eq_nil_iff.mp absent) typeName .null []
  · -- The last field moves into the place of one that is like it.
    obtain ⟨between, value, back, rfl, fresh⟩ := exists_split absent
    obtain rfl : value = .null := nothing (name, value) (by simp) rfl
    have taken := take_of_split fresh typeName .null (back ++ [(name, .null)])
    rw [refill_append_singleton] at taken
    simpa using taken

/-- Fields that hold nothing are taken away from the end, whatever is in front of them. -/
theorem takeEach_reverse {front : List (String × Value)} (typeName : String) (names : List String)
    (nothing : ∀ entry ∈ front, entry.1 ∈ names → entry.2 = .null) :
    takeEach names.reverse ⟨typeName, front ++ blank names⟩ =
      .ok (List.replicate names.length .null) ⟨typeName, front⟩ := by
  induction names using List.reverseRecOn with
  | nil => simp [takeEach, blank]
  | append_singleton names last ih =>
    have entries : front ++ blank (names ++ [last]) = front ++ blank names ++ [(last, .null)] := by
      simp [blank]
    have nothingFurther : ∀ entry ∈ front ++ blank names, entry.1 = last → entry.2 = .null := by
      intro entry member same
      rcases List.mem_append.mp member with member | member
      · exact nothing entry member (by simp [same])
      · obtain ⟨_, _, rfl⟩ := List.mem_map.mp member
        rfl
    rw [entries, List.reverse_concat, List.length_append, List.length_singleton,
      List.replicate_succ]
    exact takeEach_cons (take_last nothingFurther)
      (ih fun entry member repeated => nothing entry member (by simp [repeated]))

/-- Where a name is repeated behind the first field, it is there a last time. -/
theorem exists_doubled {keys : List String} (doubled : ¬ keys.tail.Nodup) :
    ∃ first between name rest, keys = first :: (between ++ name :: rest) ∧
      name ∈ between ∧ name ∉ rest := by
  obtain ⟨name, often⟩ : ∃ name, 1 < keys.tail.count name := by
    simpa [List.nodup_iff_count_le_one] using doubled
  have member : name ∈ keys.tail.reverse :=
    List.mem_reverse.mpr (List.count_pos_iff.mp (by omega))
  obtain ⟨rest, between, split, fresh⟩ := List.eq_append_cons_of_mem member
  have tail : keys.tail = between.reverse ++ name :: rest.reverse := by
    simpa using congrArg List.reverse split
  -- It is there at least twice, and only once from the last time on.
  have before : name ∈ between.reverse := by
    have last : rest.reverse.count name = 0 := List.count_eq_zero.mpr (by simpa using fresh)
    rw [tail, List.count_append, List.count_cons_self, last] at often
    exact List.count_pos_iff.mp (by omega)
  cases keys with
  | nil => simp at often
  | cons first keys =>
    exact ⟨first, between.reverse, name, rest.reverse, by rw [← tail]; rfl, before,
      by simpa using fresh⟩

/-- Where all fields are taken in order, no name is repeated behind the first field. -/
theorem InOrder.nodup {keys : List String} (ordered : InOrder keys) : keys.tail.Nodup := by
  by_contra doubled
  obtain ⟨first, between, name, rest, rfl, member, fresh⟩ := exists_doubled doubled
  -- The last field of the name holds something, and no other field does.
  let front := blank (first :: between) ++ [(name, .bool true)]
  have nothing : ∀ entry ∈ front, entry.1 ∈ rest → entry.2 = .null := by
    intro entry here repeated
    rcases List.mem_append.mp here with here | here
    · obtain ⟨_, _, rfl⟩ := List.mem_map.mp here
      rfl
    · obtain rfl := List.mem_singleton.mp here
      exact absurd repeated fresh
  -- When what is behind it is gone, and then the first field, it is the first of its name.
  have cleared := takeEach_reverse "" rest nothing
  have opened : take first ⟨"", front⟩ =
      .ok .null ⟨"", (name, .bool true) :: blank between⟩ := by
    have taken := take_head "" first .null (blank between ++ [(name, .bool true)])
    rw [refill_append_singleton] at taken
    exact taken
  have found : take name ⟨"", (name, .bool true) :: blank between⟩ =
      .ok (.bool true) ⟨"", refill (blank between)⟩ :=
    take_head "" name (.bool true) (blank between)
  have pair : takeEach [first, name] ⟨"", front⟩ =
      .ok [.null, .bool true] ⟨"", refill (blank between)⟩ :=
    takeEach_cons opened (takeEach_cons found rfl)
  have ran := takeEach_append cleared pair
  rw [List.append_cons, List.append_cons _ _ [Value.bool true]] at ran
  -- In order, a field before that one comes first, and holds nothing.
  have earlier : (held name (front ++ blank rest))[(rest.reverse ++ [first]).count name]? =
      some .null := by
    have fewer : (rest.reverse ++ [first]).count name < (first :: between).count name := by
      have gone : rest.reverse.count name = 0 := List.count_eq_zero.mpr (by simpa using fresh)
      have there : 0 < between.count name := List.count_pos_iff.mpr member
      rw [List.count_append, gone, List.count_singleton, List.count_cons]
      omega
    rw [held_append, held_append, held_blank, List.append_assoc,
      List.getElem?_append_left (by rwa [List.length_replicate]),
      List.getElem?_replicate_of_lt fewer]
  obtain ⟨left, meant⟩ := ordered ⟨"", front ++ blank rest⟩ (by simp [front])
    (rest.reverse ++ [first] ++ [name])
  rw [ran, inOrder_append_singleton, earlier] at meant
  injection meant with meant
  have last := congrArg List.getLast? meant
  simp at last

end Doubled

/-- Fields are taken in order exactly when no name is repeated behind the first field. -/
theorem inOrder_iff (keys : List String) : InOrder keys ↔ keys.tail.Nodup := by
  constructor
  · exact InOrder.nodup
  · rintro distinct fields rfl names
    have orderly : Orderly fields.entries fields.entries := ⟨distinct, fun _ => rfl⟩
    exact orderly.takeEach names fields.typeName

end Fields

namespace SessionId

open Fields

/-- Whether taking the number of the process puts a user name in front of all others. -/
def Overtaken (entries : List (String × Value)) : Prop :=
  (entries.find? fun entry => entry.1 == "pid" || entry.1 == "user_name").map Prod.fst =
      some "pid" ∧
    entries.getLast?.map Prod.fst = some "user_name"

instance (entries : List (String × Value)) : Decidable (Overtaken entries) :=
  inferInstanceAs (Decidable (_ ∧ _))

/-- The user that is read from the fields of a session. -/
def userOf (entries : List (String × Value)) : Value :=
  -- The last field gets in front only where the number of the process leaves a place there.
  if Overtaken entries then (held "user_name" entries).getLastD .null
  else (held "user_name" entries).headD .null

/-- What comes first of the number of the process and the users, where a user is in front. -/
theorem not_overtaken_of_held {front back : List (String × Value)}
    (fresh : ∀ entry ∈ front, entry.1 ≠ "pid") (present : held "user_name" front ≠ []) :
    ¬ Overtaken (front ++ back) := by
  obtain ⟨before, value, between, rfl, absent⟩ := exists_split present
  rintro ⟨first, _⟩
  -- The search ends at the first user.
  have unmet : before.find? (fun entry => entry.1 == "pid" || entry.1 == "user_name") = none := by
    rw [List.find?_eq_none]
    intro entry member
    simp [fresh entry (by simp [member]), absent entry member]
  simp [List.find?_append, unmet] at first

/-- When the number of the process is gone, the first user is the one that is read. -/
theorem headD_held_refill {front back : List (String × Value)} (value : Value)
    (fresh : ∀ entry ∈ front, entry.1 ≠ "pid") :
    (held "user_name" (front ++ refill back)).headD .null =
      userOf (front ++ ("pid", value) :: back) := by
  have skip (back : List (String × Value)) :
      held "user_name" (("pid", value) :: back) = held "user_name" back :=
    held_cons_of_ne (by decide) value back
  rcases List.eq_nil_or_concat back with rfl | ⟨between, ⟨key, last⟩, rfl⟩
  · -- Nothing moves where the number of the process is the last field.
    have steady : ¬ Overtaken (front ++ [("pid", value)]) := by simp [Overtaken]
    rw [userOf, if_neg steady, held_append, held_append, skip, refill_nil]
  · rw [List.concat_eq_append, refill_append_singleton]
    by_cases user : key = "user_name"
    · subst user
      by_cases free : held "user_name" front = []
      · -- The user at the end moves in front of all others.
        have unmet : front.find? (fun entry => entry.1 == "pid" || entry.1 == "user_name") =
            none := by
          rw [List.find?_eq_none]
          intro entry member
          simp [fresh entry member, held_eq_nil_iff.mp free entry member]
        have overtaken :
            Overtaken (front ++ ("pid", value) :: (between ++ [("user_name", last)])) := by
          constructor
          · simp [List.find?_append, unmet]
          · rw [← List.cons_append, ← List.append_assoc, List.getLast?_concat]
            rfl
        rw [userOf, if_pos overtaken]
        simp [free, skip]
      · -- There is one in front of the place that it moves to.
        rw [userOf, if_neg (not_overtaken_of_held fresh free), held_append, held_append]
        cases found : held "user_name" front with
        | nil => exact absurd found free
        | cons first others => rfl
    · -- It is no user that moves.
      have steady : ¬ Overtaken (front ++ ("pid", value) :: (between ++ [(key, last)])) := by
        rintro ⟨_, final⟩
        rw [← List.cons_append, ← List.append_assoc, List.getLast?_concat] at final
        exact user (by simpa using final)
      rw [userOf, if_neg steady, held_append, held_append, skip, held_append]
      simp [held_cons_of_ne user]

/-- The number of a process is read from a field that is there. -/
theorem exists_split_of_takeProcessId {typeName : String} {entries : List (String × Value)}
    {processId : UInt32} {left : Fields}
    (ran : takeProcessId ⟨typeName, entries⟩ = .ok processId left) :
    ∃ front value back, entries = front ++ ("pid", value) :: back ∧
      (∀ entry ∈ front, entry.1 ≠ "pid") ∧ left = ⟨typeName, front ++ refill back⟩ := by
  obtain ⟨number, between, counted, ran⟩ := run_bind_eq_ok_iff.mp ran
  obtain ⟨value, taken, read⟩ := takeAs_eq_ok counted
  -- Once it is taken, the number is only looked at.
  have same : between = left := by
    split at ran
    · cases ran
      rfl
    · cases ran
  subst same
  rcases take_cases "pid" ⟨typeName, entries⟩ with
    ⟨_, found⟩ | ⟨front, other, back, rfl, fresh, found⟩
  · -- A number that is missing would have been read from null.
    rw [found] at taken
    cases taken
    cases read
  · rw [found] at taken
    cases taken
    exact ⟨front, _, back, rfl, fresh, rfl⟩

/-- A session is read with the user that its fields come to. -/
theorem userName_of_ofValue {entries : List (String × Value)} {session : SessionId}
    (read : Message.ofValue (.object (Message.typeName SessionId) entries) = .ok session) :
    Value.ofString? session.userName = userOf entries := by
  obtain ⟨fields, opened, read⟩ := except_bind_eq_ok_iff.mp read
  obtain rfl : ⟨Message.typeName SessionId, entries⟩ = fields := by
    simpa [Value.openFields] using opened
  split at read
  · next message left ran =>
    cases read
    -- The number of the process is taken first, and the user from what is left.
    obtain ⟨processId, between, number, ran⟩ := run_bind_eq_ok_iff.mp ran
    obtain ⟨userName, after, user, ran⟩ := run_bind_eq_ok_iff.mp ran
    obtain ⟨host, _, _, ran⟩ := run_bind_eq_ok_iff.mp ran
    obtain ⟨program, _, _, ran⟩ := run_bind_eq_ok_iff.mp ran
    cases ran
    obtain ⟨front, value, back, rfl, fresh, rfl⟩ := exists_split_of_takeProcessId number
    obtain ⟨left, taken, _⟩ :=
      take_eq "user_name" ⟨Message.typeName SessionId, front ++ refill back⟩
    have found := (takeString?_eq_ok user).symm.trans taken
    injection found with found
    exact found.trans (headD_held_refill value fresh)
  · cases read

/--
Fields are taken in the order in which they were sent, whatever they hold and whatever is taken
between, exactly as long as no name is repeated behind the first field.

Beyond that, a field that is taken from in front of others is replaced by the last one. So a session
with a repeated user is read with the last one, when that is the last field of all and the number
of the process stands in front of the first user, and with the first one otherwise.
-/
theorem repeated_decided (entries : List (String × Value)) :
    (InOrder (entries.map Prod.fst) ↔ (entries.map Prod.fst).tail.Nodup) ∧
      ∀ session : SessionId,
        Message.ofValue (.object (Message.typeName SessionId) entries) = .ok session →
          Value.ofString? session.userName = userOf entries := by
  constructor
  · exact inOrder_iff (entries.map Prod.fst)
  · exact fun _ => userName_of_ofValue

/-- The last of two users is read where the number of the process was sent in front of both. -/
theorem repeated_user_overtakes :
    let entries : List (String × Value) := [("pid", .word 7), ("user_name", .string "alice"),
      ("host", .string "h"), ("program", .string "p"), ("user_name", .string "bob")]
    let session : SessionId :=
      { userName := some "bob", host := "h", program := "p", processId := 7 }
    (held "user_name" entries).head? = some (.string "alice") ∧
      Message.ofValue (.object (Message.typeName SessionId) entries) = .ok session ∧
        ¬ InOrder (entries.map Prod.fst) := by
  intro entries session
  have doubled : ¬ (entries.map Prod.fst).tail.Nodup := by decide
  exact ⟨rfl, rfl, fun ordered => doubled ordered.nodup⟩

end SessionId

end RemoteCall
