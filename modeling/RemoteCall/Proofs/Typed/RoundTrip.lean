import RemoteCall.Proofs.Codec.RoundTrip
import RemoteCall.Proofs.Typed
import RemoteCall.Sample.Shapes

/-! Typed data comes back from its self-describing values, on this side and on the other. -/

namespace RemoteCall

namespace Tree

variable {key : String} {tree : Tree} {entries : List (String × Tree)}

/-- Entries are in the order of their keys, and no key is there twice. -/
def Sorted (entries : List (String × Tree)) : Prop :=
  entries.Pairwise fun entry later => entry.1 < later.1

/-- Among entries that one was put to, there are only that one and those before. -/
theorem mem_of_mem_insert {entry : String × Tree} (found : entry ∈ insert key tree entries) :
    entry = (key, tree) ∨ entry ∈ entries := by
  fun_induction insert key tree entries with
  | case1 => simpa using found
  | case2 other present entries below => simpa using found
  | case3 =>
    rcases List.mem_cons.mp found with this | rest
    · exact .inl this
    · exact .inr (List.mem_cons_of_mem _ rest)
  | case4 other present entries below different ih =>
    -- The first entry is one of those before, and the new one is put behind it.
    rcases List.mem_cons.mp found with rfl | rest
    · exact .inr List.mem_cons_self
    · exact (ih rest).imp_right (List.mem_cons_of_mem _)

/-- Entries stay in order when one is put to them. -/
theorem Sorted.insert (sorted : Sorted entries) (key : String) (tree : Tree) :
    Sorted (insert key tree entries) := by
  fun_induction Tree.insert key tree entries with
  | case1 => exact List.pairwise_singleton _ _
  | case2 other present entries below =>
    -- All keys behind the first are greater than that, and so than the new one.
    obtain ⟨least, _⟩ := List.pairwise_cons.mp sorted
    refine List.pairwise_cons.mpr ⟨fun entry found => ?_, sorted⟩
    rcases List.mem_cons.mp found with rfl | rest
    · exact below
    · exact String.lt_trans below (least entry rest)
  | case3 =>
    obtain ⟨least, rest⟩ := List.pairwise_cons.mp sorted
    exact List.pairwise_cons.mpr ⟨least, rest⟩
  | case4 other present entries below different ih =>
    -- The new entry goes behind the first, and so does all that was there already.
    obtain ⟨least, rest⟩ := List.pairwise_cons.mp sorted
    refine List.pairwise_cons.mpr ⟨fun entry found => ?_, ih rest⟩
    rcases mem_of_mem_insert found with rfl | rest
    · grind
    · exact least entry rest

/-- An entry whose key is greater than all others is put behind them. -/
theorem insert_of_greatest (greatest : ∀ entry ∈ entries, entry.1 < key) (tree : Tree) :
    insert key tree entries = entries ++ [(key, tree)] := by
  induction entries with
  | nil => rfl
  | cons entry entries ih =>
    obtain ⟨other, present⟩ := entry
    have above : other < key := greatest _ List.mem_cons_self
    have further := ih fun entry found => greatest entry (List.mem_cons_of_mem _ found)
    have notBelow : ¬ key < other := by grind
    have different : key ≠ other := by grind
    simp [insert, notBelow, different, further]

/-- The first entry is found under its own key, and the others are looked up behind it. -/
theorem lookup_cons (name key : String) (tree : Tree) (entries : List (String × Tree)) :
    ((key, tree) :: entries).lookup name =
      if name = key then some tree else entries.lookup name := by
  by_cases same : name = key
  · rw [if_pos same, same, List.lookup_cons_self]
  · have other : (name == key) = false := beq_false_of_ne same
    simp only [List.lookup_cons, other, if_neg same]

/-- Under a key is what was put there, and under others what was there before. -/
theorem lookup_insert (name key : String) (tree : Tree) (entries : List (String × Tree)) :
    (insert key tree entries).lookup name =
      if name = key then some tree else entries.lookup name := by
  fun_induction insert key tree entries with
  | case1 => rw [lookup_cons]
  | case2 other present entries below => rw [lookup_cons]
  | case3 present entries =>
    -- The entry that was there is not found any more.
    rw [lookup_cons, lookup_cons]
    by_cases here : name = key
    · rw [if_pos here, if_pos here]
    · rw [if_neg here, if_neg here, if_neg here]
  | case4 other present entries below different ih =>
    rw [lookup_cons, lookup_cons, ih]
    by_cases here : name = other
    · rw [if_pos here, if_pos here, if_neg (here ▸ Ne.symm different)]
    · rw [if_neg here, if_neg here]

/-- A tree comes back from its self-describing value. -/
def Restored (tree : Tree) : Prop :=
  tree.toValue.toTree = tree

/-- An integer of any type comes back, whether or not it is told as a signed one. -/
theorem restored_integer {kind : IntegerKind} {number : Int} (holds : kind.Holds number) :
    Restored (.integer number) := by
  -- All types lie within the signed numbers and the unsigned ones together.
  have bounds : -0x8000000000000000 ≤ number ∧ number < 0x10000000000000000 := by
    cases kind <;> simp [IntegerKind.Holds, IntegerKind.least, IntegerKind.greatest] at holds <;>
      omega
  rw [Restored, toValue]
  split
  · next small =>
    rw [Value.toTree, Int64.toInt_ofInt_of_le (by omega) (by omega)]
  · next large =>
    -- What is too large to be signed is not negative, so nothing is lost of it as unsigned.
    have counted : number.toNat < 2 ^ 64 := by omega
    rw [Value.toTree, UInt64.toNat_ofNat_of_lt' counted]
    congr 1
    omega

/-- A number of double precision comes back, or null in its place. -/
theorem restored_ofDouble (number : Double) : Restored (ofDouble number) := by
  unfold ofDouble
  split
  · next finite => simp [Restored, toValue, Value.toTree, ofDouble, finite]
  · rfl

/-- Items come back in a row if each of them does. -/
theorem restored_sequence {items : List Tree} (restored : ∀ item ∈ items, Restored item) :
    Restored (.sequence items) := by
  rw [Restored, toValue, Value.toTree]
  congr 1
  induction items with
  | nil => rfl
  | cons item items ih =>
    obtain ⟨first, rest⟩ := List.forall_mem_cons.mp restored
    rw [toValues, Value.toTrees, first, ih rest]

/-- Entries that are put behind others in order stay behind them. -/
theorem toEntries_toFields (front : List (String × Tree)) (sorted : Sorted (front ++ entries))
    (restored : ∀ entry ∈ entries, Restored entry.2) :
    Value.toEntries (toFields entries) front = front ++ entries := by
  induction entries generalizing front with
  | nil => simp [toFields, Value.toEntries]
  | cons entry entries ih =>
    obtain ⟨key, tree⟩ := entry
    obtain ⟨first, rest⟩ := List.forall_mem_cons.mp restored
    -- As all are in order, the next entry has the greatest key so far.
    have greatest : ∀ entry ∈ front, entry.1 < key := fun entry found =>
      (List.pairwise_append.mp sorted).2.2 entry found _ List.mem_cons_self
    have further : Sorted ((front ++ [(key, tree)]) ++ entries) := by simpa using sorted
    rw [toFields, Value.toEntries, first, insert_of_greatest greatest, ih _ further rest,
      List.append_assoc, List.singleton_append]

/-- Entries in order come back if each of their trees does. -/
theorem restored_record (sorted : Sorted entries) (restored : ∀ entry ∈ entries, Restored entry.2) :
    Restored (.record entries) := by
  have back := toEntries_toFields [] sorted restored
  rw [Restored, toValue, Value.toTree, back, List.nil_append]

end Tree

namespace Shape

mutual

/-- The numbers of double precision in data are finite. -/
def Finite : (shape : Shape) → shape.Data → Prop
  | .double, number => number.isFinite = true
  | .list element, (items : List element.Data) => ∀ item ∈ items, element.Finite item
  | .option inner, some data => inner.Finite data
  | .record _ _ fields, data => FiniteFields fields data
  | .renamed _ inner, data => inner.Finite data
  | _, _ => True

/-- The numbers of double precision in the data of fields are finite. -/
def FiniteFields : (fields : List (String × Shape)) → FieldData fields → Prop
  | [], () => True
  | (_, shape) :: fields, (data, rest) => shape.Finite data ∧ FiniteFields fields rest

end

/-- No data of a shape is null as a tree, as long as its numbers are finite. -/
def NeverNull (shape : Shape) : Prop :=
  ∀ data, shape.Finite data → shape.write data ≠ .null

mutual

/--
Data of a shape can be told by its tree, as long as its numbers are finite.

What is optional is never null where it is present, the fields of a record have different names,
and no number is of single precision.
-/
def Unambiguous : Shape → Prop
  -- Whether a number of single precision survives as one of double precision is left open.
  | .single => False
  | .list element => element.Unambiguous
  | .option inner => inner.Unambiguous ∧ inner.NeverNull
  | .record _ _ fields => (fields.map Prod.fst).Nodup ∧ UnambiguousFields fields
  | .renamed _ inner => inner.Unambiguous
  | _ => True

/-- The data of each field can be told by its tree. -/
def UnambiguousFields : List (String × Shape) → Prop
  | [] => True
  | (_, shape) :: fields => shape.Unambiguous ∧ UnambiguousFields fields

end

/-! ### The tree of data comes back -/

/-- The trees of fields are in the order of their names. -/
theorem sorted_writeFields :
    (fields : List (String × Shape)) → (data : FieldData fields) →
      Tree.Sorted (writeFields fields data)
  | [], () => List.Pairwise.nil
  | (_, _) :: fields, (_, rest) => (sorted_writeFields fields rest).insert _ _

mutual

/-- The tree of data of any shape comes back from its self-describing value. -/
theorem restored_write : (shape : Shape) → (data : shape.Data) → (shape.write data).Restored
  | .unit, () => rfl
  | .bool, _ => rfl
  | .integer _, number => Tree.restored_integer number.property
  | .single, number => Tree.restored_ofDouble number.toDouble
  | .double, number => Tree.restored_ofDouble number
  | .string, _ => rfl
  | .list element, (items : List element.Data) => by
    -- Each item of the tree was written for one of the list.
    refine Tree.restored_sequence fun tree written => ?_
    obtain ⟨item, _, rfl⟩ := List.mem_map.mp written
    exact restored_write element item
  | .option _, none => rfl
  | .option inner, some data => restored_write inner data
  | .record _ _ fields, data =>
    Tree.restored_record (sorted_writeFields fields data) (restored_writeFields fields data)
  | .renamed _ inner, data => restored_write inner data

/-- The tree of each field comes back. -/
theorem restored_writeFields :
    (fields : List (String × Shape)) → (data : FieldData fields) →
      ∀ entry ∈ writeFields fields data, entry.2.Restored
  | [], () => fun _ found => nomatch found
  | (_, shape) :: fields, (data, rest) => fun entry found => by
    rcases Tree.mem_of_mem_insert found with rfl | further
    · exact restored_write shape data
    · exact restored_writeFields fields rest entry further

end

/-! ### Data is read from its tree -/

/-- Entries have the tree of each field under its name. -/
def Holds : (fields : List (String × Shape)) → FieldData fields → List (String × Tree) → Prop
  | [], (), _ => True
  | (name, shape) :: fields, (data, rest), entries =>
    entries.lookup name = some (shape.write data) ∧ Holds fields rest entries

/-- What is put under another name leaves the trees of fields where they are. -/
theorem Holds.insert {name : String} (tree : Tree) {entries : List (String × Tree)} :
    {fields : List (String × Shape)} → {data : FieldData fields} → Holds fields data entries →
      name ∉ fields.map Prod.fst → Holds fields data (Tree.insert name tree entries)
  | [], (), _, _ => trivial
  | (other, shape) :: fields, (data, rest), ⟨found, further⟩, absent => by
    have different : other ≠ name := fun same => absent (same ▸ List.mem_cons_self)
    have behind : name ∉ fields.map Prod.fst := fun later => absent (List.mem_cons_of_mem _ later)
    -- The first field is looked up by another name, and the others come by induction.
    refine ⟨?_, further.insert tree behind⟩
    rw [Tree.lookup_insert, if_neg different, found]

/-- Fields with different names are all there once they are written. -/
theorem holds_writeFields :
    (fields : List (String × Shape)) → (data : FieldData fields) →
      (fields.map Prod.fst).Nodup → Holds fields data (writeFields fields data)
  | [], (), _ => trivial
  | (name, shape) :: fields, (data, rest), distinct => by
    obtain ⟨absent, further⟩ := List.nodup_cons.mp distinct
    refine ⟨?_, (holds_writeFields fields rest further).insert _ absent⟩
    rw [writeFields, Tree.lookup_insert, if_pos rfl]

/-- Items are read back in a row if each of them is. -/
theorem mapM_map_eq_ok {α β ε : Type} {write : α → β} {read : β → Except ε α} {items : List α}
    (back : ∀ item ∈ items, read (write item) = .ok item) :
    (items.map write).mapM read = .ok items := by
  induction items with
  | nil => rfl
  | cons item items ih =>
    obtain ⟨first, rest⟩ := List.forall_mem_cons.mp back
    rw [List.map_cons, List.mapM_cons, first, ih rest]
    rfl

/-- Where something is present, optional data is read like other data. -/
theorem read_option_of_ne_null {inner : Shape} {tree : Tree} (present : tree ≠ .null) :
    read (.option inner) tree = (inner.read tree).map some := by
  cases tree with
  | null => exact absurd rfl present
  | _ => rfl

mutual

/-- Data is read from its own tree. -/
theorem read_write : (shape : Shape) → (data : shape.Data) → shape.Unambiguous →
    shape.Finite data → shape.read (shape.write data) = .ok data
  | .unit, (), _, _ => rfl
  | .bool, _, _, _ => rfl
  | .integer _, number, _, _ => dif_pos number.property
  | .double, number, _, finite => by
    -- Only an infinite number or none would have been written as null.
    have real : Tree.ofDouble number = .real number := if_pos finite
    change read .double (Tree.ofDouble number) = .ok number
    rw [real]
    rfl
  | .string, _, _, _ => rfl
  | .list element, (items : List element.Data), unambiguous, finite => by
    exact mapM_map_eq_ok fun item member =>
      read_write element item unambiguous (finite item member)
  | .option _, none, _, _ => rfl
  | .option inner, some data, ⟨unambiguous, neverNull⟩, finite => by
    -- What is present is not taken for what is absent.
    have present : inner.write data ≠ .null := neverNull data finite
    have inside := read_write inner data unambiguous finite
    change read (.option inner) (inner.write data) = .ok (some data)
    rw [read_option_of_ne_null present, inside]
    rfl
  | .record _ _ fields, data, ⟨distinct, unambiguous⟩, finite => by
    -- The fields are looked up by their names, whatever order they were put in.
    have found := holds_writeFields fields data distinct
    have inside := readFields_of_holds fields data unambiguous finite found
    change (readFields fields (writeFields fields data)).mapError FieldFault.cause = .ok data
    rw [inside]
    rfl
  | .renamed _ inner, data, unambiguous, finite => read_write inner data unambiguous finite

/-- The data of fields is read from entries that have the tree of each. -/
theorem readFields_of_holds :
    (fields : List (String × Shape)) → (data : FieldData fields) → UnambiguousFields fields →
      FiniteFields fields data → {entries : List (String × Tree)} → Holds fields data entries →
        readFields fields entries = .ok data
  | [], (), _, _, _, _ => rfl
  | (name, shape) :: fields, (data, rest), ⟨unambiguous, others⟩, ⟨finite, further⟩, _,
      ⟨found, behind⟩ => by
    rw [readFields, found, readFields_of_holds fields rest others further behind]
    simp only [read_write shape data unambiguous finite]
    rfl

end

variable {shape : Shape} {data : shape.Data}

/-- Data of a shape that is not ambiguous survives as a self-describing value. -/
theorem survives_of_unambiguous (unambiguous : shape.Unambiguous) (finite : shape.Finite data) :
    shape.Survives data := by
  -- The value has the very tree that it was made of.
  have restored : (shape.toValue data).toTree = shape.write data := restored_write shape data
  rw [Survives, ofValue, restored, read_write shape data unambiguous finite]
  rfl

/-! ### What is known of the data on the wire -/

/-- The shape of the elements, where data is a list and there. -/
def listed? : (shape : Shape) → shape.Data → Option Shape
  | .list element, _ => some element
  | .option inner, some data => inner.listed? data
  | _, _ => none

/-- Whether data of a shape has named fields. -/
def hasFields : Shape → Bool
  | .record .. => true
  | .renamed _ inner => inner.hasFields
  | _ => false

/-- The value of data does not know the type of its elements by itself. -/
theorem toValue_ne_array (shape : Shape) (data : shape.Data) (elementType : String)
    (items : List Value) : shape.toValue data ≠ .array elementType items := by
  unfold toValue
  cases shape.write data with
  | integer number =>
    -- A number is signed or not, and no array either way.
    rw [Tree.toValue]
    split <;> nofun
  | _ => nofun

/-- A response is an array of elements under a name exactly if its data is a list of such. -/
theorem toResponse_eq_array_iff {elementType : String} :
    (shape : Shape) → (data : shape.Data) →
      ((∃ items, shape.toResponse data = .array elementType items) ↔
        (shape.listed? data).map wireName = some elementType)
  | .list element, (data : List element.Data) => by
    have made : toResponse (.list element) data =
        .array element.wireName (Tree.toValues (data.map element.write)) := rfl
    simp [made, listed?]
  | .option inner, some data => toResponse_eq_array_iff inner data
  | .option inner, none => by
    have made : toResponse (.option inner) none = .null := by
      unfold toResponse
      split
      · next listed => cases listed
      · rfl
    simp [made, listed?]
  | .unit, data | .bool, data | .integer _, data | .single, data | .double, data
  | .string, data | .record _ _ _, data | .renamed _ _, data => by
    -- Such data has no elements whose type could be known.
    refine iff_of_false ?_ nofun
    rintro ⟨items, made⟩
    exact toValue_ne_array _ data elementType items made

/-- Data with named fields has entries for its value. -/
theorem exists_entries : (shape : Shape) → (data : shape.Data) → shape.hasFields = true →
    ∃ entries, shape.toValue data = .map entries
  | .record _ _ fields, data, _ => ⟨Tree.toFields (writeFields fields data), rfl⟩
  | .renamed _ inner, data, named => exists_entries inner data named
  | .unit, _, named | .bool, _, named | .integer _, _, named | .single, _, named
  | .double, _, named | .string, _, named | .list _, _, named | .option _, _, named => nomatch named

/--
Typed data comes back from its value, its response and its tagged form, on either side of the wire.

A response knows the type of its elements exactly where the data is a list that is there.
-/
theorem conveyed_in_every_form (unambiguous : shape.Unambiguous) (finite : shape.Finite data) :
    (shape.toValue data).Conveys shape.ofValue data ∧
      (shape.toResponse data).Conveys shape.ofValue data ∧
      (shape.hasFields = true → ∃ tagged, shape.toTagged data = .ok tagged ∧
        tagged.objectType? = some shape.wireName ∧ tagged.Conveys shape.ofValue data) ∧
      ∀ elementType, (∃ items, shape.toResponse data = .array elementType items) ↔
        (shape.listed? data).map wireName = some elementType := by
  have survives := survives_of_unambiguous unambiguous finite
  refine ⟨Value.conveys_of_read survives, Value.conveys_of_read survives.ofValue_toResponse,
    fun named => ?_, fun elementType => toResponse_eq_array_iff shape data⟩
  -- The value consists of entries, which are put under the name of the shape as they are.
  obtain ⟨entries, keyed⟩ := exists_entries shape data named
  have made : shape.toTagged data = .ok (.object shape.wireName entries) := by
    rw [toTagged, keyed]
    rfl
  exact ⟨_, made, rfl, Value.conveys_of_read (survives.ofValue_toTagged made)⟩

/-- A point comes back under its name, and in a row of points that may be absent as a whole. -/
theorem conveyed_in_every_form_points :
    let first : Sample.point.Data :=
      (Sample.number .i32 (-4), ⟨0x4004000000000000⟩, some "origin", ())
    let second : Sample.point.Data := (Sample.number .i32 7, ⟨0⟩, none, ())
    let row : Shape := .option (.list Sample.point)
    let points : row.Data := some [first, second]
    (Sample.point.Unambiguous ∧ Sample.point.Finite first ∧
      ∃ tagged, Sample.point.toTagged first = .ok tagged ∧
        tagged.objectType? = some "com.example.Point" ∧
        tagged.Conveys Sample.point.ofValue first) ∧
    row.Unambiguous ∧ row.Finite points ∧ (row.toResponse points).Conveys row.ofValue points ∧
      ∃ items, row.toResponse points = .array "com.example.Point" items := by
  intro first second row points
  have text : Shape.string.NeverNull := fun _ _ => nofun
  have point : Sample.point.Unambiguous :=
    ⟨by decide, trivial, trivial, ⟨trivial, text⟩, trivial⟩
  have firstFinite : Sample.point.Finite first := ⟨trivial, rfl, trivial, trivial⟩
  have secondFinite : Sample.point.Finite second := ⟨trivial, rfl, trivial, trivial⟩
  -- A row is a sequence, even without any points, and so is never null.
  have unambiguous : row.Unambiguous := ⟨point, fun _ _ => nofun⟩
  have finite : row.Finite points :=
    List.forall_mem_cons.mpr ⟨firstFinite, List.forall_mem_singleton.mpr secondFinite⟩
  obtain ⟨_, _, tagged, _⟩ := conveyed_in_every_form point firstFinite
  obtain ⟨_, response, _, listed⟩ := conveyed_in_every_form unambiguous finite
  exact ⟨⟨point, firstFinite, tagged rfl⟩, unambiguous, finite, response, (listed _).mpr rfl⟩

end Shape

end RemoteCall
