import RemoteCall.Sample.Shapes
import RemoteCall.Typed.Conversion

/-! Values that differ only in what no reader of typed data looks at. -/

namespace RemoteCall

namespace Tree

/-- Of two trees under one key, the one that is put there later counts. -/
theorem insert_insert_self (key : String) (tree earlier : Tree)
    (entries : List (String × Tree)) :
    insert key tree (insert key earlier entries) = insert key tree entries := by
  -- The earlier tree is at the place where the later one goes.
  fun_induction insert key earlier entries with
  | case1 => simp [insert]
  | case2 other present entries below => simp [insert, below]
  | case3 => simp [insert]
  | case4 other present entries below different ih => simp [insert, below, different, ih]

/-- It does not matter which of two keys is put first. -/
theorem insert_insert_of_ne {key other : String} (different : key ≠ other) (tree second : Tree)
    (entries : List (String × Tree)) :
    insert key tree (insert other second entries) =
      insert other second (insert key tree entries) := by
  -- Both go by the order of keys, so each passes the same entries as without the other.
  induction entries with
  | nil => grind [insert]
  | cons entry entries ih =>
    obtain ⟨present, found⟩ := entry
    grind [insert]

end Tree

namespace Value

variable {key : String} {value other : Value} {entries others : List (String × Value)}

/-- The trees of some entries and then of others are put in turn. -/
theorem toEntries_append (front back : List (String × Value)) (present : List (String × Tree)) :
    toEntries (front ++ back) present = toEntries back (toEntries front present) := by
  induction front generalizing present with
  | nil => rfl
  | cons entry front ih =>
    obtain ⟨key, value⟩ := entry
    exact ih _

/-- What is under a key that entries have does not matter, as they put their own tree there. -/
theorem toEntries_insert_of_mem (later : key ∈ entries.map Prod.fst) (tree : Tree)
    (present : List (String × Tree)) :
    toEntries entries (Tree.insert key tree present) = toEntries entries present := by
  induction entries generalizing present with
  | nil => cases later
  | cons entry entries ih =>
    obtain ⟨found, value⟩ := entry
    rw [toEntries, toEntries]
    by_cases same : found = key
    · -- The first entry of the key puts its tree in place of the other.
      rw [same, Tree.insert_insert_self]
    · -- An entry of another key can be put before it.
      have behind : key ∈ entries.map Prod.fst := by
        simpa [Ne.symm same] using later
      rw [Tree.insert_insert_of_ne same, ih behind]

/-- Entries with different keys can be put in any order. -/
theorem toEntries_perm (same : entries.Perm others) (distinct : (entries.map Prod.fst).Nodup)
    (present : List (String × Tree)) : toEntries entries present = toEntries others present := by
  -- A permutation is made of exchanges of neighbours.
  induction same generalizing present with
  | nil => rfl
  | cons entry same ih =>
    obtain ⟨key, value⟩ := entry
    exact ih (List.nodup_cons.mp distinct).2 _
  | swap first second entries =>
    obtain ⟨key, value⟩ := first
    obtain ⟨other, found⟩ := second
    have different : other ≠ key := by
      rintro rfl
      simp at distinct
    rw [toEntries, toEntries, toEntries, toEntries, Tree.insert_insert_of_ne different.symm]
  | trans first second ih ihToo =>
    have between := (first.map Prod.fst).nodup_iff.mp distinct
    rw [ih distinct, ihToo between]

/-- The trees of items are those of each. -/
theorem toTrees_eq_map (items : List Value) : toTrees items = items.map toTree := by
  induction items with
  | nil => rfl
  | cons item items ih => rw [toTrees, ih, List.map_cons]

/--
Values that differ, at any depth, only in tags, in the order of entries, in entries that later ones
override, and in the form of bytes and of numbers that are not negative.
-/
inductive Alike : Value → Value → Prop where
  | refl (value : Value) : Alike value value
  | symm {value other : Value} (alike : Alike value other) : Alike other value
  | trans {value other third : Value} (alike : Alike value other) (further : Alike other third) :
      Alike value third
  /-- Items at one place are alike, and all others the same. -/
  | item (front back : List Value) {value other : Value} (alike : Alike value other) :
      Alike (.list (front ++ value :: back)) (.list (front ++ other :: back))
  /-- Entries at one place are alike, and all others the same. -/
  | entry (front back : List (String × Value)) (key : String) {value other : Value}
      (alike : Alike value other) :
      Alike (.map (front ++ (key, value) :: back)) (.map (front ++ (key, other) :: back))
  /-- Entries with different keys are in another order. -/
  | permuted {entries others : List (String × Value)} (distinct : (entries.map Prod.fst).Nodup)
      (same : entries.Perm others) : Alike (.map entries) (.map others)
  /-- An entry is dropped, as there is a later one with its key. -/
  | overridden (front : List (String × Value)) {back : List (String × Value)} {key : String}
      (value : Value) (later : key ∈ back.map Prod.fst) :
      Alike (.map (front ++ (key, value) :: back)) (.map (front ++ back))
  /-- Fields are not under the name of a type. -/
  | untagged (typeName : String) (fields : List (String × Value)) :
      Alike (.object typeName fields) (.map fields)
  /-- Items are of no particular type. -/
  | untyped (elementType : String) (items : List Value) :
      Alike (.array elementType items) (.list items)
  /-- Bytes are a list of numbers. -/
  | bytes (data : Bytes) : Alike (.bytes data) (.list (data.map fun byte => .word byte.toUInt64))
  /-- A number is unsigned. -/
  | unsigned {number : Int64} {word : UInt64} (same : number.toInt = word.toNat) :
      Alike (.int number) (.word word)

/-- Values that are alike have the same tree. -/
theorem Alike.toTree_eq (alike : Alike value other) : value.toTree = other.toTree := by
  -- The induction is on how the values come to be alike, down to the place of the difference.
  induction alike with
  | refl => rfl
  | symm _ ih => exact ih.symm
  | trans _ _ ih ihToo => exact ih.trans ihToo
  | item front back _ ih => simp only [toTree, toTrees_eq_map, List.map_append, List.map_cons, ih]
  | entry front back key _ ih => simp only [toTree, toEntries_append, toEntries, ih]
  | permuted distinct same => rw [toTree, toTree, toEntries_perm same distinct]
  | overridden front value later =>
    rw [toTree, toTree, toEntries_append, toEntries_append, toEntries,
      toEntries_insert_of_mem later]
  | untagged => rw [toTree, toTree]
  | untyped => rw [toTree, toTree]
  | bytes data => simp [toTree, toTrees_eq_map, Function.comp_def]
  | unsigned same => rw [toTree, toTree, same]

end Value

/--
Typed data of any shape is read alike from values that are alike, and fails in the same way.

As their trees are the same, this is so of every reader of trees.
-/
theorem Shape.ofValue_alike {value other : Value} (alike : Value.Alike value other) :
    value.toTree = other.toTree ∧ ∀ shape : Shape, shape.ofValue value = shape.ofValue other := by
  have same := alike.toTree_eq
  refine ⟨same, fun shape => ?_⟩
  -- A value is read by its tree alone.
  rw [ofValue, ofValue, same]

/-- The fields of a point read like entries in another order, one of which is overridden. -/
theorem Sample.ofValue_alike_point :
    let value : Value := .object "com.example.Point" [("y", .float ⟨0⟩), ("x", .int 1)]
    let other : Value := .map [("x", .null), ("x", .word 1), ("y", .float ⟨0⟩)]
    Value.Alike value other ∧ value.toTree = other.toTree ∧
      point.ofValue value = point.ofValue other ∧ (point.ofValue other).isOk = true := by
  intro value other
  have distinct : ([("y", Value.float ⟨0⟩), ("x", .int 1)].map Prod.fst).Nodup := by decide
  have reordered : Value.Alike value (.map [("x", .int 1), ("y", .float ⟨0⟩)]) :=
    .trans (.untagged _ _) (.permuted distinct (.swap _ _ []))
  have unsigned : Value.Alike (.map [("x", .int 1), ("y", .float ⟨0⟩)])
      (.map [("x", .word 1), ("y", .float ⟨0⟩)]) :=
    .entry [] _ "x" (.unsigned (by decide))
  have overridden : Value.Alike other (.map [("x", .word 1), ("y", .float ⟨0⟩)]) :=
    .overridden [] .null (by decide)
  have alike : Value.Alike value other := .trans reordered (.trans unsigned overridden.symm)
  obtain ⟨same, read⟩ := Shape.ofValue_alike alike
  exact ⟨alike, same, read point, by decide⟩

end RemoteCall
