import RemoteCall.Value

/-! Trees without tags, in which keyed entries have a canonical order and each key one value. -/

namespace RemoteCall

/-- A tree without tags. -/
inductive Tree where
  | null
  | bool (flag : Bool)
  | integer (number : Int)
  | real (number : Double)
  | text (text : String)
  | sequence (items : List Tree)
  /-- Entries in the order of their keys, no key twice. -/
  | record (entries : List (String × Tree))
  deriving Inhabited, Repr

namespace Tree

/-- Puts an entry at the place of its key, instead of one that is there already. -/
def insert (key : String) (tree : Tree) : List (String × Tree) → List (String × Tree)
  | [] => [(key, tree)]
  | (other, present) :: entries =>
    if key < other then (key, tree) :: (other, present) :: entries
    else if key = other then (key, tree) :: entries
    else (other, present) :: insert key tree entries

/-- A real number, or null where it is infinite or none. -/
def ofDouble (number : Double) : Tree :=
  if number.isFinite then .real number else .null

/-- What is found where a tree does not fit. -/
def found : Tree → Found
  | .null => .null
  | .bool flag => .boolean flag
  | .integer number => .integer number
  | .real number => .float number
  | .text content => .string content
  | .sequence _ => .sequence
  | .record _ => .map

mutual

/-- The self-describing value of a tree; integers are signed where they fit. -/
def toValue : Tree → Value
  | .null => .null
  | .bool flag => .bool flag
  | .integer number =>
    if number < 0x8000000000000000 then .int (.ofInt number) else .word (.ofNat number.toNat)
  | .real number => .float number
  | .text content => .string content
  | .sequence items => .list (toValues items)
  | .record entries => .map (toFields entries)

/-- The values of trees in order. -/
def toValues : List Tree → List Value
  | [] => []
  | tree :: items => tree.toValue :: toValues items

/-- The values of entries in order. -/
def toFields : List (String × Tree) → List (String × Value)
  | [] => []
  | (key, tree) :: entries => (key, tree.toValue) :: toFields entries

end

end Tree

namespace Value

mutual

/-- What is left of a value without tags; of entries with one key the last one counts. -/
def toTree : Value → Tree
  | .null => .null
  | .bool flag => .bool flag
  | .int number => .integer number.toInt
  | .word number => .integer number.toNat
  | .float number => .ofDouble number
  | .string text => .text text
  | .bytes data => .sequence (data.map fun byte => .integer byte.toNat)
  | .list items | .array _ items => .sequence (toTrees items)
  | .map entries | .object _ entries => .record (toEntries entries [])

/-- The trees of values in order. -/
def toTrees : List Value → List Tree
  | [] => []
  | value :: items => value.toTree :: toTrees items

/-- Puts the trees of entries among others, one after another. -/
def toEntries : List (String × Value) → List (String × Tree) → List (String × Tree)
  | [], present => present
  | (key, value) :: entries, present => toEntries entries (Tree.insert key value.toTree present)

end

end Value

end RemoteCall
