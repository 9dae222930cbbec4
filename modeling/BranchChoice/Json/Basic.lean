import BranchChoice.Binary64.Rounding

/-!
# JSON values

The values that rows, requests and contexts are made of.  Whole numbers are kept exactly and apart
from binary64 numbers, and an object keeps its members in order, each name once.
-/

namespace BranchChoice

/-- A JSON value. -/
inductive Json where
  | null
  | bool (value : Bool)
  | int (value : Int)
  | float (value : Binary64)
  | text (value : String)
  | list (items : List Json)
  | object (fields : List (String × Json))
  deriving Inhabited

/-- The members of an object in order. -/
abbrev Fields := List (String × Json)

namespace Fields

/-- The members with one set: a name that is there keeps its place, a new one goes to the end. -/
def put (fields : Fields) (name : String) (value : Json) : Fields :=
  match fields with
  | [] => [(name, value)]
  | (k, v) :: rest => if k = name then (k, value) :: rest else (k, v) :: put rest name value

/-- The object that a list of members spells: the last value of a name in the first one's place. -/
def ofList (members : List (String × Json)) : Fields :=
  members.foldl (fun fields m => fields.put m.1 m.2) []

/-- The members whose names are not among the given ones. -/
def without (fields : Fields) (names : List String) : Fields :=
  fields.filter fun f => !names.contains f.1

end Fields

namespace Json

/-- The members, if the value is an object. -/
def fields? : Json → Option Fields
  | object fields => some fields
  | _ => none

/-! ## Names each used once -/

mutual

/-- Whether no object in the value uses a name twice. -/
def wellFormed : Json → Bool
  | list items => wellFormedItems items
  | object fields => (fields.map (·.1)).Nodup && wellFormedFields fields
  | _ => true

/-- Whether every item is `wellFormed`. -/
def wellFormedItems : List Json → Bool
  | [] => true
  | v :: rest => v.wellFormed && wellFormedItems rest

/-- Whether the value of every member is `wellFormed`. -/
def wellFormedFields : List (String × Json) → Bool
  | [] => true
  | (_, v) :: rest => v.wellFormed && wellFormedFields rest

end

/-! ## Heights -/

mutual

/-- How many values stand one inside the other, the value itself included. -/
def height : Json → Nat
  | list items => heightItems items + 1
  | object fields => heightFields fields + 1
  | _ => 1

/-- The greatest height of an item; zero if there is none. -/
def heightItems : List Json → Nat
  | [] => 0
  | v :: rest => max v.height (heightItems rest)

/-- The greatest height of a member's value; zero if there is none. -/
def heightFields : List (String × Json) → Nat
  | [] => 0
  | (_, v) :: rest => max v.height (heightFields rest)

end

/-- From this height on, a value cannot be dumped. -/
def heightLimit : Nat := 255

/-! ## Numbers that documents cannot hold -/

mutual

/-- The value with every number that is infinite or not a number replaced by null. -/
def withoutNonFinite : Json → Json
  | float x => if x.isFinite then float x else null
  | list items => list (withoutNonFiniteItems items)
  | object fields => object (withoutNonFiniteFields fields)
  | v => v

/-- The items, each `withoutNonFinite`. -/
def withoutNonFiniteItems : List Json → List Json
  | [] => []
  | v :: rest => v.withoutNonFinite :: withoutNonFiniteItems rest

/-- The members, each value `withoutNonFinite`. -/
def withoutNonFiniteFields : List (String × Json) → List (String × Json)
  | [] => []
  | (k, v) :: rest => (k, v.withoutNonFinite) :: withoutNonFiniteFields rest

end

end Json

/-! ## Dumping -/

/-- Whether the values of a record can be dumped: none of them reaches the limit of heights. -/
def Fields.isShallow (fields : Fields) : Bool :=
  Json.heightFields fields < Json.heightLimit

/-- The wording of the error for a record that cannot be dumped. -/
def Fields.depthMessage : String := "Circular reference detected (depth exceeded)"

end BranchChoice
