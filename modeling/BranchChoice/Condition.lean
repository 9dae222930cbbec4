import BranchChoice.Comparison
import BranchChoice.Pattern.Matcher

/-!
# Conditions

A branch's conditions as they are stored, and whether one holds in a context.  A condition that
makes no sense does not hold; only a pattern that is refused outright stops the evaluation.
-/

namespace BranchChoice

/-- How a condition compares. -/
inductive Operator where
  | equals
  | contains
  | greaterThan
  | lessThan
  | present
  | pattern
  | oneOf
  | unknown
  deriving DecidableEq

namespace Operator

/-- The stored name of an operator. -/
def name : Operator → String
  | equals => "equals"
  | contains => "contains"
  | greaterThan => "greater_than"
  | lessThan => "less_than"
  | present => "exists"
  | pattern => "regex"
  | oneOf => "in_array"
  | unknown => "unknown"

/-- All operators. -/
def all : List Operator :=
  [equals, contains, greaterThan, lessThan, present, pattern, oneOf, unknown]

/-- The operator that a stored value names; unknown if it names none. -/
def ofJson : Json → Operator
  | .text s => (all.find? (·.name == s)).getD unknown
  | _ => unknown

end Operator

/-- A stored condition. -/
inductive Condition where
  /-- A bare value, which the field must equal. -/
  | bare (key : String) (expected : Json)
  /-- An operator with an operand; the field may be named apart from the key. -/
  | declared (key : String) (operator : Operator) (operand : Json) (field : Option String)

namespace Condition

/-- The operand or the operator that an object gives, null if it gives none. -/
def memberOrNull (fields : Fields) (name : String) : Json :=
  (fields.lookup name).getD .null

/-- The condition that is stored under a key: an object declares its operator, a list has none and
never holds, and anything else is a bare value. -/
def ofJson (key : String) : Json → Condition
  | .object fields =>
    let field := match List.lookup "field" fields with
      | some (.text s) => if s.isEmpty then none else some s
      | _ => none
    .declared key (Operator.ofJson (memberOrNull fields "operator"))
      (memberOrNull fields "value") field
  | .list items => .declared key .unknown (.list items) none
  | v => .bare key v

/-- All conditions that are stored in an object, in its order. -/
def ofFields (fields : Fields) : List Condition :=
  fields.map fun (key, v) => ofJson key v

/-- The path that a condition looks at. -/
def path : Condition → String
  | bare key _ => key
  | declared key _ _ field => field.getD key

/-- Whether an operator with an operand holds of a value. -/
def applies (operator : Operator) (operand : Json) (actual : Found) :
    Except Pattern.Refusal Bool :=
  match operator with
  | .equals => .ok (actual.strictEquals (some operand))
  | .contains => .ok (occursFolded operand.toText actual.toText)
  | .greaterThan => .ok (operand.toNumber.lt actual.toNumber)
  | .lessThan => .ok (actual.toNumber.lt operand.toNumber)
  | .present =>
    match actual with
    | none | some .null => .ok false
    | some _ => .ok true
  | .pattern =>
    match operand, actual with
    | .text p, some v => Pattern.search p v.toText
    | _, _ => .ok false
  | .oneOf =>
    match operand with
    | .list items => .ok (items.any fun item => actual.strictEquals (some item))
    | _ => .ok false
  | .unknown => .ok false

/-- Whether the condition holds in a context. -/
def holds (c : Condition) (context : Json) : Except Pattern.Refusal Bool :=
  let actual := context.resolve c.path
  match c with
  | bare _ expected => .ok (actual.strictEquals (some expected))
  | declared _ operator operand _ => applies operator operand actual

end Condition

/-! ## Sets of conditions given as any value -/

/-- The name of a kind of value in diagnostics. -/
def Json.kindName : Json → String
  | null => "NoneType"
  | bool _ => "bool"
  | int _ => "int"
  | float _ => "float"
  | text _ => "str"
  | list _ => "list"
  | object _ => "dict"

/-- Whether a value counts as nothing: null, false, zero, or empty. -/
def Json.isNothing : Json → Bool
  | null => true
  | bool b => !b
  | int n => n == 0
  | float x => x.key? == some 0
  | text s => s.isEmpty
  | list items => items.isEmpty
  | object fields => fields.isEmpty

/-- A value that should be an object and is none. -/
structure NoMembers where
  kindName : String
  wanted : String
  deriving DecidableEq

/-- The wording for a value that should be an object. -/
def NoMembers.message (e : NoMembers) : String :=
  s!"'{e.kindName}' object has no attribute '{e.wanted}'"

/-- The conditions that a stored value gives: none if it counts as nothing, else it must be an
object. -/
def Condition.setOf (v : Json) : Except NoMembers (List Condition) :=
  if v.isNothing then .ok []
  else
    match v with
    | .object fields => .ok (ofFields fields)
    | other => .error ⟨other.kindName, "items"⟩

end BranchChoice
