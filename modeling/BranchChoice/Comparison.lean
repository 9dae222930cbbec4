import BranchChoice.Decimal.Reading
import BranchChoice.Json.Writer
import BranchChoice.Text.Case

/-!
# Comparing values

The three ways in which a condition looks at values: whether two are strictly equal, the number that
one stands for, and its text.  A value that is not there (`none`) equals nothing, is no number, and
has an empty text.
-/

namespace BranchChoice

namespace Json

/-! ## Strict equality -/

/-- The exact value of a number, in units of the least binary64 magnitude; `none` for all else. -/
def extent? : Json → Option Binary64.Extent
  | int n => some (.finite (n * Binary64.unitsPerOne))
  | float x => x.extent?
  | _ => none

mutual

/-- Equality without conversion: numbers are equal by exact value, objects by the values of their
names in any order, and values of different kinds never. -/
def strictEquals : Json → Json → Bool
  | null, null => true
  | bool a, bool b => a == b
  | text a, text b => a == b
  | list a, list b => strictEqualItems a b
  | object a, object b => a.length == b.length && strictEqualFields a b
  | a, b =>
    match a.extent?, b.extent? with
    | some x, some y => x == y
    | _, _ => false

/-- Strict equality of lists, item by item. -/
def strictEqualItems : List Json → List Json → Bool
  | [], [] => true
  | a :: as, b :: bs => a.strictEquals b && strictEqualItems as bs
  | _, _ => false

/-- Whether every member has a strictly equal one of its name among the others. -/
def strictEqualFields : List (String × Json) → Fields → Bool
  | [], _ => true
  | (k, v) :: rest, others =>
    (match others.lookup k with
      | some w => v.strictEquals w
      | none => false) && strictEqualFields rest others

end

/-! ## Numbers and texts -/

/-- The number that a value stands for: a truth value is 0 or 1, a text the number it spells, and a
whole number beyond the range is infinite. -/
def toNumber : Json → Binary64
  | bool b => Binary64.ofInt (if b then 1 else 0)
  | int n => Binary64.ofInt n
  | float x => x
  | text s =>
    (Numeral.read? (String.ofList (Text.trimBoth Text.isBlank s.toList))).getD .nan
  | _ => .nan

/-- The text of a value: a text itself, a number as plain text, and all else as a document. -/
def toText : Json → String
  | text s => s
  | int n => String.ofList (writeInt n)
  | float x => x.toText
  | v => v.render .plain

end Json

/-! ## Values that may be absent -/

/-- A value found in a context, if there is one. -/
abbrev Found := Option Json

namespace Found

/-- Strict equality; a value that is not there equals nothing. -/
def strictEquals : Found → Found → Bool
  | some a, some b => a.strictEquals b
  | _, _ => false

/-- The number that a value stands for. -/
def toNumber (v : Found) : Binary64 :=
  v.elim .nan Json.toNumber

/-- The text of a value. -/
def toText (v : Found) : String :=
  v.elim "" Json.toText

end Found

/-! ## Parts of texts -/

/-- Whether the characters occur one after the other somewhere in the others. -/
def occursIn (part : List Char) : List Char → Bool
  | [] => part.isEmpty
  | c :: rest => part.isPrefixOf (c :: rest) || occursIn part rest

/-- Whether a text occurs in another when both are in lower case. -/
def occursFolded (part whole : String) : Bool :=
  occursIn (Text.lower part).toList (Text.lower whole).toList

/-! ## Paths -/

/-- The parts of a path between its dots; there is always at least one. -/
def pathSegments : List Char → List (List Char)
  | [] => [[]]
  | c :: rest =>
    if c == '.' then [] :: pathSegments rest
    else
      match pathSegments rest with
      | [] => [[c]]
      | segment :: more => (c :: segment) :: more

/-- The member of an object with the given name. -/
def Json.member? (v : Json) (name : String) : Found :=
  v.fields?.bind fun fields => fields.lookup name

/-- The value at a dotted path: every part names a member of the object before. -/
def Json.resolve (root : Json) (path : String) : Found :=
  (pathSegments path.toList).foldl
    (fun (v : Found) segment => v.bind (·.member? (String.ofList segment))) (some root)

end BranchChoice
