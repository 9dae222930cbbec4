import BranchChoice.Json.Basic

/-!
# Checked rows

The outcome of checking a row of data: a value, or every issue that was found, in the order of the
fields.  Checks of different fields do not depend on each other, so they are combined without
stopping at the first issue.
-/

namespace BranchChoice

/-- What can be wrong with a value that stands for a field. -/
inductive Fault where
  | missing
  | notText
  | tooShort
  | notRow
  | notObject
  | notList
  | notInteger
  | badInteger
  | integerTooLarge
  | fractional
  | notFinite
  | notNumber
  | badNumber
  | notTruth
  | badTruth
  | wrongLiteral
  | notPositive
  | negative
  | aboveOne
  deriving DecidableEq

/-- A step into a row: to a field, or to an item of a list. -/
inductive Step where
  | field (name : String)
  | item (index : Nat)
  deriving DecidableEq

/-- An issue: where it is, what it is, and the value that was found there, if any. -/
structure Issue where
  path : List Step
  fault : Fault
  found : Option Json

/-! ## Wording -/

/-- What is wrong, in words. -/
def Fault.message : Fault → String
  | missing => "is missing"
  | notText => "must be a text"
  | tooShort => "must not be empty"
  | notRow => "must be a row"
  | notObject => "must be an object"
  | notList => "must be a list"
  | notInteger => "must be an integer"
  | badInteger => "is no integer"
  | integerTooLarge => "is too large for an integer"
  | fractional => "must have no fraction"
  | notFinite => "must be finite"
  | notNumber => "must be a number"
  | badNumber => "is no number"
  | notTruth => "must be true or false"
  | badTruth => "is neither true nor false"
  | wrongLiteral => "has another fixed value"
  | notPositive => "must be greater than 0"
  | negative => "must not be negative"
  | aboveOne => "must not be greater than 1"

/-- A step as a part of a path. -/
def Step.text : Step → String
  | field name => name
  | item index => toString index

/-- The line for an issue: its place, unless it is with the row as a whole, and what is wrong. -/
def Issue.message (i : Issue) : String :=
  match i.path with
  | [] => i.fault.message
  | steps => ".".intercalate (steps.map Step.text) ++ " " ++ i.fault.message

/-! ## Checks -/

/-- The outcome of a check. -/
def Checked (α : Type) := Except (List Issue) α

namespace Checked

/-- A value without issues. -/
def accept {α : Type} (a : α) : Checked α := Except.ok a

/-- A single issue at the place itself. -/
def reject {α : Type} (fault : Fault) (found : Json) : Checked α :=
  Except.error [⟨[], fault, some found⟩]

/-- The value, if there are no issues. -/
def value? {α : Type} : Checked α → Option α
  | .ok a => some a
  | .error _ => none

/-- The outcome with the value changed. -/
def map {α β : Type} (f : α → β) : Checked α → Checked β
  | .ok a => .ok (f a)
  | .error issues => .error issues

/-- Both outcomes together: the issues of the first come before those of the second. -/
def apply {α β : Type} : Checked (α → β) → Checked α → Checked β
  | .ok f, .ok a => .ok (f a)
  | .ok _, .error issues => .error issues
  | .error issues, .ok _ => .error issues
  | .error issues, .error more => .error (issues ++ more)

instance : Applicative Checked where
  map := Checked.map
  pure := Checked.accept
  seq f a := f.apply (a ())

/-- The outcome of a check inside a field or an item. -/
def inside {α : Type} (step : Step) : Checked α → Checked α
  | .ok a => .ok a
  | .error issues => .error (issues.map fun i => { i with path := step :: i.path })

/-- A further check of the value, if there is one. -/
def andThen {α β : Type} (c : Checked α) (check : α → Checked β) : Checked β :=
  match c with
  | .ok a => check a
  | .error issues => .error issues

/-- The outcomes for the items of a list, each with its index from `index` on. -/
def items {α : Type} (check : Json → Checked α) : Nat → List Json → Checked (List α)
  | _, [] => accept []
  | index, v :: rest =>
    ((inside (.item index) (check v)).map List.cons).apply (items check (index + 1) rest)

end Checked

/-! ## Fields -/

/-- A field that must be there. -/
def Fields.required {α : Type} (row : Fields) (name : String) (check : Json → Checked α) :
    Checked α :=
  match row.lookup name with
  | some v => (check v).inside (.field name)
  | none => .error [⟨[.field name], .missing, none⟩]

/-- A field that has a default if it is not there. -/
def Fields.optional {α : Type} (row : Fields) (name : String) (default : α)
    (check : Json → Checked α) : Checked α :=
  match row.lookup name with
  | some v => (check v).inside (.field name)
  | none => .accept default

/-- A row, which must be an object, checked field by field. -/
def Json.checkRow {α : Type} (v : Json) (check : Fields → Checked α) : Checked α :=
  match v with
  | .object row => check row
  | _ => .reject .notRow v

/-! ## Rejections -/

/-- A value that does not fit a kind of row, with its issues. -/
structure Rejection where
  kind : String
  issues : List Issue

/-- The first line of a rejection: how many issues there are, and the kind of row. -/
def Rejection.headline (r : Rejection) : String :=
  let count := r.issues.length
  s!"{count} validation error" ++ (if count = 1 then "" else "s") ++ s!" for {r.kind}"

/-- The wording of a rejection: its headline, and a line for each issue. -/
def Rejection.message (r : Rejection) : String :=
  String.intercalate "\n" (r.headline :: r.issues.map Issue.message)

/-- The outcome as a value or a rejection for a kind of row. -/
def Checked.orReject {α : Type} (kind : String) : Checked α → Except Rejection α
  | .ok a => .ok a
  | .error issues => .error ⟨kind, issues⟩

end BranchChoice
