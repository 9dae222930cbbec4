import BranchChoice.Row.Coercion

/-!
# Branches and actions

The stored rows of a workflow: branches, each with the conditions under which it is taken, and the
actions that belong to a branch.
-/

namespace BranchChoice

/-- A candidate outcome of a decision. -/
structure Branch where
  id : String
  name : String
  conditions : Fields
  /-- The priority; `none` if the row gives none, which counts as zero. -/
  priority : Option Binary64
  isDefault : Bool
  /-- The workflow that the branch belongs to; `none` for every workflow. -/
  workflowId : Option String

/-- A step of a branch. -/
structure Action where
  id : Option String
  branchId : Option String
  order : Int
  /-- All other members of the row, in its order. -/
  extra : Fields

namespace Branch

/-- The name of this kind of row. -/
def kind : String := "Branch"

/-- The conditions of a branch; null stands for none. -/
def conditionsOf (v : Json) : Checked Fields :=
  match v with
  | .null => .accept []
  | _ => Coercion.object v

/-- The branch that a row describes. -/
def check (v : Json) : Checked Branch :=
  v.checkRow fun row => Branch.mk
    <$> row.required "id" Coercion.textOrNumber
    <*> row.required "branch_name" Coercion.textOrNumber
    <*> row.optional "conditions" [] conditionsOf
    <*> row.optional "priority" none (fun v => (Coercion.number v).map some)
    <*> row.optional "is_default" false Coercion.truth
    <*> row.optional "workflow_id" none (Coercion.orNull Coercion.textOrNumber)

/-- The branch that a row describes, or why it describes none. -/
def read (v : Json) : Except Rejection Branch :=
  (check v).orReject kind

/-- The priority as a number. -/
def rank (b : Branch) : Binary64 :=
  b.priority.getD .zero

/-- The branch as a row. -/
def toJson (b : Branch) : Json :=
  .object [
    ("id", .text b.id),
    ("branch_name", .text b.name),
    ("conditions", .object b.conditions),
    ("priority", match b.priority with | some x => .float x | none => .int 0),
    ("is_default", .bool b.isDefault),
    ("workflow_id", match b.workflowId with | some s => .text s | none => .null)]

end Branch

namespace Action

/-- The name of this kind of row. -/
def kind : String := "Action"

/-- The names of the members that every action has. -/
def ownNames : List String := ["id", "branch_id", "execution_order"]

/-- The action that a row describes. -/
def check (v : Json) : Checked Action :=
  v.checkRow fun row => Action.mk
    <$> row.optional "id" none (Coercion.orNull Coercion.textOrNumber)
    <*> row.optional "branch_id" none (Coercion.orNull Coercion.textOrNumber)
    <*> row.optional "execution_order" 0 Coercion.integer
    <*> Checked.accept (row.without ownNames)

/-- The action that a row describes, or why it describes none. -/
def read (v : Json) : Except Rejection Action :=
  (check v).orReject kind

/-- The action as a row: its own members first, then the others. -/
def toFields (a : Action) : Fields :=
  [("id", match a.id with | some s => .text s | none => .null),
    ("branch_id", match a.branchId with | some s => .text s | none => .null),
    ("execution_order", .int a.order)] ++ a.extra

/-- The action as a row. -/
def toJson (a : Action) : Json :=
  .object a.toFields

end Action

end BranchChoice
