import BranchChoice.Condition
import BranchChoice.Decision
import BranchChoice.Store.Ordering

/-!
# The store in memory

Branches, actions and log entries in lists.  The branches of a workflow come by descending priority
and the actions of a branch in their order, rows that are equal in this in the order in which they
were added.
-/

namespace BranchChoice

/-- Branches, actions and the log. -/
structure MemoryStore where
  branches : List Branch
  actions : List Action
  logs : List LogEntry

namespace MemoryStore

/-! ## Documents -/

/-- Why a document describes no store. -/
inductive DocumentError where
  | noMembers (e : NoMembers)
  | notIterable (kindName : String)
  | rejected (r : Rejection)

/-- The wording of an error. -/
def DocumentError.message : DocumentError → String
  | noMembers e => e.message
  | notIterable kindName => s!"'{kindName}' object is not iterable"
  | rejected r => r.message

/-- The rows of a part of a document: the items of a list, and also the characters of a text and the
names of an object, which are no rows. -/
def rowsOf : Json → Except DocumentError (List Json)
  | .list items => .ok items
  | .text s => .ok (s.toList.map fun c => .text (String.singleton c))
  | .object fields => .ok (fields.map fun (name, _) => .text name)
  | other => .error (.notIterable other.kindName)

/-- The rows of a part of a document, each as what it describes.  A part that is not there has no
rows. -/
def readPart {α : Type} (read : Json → Except Rejection α) (document : Fields) (name : String) :
    Except DocumentError (List α) :=
  match rowsOf ((document.lookup name).getD (.list [])) with
  | .error e => .error e
  | .ok rows =>
    match rows.mapM read with
    | .error r => .error (.rejected r)
    | .ok parts => .ok parts

/-- The store that a document describes, with an empty log. -/
def ofDocument (v : Json) : Except DocumentError MemoryStore :=
  match v with
  | .object document =>
    match readPart Branch.read document "branches" with
    | .error e => .error e
    | .ok branches =>
      match readPart Action.read document "actions" with
      | .error e => .error e
      | .ok actions => .ok ⟨branches, actions, []⟩
  | other => .error (.noMembers ⟨other.kindName, "get"⟩)

/-! ## Reading -/

/-- Whether a branch belongs to a workflow: to it alone, or to all. -/
def isVisible (workflowId : String) (b : Branch) : Bool :=
  match b.workflowId with
  | none => true
  | some id => id == workflowId

/-- Branches by descending priority.  Priorities that are numbers order them stably; one that is
not a number compares with nothing, and insertion puts the rows in their places. -/
def byPriority (branches : List Branch) : List Branch :=
  if branches.all fun b => b.rank != .nan then
    branches.mergeSort fun a b => b.rank.le a.rank
  else
    Ordering.descendingByInsertion (fun a b => a.rank.lt b.rank) branches

/-- The branches of a workflow. -/
def listBranches (s : MemoryStore) (workflowId : String) : List Branch :=
  byPriority (s.branches.filter (isVisible workflowId))

/-- The actions of a branch. -/
def listActions (s : MemoryStore) (branchId : String) : List Action :=
  (s.actions.filter fun a => a.branchId == some branchId).mergeSort fun a b => a.order ≤ b.order

/-! ## Writing -/

/-- The store with an entry at the end of its log. -/
def append (s : MemoryStore) (entry : LogEntry) : MemoryStore :=
  { s with logs := s.logs ++ [entry] }

/-- The store with a branch added. -/
def addBranch (s : MemoryStore) (b : Branch) : MemoryStore :=
  { s with branches := s.branches ++ [b] }

/-- The store with an action added. -/
def addAction (s : MemoryStore) (a : Action) : MemoryStore :=
  { s with actions := s.actions ++ [a] }

/-! ## As the stores of a decision -/

/-- A store in memory in all three roles; its calls do not fail. -/
def stores : Stores MemoryStore Empty where
  listBranches workflowId s := (.ok (s.listBranches workflowId), s)
  append entry s := (.ok (), s.append entry)
  listActions branchId s := (.ok (s.listActions branchId), s)
  wording e := nomatch e

end MemoryStore

end BranchChoice
