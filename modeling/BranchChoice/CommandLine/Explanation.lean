import BranchChoice.CommandLine.Printed
import BranchChoice.Store.Memory

/-!
# Explanations

How the branches of a workflow score for a request, as it is shown before the decision itself.
-/

namespace BranchChoice.CommandLine

/-- The scores of a workflow's branches, and the name of its first default branch. -/
structure Explanation where
  workflowId : String
  scores : List ScoredBranch
  defaultName : Option String

/-- Why there is no explanation. -/
inductive ExplanationError where
  | clock (e : ClockError)
  | unscored (e : ScoreError)

namespace Explanation

/-- The explanation for a request to a store at the time that a clock shows. -/
def ofRequest (store : MemoryStore) (request : Request) (clock : Clock) :
    Except ExplanationError Explanation :=
  let branches := store.listBranches request.workflowId
  match request.contextNow clock with
  | .error e => .error (.clock e)
  | .ok context =>
    match Branch.scoreAll branches (.object context) with
    | .error e => .error (.unscored e)
    | .ok scores =>
      .ok ⟨request.workflowId, scores, (branches.find? (·.isDefault)).map (·.name)⟩

/-! ## Printing -/

/-- The mark of a branch that scores high enough to be selected, or not. -/
def mark (eligible : Bool) : Styled :=
  if eligible then ⟨"✓", some "green"⟩ else ⟨"✗", some "red"⟩

/-- The row of the table for a branch. -/
def row (s : ScoredBranch) : List Styled :=
  [.plain s.branch.name, .plain s.branch.rank.toSixDigits, .plain s!"{s.matched}/{s.total}",
    .plain s.confidence.toTwoPlaces, mark s.isEligible]

/-- The table of the scores. -/
def table (e : Explanation) : Table where
  title := "Branch Scores"
  columns := ["Branch", "Priority", "Matched", "Confidence", "Eligible"]
  rows := e.scores.map row

/-- The explanation as output. -/
def print (e : Explanation) : List Printed :=
  [.panel "Simulation" ("Workflow " ++ e.workflowId), .table e.table,
    .line ⟨"Default branch: " ++ e.defaultName.getD "none", some "dim"⟩]

end Explanation

end BranchChoice.CommandLine
