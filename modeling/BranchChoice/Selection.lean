import BranchChoice.Condition
import BranchChoice.Row.Record

/-!
# Selecting a branch

The score of a branch is the share of its conditions that hold.  The best branch that is no default
is selected if at least half of its conditions hold, the first of several that are best; otherwise
the first default branch is.
-/

namespace BranchChoice

/-- How many conditions hold, and how many there are. -/
def countHolding (conditions : List Condition) (context : Json) :
    Except Pattern.Refusal (Nat × Nat) :=
  match conditions with
  | [] => .ok (0, 0)
  | c :: rest =>
    match c.holds context with
    | .error e => .error e
    | .ok holds =>
      match countHolding rest context with
      | .error e => .error e
      | .ok (matched, total) => .ok (if holds then matched + 1 else matched, total + 1)

/-- The share of a set of conditions that hold, zero for an empty set. -/
def scoreOf (conditions : List Condition) (context : Json) : Except Pattern.Refusal Binary64 :=
  (countHolding conditions context).map fun (matched, total) => Binary64.fraction matched total

/-- Why a branch has no score: a pattern is refused, or the score is not accepted as one. -/
inductive ScoreError where
  | refused (refusal : Pattern.Refusal)
  | rejected (rejection : Rejection)

/-- The wording of an error. -/
def ScoreError.message : ScoreError → String
  | refused refusal => refusal.message
  | rejected rejection => rejection.message

namespace Branch

/-- The branch with the share of its conditions that hold. -/
def score (b : Branch) (context : Json) : Except ScoreError ScoredBranch :=
  match countHolding (Condition.ofFields b.conditions) context with
  | .error refusal => .error (.refused refusal)
  | .ok (matched, total) =>
    (ScoredBranch.build b (Binary64.fraction matched total) matched total).mapError .rejected

/-- The scores of the branches that are no defaults, in their order. -/
def scoreAll (branches : List Branch) (context : Json) :
    Except ScoreError (List ScoredBranch) :=
  (branches.filter (!·.isDefault)).mapM (·.score context)

end Branch

namespace ScoredBranch

/-- The least confidence with which a branch is selected. -/
def threshold : Binary64 := .fraction 1 2

/-- The confidence of a default branch. -/
def defaultConfidence : Binary64 := .ofInt 1

/-- Whether the score suffices for the branch to be selected. -/
def isEligible (s : ScoredBranch) : Bool :=
  threshold.le s.confidence

/-- The first of the scores that no other one exceeds. -/
def best? : List ScoredBranch → Option ScoredBranch
  | [] => none
  | first :: rest =>
    some (rest.foldl (fun best s => if best.confidence.lt s.confidence then s else best) first)

/-- A default branch, which is selected whatever holds. -/
def ofDefault (b : Branch) : Except ScoreError ScoredBranch :=
  (build b defaultConfidence 0 0).mapError .rejected

end ScoredBranch

/-- Why no branch is selected. -/
inductive SelectionError where
  | unscored (e : ScoreError)
  | noSuitable

/-- The selected branch. -/
def selectBranch (branches : List Branch) (context : Json) :
    Except SelectionError ScoredBranch :=
  match Branch.scoreAll branches context with
  | .error e => .error (.unscored e)
  | .ok scores =>
    match (ScoredBranch.best? scores).filter (·.isEligible) with
    | some best => .ok best
    | none =>
      match branches.find? (·.isDefault) with
      | some b => (ScoredBranch.ofDefault b).mapError .unscored
      | none => .error .noSuitable

end BranchChoice
