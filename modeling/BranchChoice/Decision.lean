import BranchChoice.Context
import BranchChoice.Selection

/-!
# Decisions

A decision is a dialogue with three stores: it asks for the branches of a workflow, hands over a
log entry, and asks for the actions of the selected branch.  Between the calls it goes on by
itself, so a dialogue says everything about a decision: which calls it makes, in which order, and
which answer it gives for each way in which the calls may turn out.
-/

namespace BranchChoice

/-! ## Errors -/

/-- The sorts of error that a decision knows of. -/
inductive ErrorKind where
  | general
  | invalidRequest
  | branchFetch
  | noBranches
  | noSuitableBranch
  | logWrite
  | actionFetch
  | unexpected
  deriving DecidableEq

namespace ErrorKind

/-- The code of an error in answers and warnings. -/
def code : ErrorKind → String
  | general => "decision_error"
  | invalidRequest => "invalid_request"
  | branchFetch => "branch_fetch_failed"
  | noBranches => "no_branches_configured"
  | noSuitableBranch => "no_suitable_branch"
  | logWrite => "log_write_failed"
  | actionFetch => "action_fetch_failed"
  | unexpected => "internal_error"

/-- Whether there is no decision after an error of this sort. -/
def isFatal : ErrorKind → Bool
  | logWrite | actionFetch => false
  | _ => true

end ErrorKind

/-- An error of a decision.  What went wrong in a store or unexpectedly is known by its text. -/
inductive DecisionError where
  | invalidRequest (flaw : RequestFlaw)
  | branchFetch (cause : String)
  | noBranches
  | noSuitableBranch
  | logWrite (cause : String)
  | actionFetch (cause : String)
  | unexpected (cause : String)
  deriving DecidableEq

namespace DecisionError

/-- The sort of an error. -/
def kind : DecisionError → ErrorKind
  | invalidRequest _ => .invalidRequest
  | branchFetch _ => .branchFetch
  | noBranches => .noBranches
  | noSuitableBranch => .noSuitableBranch
  | logWrite _ => .logWrite
  | actionFetch _ => .actionFetch
  | unexpected _ => .unexpected

/-- The wording of an error. -/
def message : DecisionError → String
  | invalidRequest flaw => flaw.message
  | branchFetch cause => "Failed to fetch branches: " ++ cause
  | noBranches => "No branches found for workflow"
  | noSuitableBranch => "No suitable branch found and no default branch configured"
  | logWrite cause => "Failed to log decision: " ++ cause
  | actionFetch cause => "Failed to fetch actions: " ++ cause
  | unexpected cause => "Unexpected error: " ++ cause

end DecisionError

/-! ## Answers -/

/-- The answer to a request. -/
inductive Envelope where
  | success (response : Response)
  | failure (response : FailureResponse)

namespace Envelope

/-- The answer for an error that there is no decision after. -/
def ofError (e : DecisionError) : Envelope :=
  .failure ⟨e.message, e.kind.code⟩

/-- The members of the written answer. -/
def toFields : Envelope → Fields
  | success r => r.toFields
  | failure r => r.toFields

/-- Whether a branch was selected. -/
def isSuccess : Envelope → Bool
  | success _ => true
  | failure _ => false

/-- Whether the answer can be dumped, as it can unless a column of an action is nested too deep. -/
def isShallow : Envelope → Bool
  | success r => r.actions.all Fields.isShallow
  | failure _ => true

/-- The answer, once dumped, as an indented document. -/
def render (e : Envelope) : String :=
  (Json.object e.toFields).withoutNonFinite.render .indented

end Envelope

/-! ## Dialogues -/

/-- What is left of a decision: an answer, or a call with how to go on after each outcome.  A call
that fails is known by the text of its failure. -/
inductive Dialogue where
  | answer (envelope : Envelope)
  | listBranches (workflowId : String) (resume : Except String (List Branch) → Dialogue)
  | append (entry : LogEntry) (resume : Except String Unit → Dialogue)
  | listActions (branchId : String) (resume : Except String (List Action) → Dialogue)

/-- What the clocks show during a decision: the time of day, and two readings of a stopwatch, at the
start and after the selection. -/
structure Readings where
  clock : Clock
  started : Binary64
  selected : Binary64

/-- The milliseconds from the start to the selection. -/
def Readings.elapsed (r : Readings) : Binary64 :=
  (r.selected.sub r.started).mul (.ofInt 1000)

/-- The selection among the fetched branches, with the context that it was made in. -/
def chooseBranch (request : Request) (readings : Readings) (branches : List Branch) :
    Except DecisionError (Fields × ScoredBranch) :=
  if branches.isEmpty then .error .noBranches
  else
    match request.contextNow readings.clock with
    | .error e => .error (.unexpected e.message)
    | .ok context =>
      match selectBranch branches (.object context) with
      | .error (.unscored e) => .error (.unexpected e.message)
      | .error .noSuitable => .error .noSuitableBranch
      | .ok selected => .ok (context, selected)

/-- The outcome of a call that the decision survives. -/
def effectOf {α : Type} (name : String) (error : String → DecisionError) :
    Except String α → EffectOutcome
  | .ok _ => ⟨name, true, none, none⟩
  | .error cause => ⟨name, false, some (error cause).kind.code, some (error cause).message⟩

/-- The log entry of a decision. -/
def entryOf (request : Request) (readings : Readings) (context : Fields)
    (selected : ScoredBranch) : LogEntry :=
  { workflowId := request.workflowId
    contactId := request.contactId
    branchId := selected.branch.id
    context := context
    confidence := selected.confidence
    elapsed := readings.elapsed }

/-- The answer of a decision, given the outcomes of its side effects and the actions fetched. -/
def responseOf (readings : Readings) (selected : ScoredBranch) (effects : List EffectOutcome)
    (actions : List Action) : Response :=
  { branchName := selected.branch.name
    branchId := selected.branch.id
    confidence := selected.confidence
    elapsed := readings.elapsed
    actions := actions.map Action.toFields
    warnings := effects.filterMap (·.warning?) }

/-- How to go on with a record, which must be accepted as one. -/
def Dialogue.withRecord {α : Type} (record : Except Rejection α) (resume : α → Dialogue) :
    Dialogue :=
  match record with
  | .ok a => resume a
  | .error rejection => .answer (.ofError (.unexpected rejection.message))

/-- The decision for a request that has been accepted.  The log and the actions are asked for
whatever becomes of either, and only add to the answer. -/
def Request.decide (request : Request) (readings : Readings) : Dialogue :=
  .listBranches request.workflowId fun fetched =>
    match fetched with
    | .error cause => .answer (.ofError (.branchFetch cause))
    | .ok branches =>
      match chooseBranch request readings branches with
      | .error e => .answer (.ofError e)
      | .ok (context, selected) =>
        .withRecord (entryOf request readings context selected).build fun entry =>
          .append entry fun logged =>
            .withRecord (effectOf "log_decision" .logWrite logged).build fun logging =>
              .listActions selected.branch.id fun found =>
                .withRecord (effectOf "fetch_actions" .actionFetch found).build fun fetching =>
                  .withRecord (responseOf readings selected [logging, fetching]
                    (found.toOption.getD [])).build fun response =>
                      .answer (.success response)

/-- The decision for any value as a request. -/
def decide (request : Json) (readings : Readings) : Dialogue :=
  match Request.ofJson request with
  | .error flaw => .answer (.ofError (.invalidRequest flaw))
  | .ok accepted => accepted.decide readings

/-! ## Stores -/

/-- The three stores over a common state: each call may fail with an error of type `ε` and may
change the state. -/
structure Stores (σ ε : Type) where
  listBranches : String → σ → Except ε (List Branch) × σ
  append : LogEntry → σ → Except ε Unit × σ
  listActions : String → σ → Except ε (List Action) × σ
  /-- The text of an error. -/
  wording : ε → String

/-- An outcome known by its text if it is an error. -/
def worded {ε α : Type} (wording : ε → String) : Except ε α → Except String α
  | .ok a => .ok a
  | .error e => .error (wording e)

/-- The answer of a dialogue with some stores, and the state after it. -/
def Dialogue.run {σ ε : Type} (stores : Stores σ ε) : Dialogue → σ → Envelope × σ
  | answer envelope, s => (envelope, s)
  | listBranches workflowId resume, s =>
    let (outcome, s') := stores.listBranches workflowId s
    (resume (worded stores.wording outcome)).run stores s'
  | append entry resume, s =>
    let (outcome, s') := stores.append entry s
    (resume (worded stores.wording outcome)).run stores s'
  | listActions branchId resume, s =>
    let (outcome, s') := stores.listActions branchId s
    (resume (worded stores.wording outcome)).run stores s'

end BranchChoice
