import BranchChoice.Row.Branch

/-!
# Records of a decision

What is kept and returned around a decision: the request, a branch with its score, the entry of the
decision log, the outcome of a side effect, and the two answers.
-/

namespace BranchChoice

/-- A text or null. -/
def Json.ofText? : Option String → Json
  | some s => .text s
  | none => .null

/-! ## The request -/

/-- The input of a decision. -/
structure Request where
  workflowId : String
  contactId : String
  formData : Option Fields
  contactHistory : Option Fields
  customData : Option Fields

namespace Request

/-- The name of this kind of row. -/
def kind : String := "DecisionRequest"

/-- The request that a value describes. -/
def check (v : Json) : Checked Request :=
  v.checkRow fun row => Request.mk
    <$> row.required "workflow_id" Coercion.nonEmpty
    <*> row.required "contact_id" Coercion.nonEmpty
    <*> row.optional "form_data" none (Coercion.orNull Coercion.object)
    <*> row.optional "contact_history" none (Coercion.orNull Coercion.object)
    <*> row.optional "custom_data" none (Coercion.orNull Coercion.object)

/-- The request that a value describes, or why it describes none. -/
def read (v : Json) : Except Rejection Request :=
  (check v).orReject kind

/-- An object or null. -/
def sectionJson : Option Fields → Json
  | some fields => .object fields
  | none => .null

/-- The request as an object. -/
def toJson (r : Request) : Json :=
  .object [
    ("workflow_id", .text r.workflowId),
    ("contact_id", .text r.contactId),
    ("form_data", sectionJson r.formData),
    ("contact_history", sectionJson r.contactHistory),
    ("custom_data", sectionJson r.customData)]

end Request

/-! ## Scores -/

/-- A branch with the share of its conditions that match. -/
structure ScoredBranch where
  branch : Branch
  confidence : Binary64
  matched : Int
  total : Int

namespace ScoredBranch

/-- The name of this kind of row. -/
def kind : String := "ScoredBranch"

/-- The scored branch that a row describes. -/
def check (v : Json) : Checked ScoredBranch :=
  v.checkRow fun row => ScoredBranch.mk
    <$> row.required "branch" Branch.check
    <*> row.required "confidence" Coercion.share
    <*> row.optional "matched" 0 Coercion.integer
    <*> row.optional "total" 0 Coercion.integer

/-- The scored branch that a row describes, or why it describes none. -/
def read (v : Json) : Except Rejection ScoredBranch :=
  (check v).orReject kind

/-- A branch with the parts of its score, which are checked like those of a row. -/
def build (b : Branch) (confidence : Binary64) (matched total : Int) :
    Except Rejection ScoredBranch :=
  let checked : Checked ScoredBranch := ScoredBranch.mk b
    <$> (Coercion.share (.float confidence)).inside (.field "confidence")
    <*> Checked.accept matched
    <*> Checked.accept total
  checked.orReject kind

/-- The scored branch as a row. -/
def toJson (s : ScoredBranch) : Json :=
  .object [
    ("branch", s.branch.toJson),
    ("confidence", .float s.confidence),
    ("matched", .int s.matched),
    ("total", .int s.total)]

end ScoredBranch

/-! ## The log -/

/-- The record of one decision. -/
structure LogEntry where
  workflowId : String
  contactId : String
  branchId : String
  context : Fields
  confidence : Binary64
  elapsed : Binary64

namespace LogEntry

/-- The name of this kind of row. -/
def kind : String := "DecisionLogEntry"

/-- The log entry that a row describes. -/
def check (v : Json) : Checked LogEntry :=
  v.checkRow fun row => LogEntry.mk
    <$> row.required "workflow_id" Coercion.text
    <*> row.required "contact_id" Coercion.text
    <*> row.required "branch_selected" Coercion.text
    <*> row.optional "decision_context" [] Coercion.object
    <*> row.required "confidence_score" Coercion.number
    <*> row.required "execution_time_ms" Coercion.number

/-- The log entry that a row describes, or why it describes none. -/
def read (v : Json) : Except Rejection LogEntry :=
  (check v).orReject kind

/-- The log entry as a row. -/
def toJson (e : LogEntry) : Json :=
  .object [
    ("workflow_id", .text e.workflowId),
    ("contact_id", .text e.contactId),
    ("branch_selected", .text e.branchId),
    ("decision_context", .object e.context),
    ("confidence_score", .float e.confidence),
    ("execution_time_ms", .float e.elapsed)]

/-- The log entry, checked like a row. -/
def build (e : LogEntry) : Except Rejection LogEntry :=
  read e.toJson

end LogEntry

/-! ## Side effects -/

/-- The outcome of a call that a decision does not depend on. -/
structure EffectOutcome where
  name : String
  ok : Bool
  errorCode : Option String
  errorMessage : Option String

namespace EffectOutcome

/-- The name of this kind of row. -/
def kind : String := "SideEffectOutcome"

/-- The outcome that a row describes. -/
def check (v : Json) : Checked EffectOutcome :=
  v.checkRow fun row => EffectOutcome.mk
    <$> row.required "name" Coercion.text
    <*> row.optional "ok" true Coercion.truth
    <*> row.optional "error_code" none (Coercion.orNull Coercion.text)
    <*> row.optional "error_message" none (Coercion.orNull Coercion.text)

/-- The outcome that a row describes, or why it describes none. -/
def read (v : Json) : Except Rejection EffectOutcome :=
  (check v).orReject kind

/-- The outcome as a row. -/
def toJson (o : EffectOutcome) : Json :=
  .object [
    ("name", .text o.name),
    ("ok", .bool o.ok),
    ("error_code", .ofText? o.errorCode),
    ("error_message", .ofText? o.errorMessage)]

/-- The outcome, checked like a row. -/
def build (o : EffectOutcome) : Except Rejection EffectOutcome :=
  read o.toJson

/-- The warning about a side effect that failed; what is not known of it is called none. -/
def warning? (o : EffectOutcome) : Option String :=
  if o.ok then none
  else some (o.errorCode.getD "None" ++ ": " ++ o.errorMessage.getD "None")

end EffectOutcome

/-! ## Answers -/

/-- The answer of a decision that was made. -/
structure Response where
  branchName : String
  branchId : String
  confidence : Binary64
  elapsed : Binary64
  actions : List Fields
  /-- What went wrong beside the decision; not part of the written answer. -/
  warnings : List String

namespace Response

/-- The name of this kind of row. -/
def kind : String := "DecisionResponse"

/-- The answer that a row describes. -/
def check (v : Json) : Checked Response :=
  v.checkRow fun row => (fun _ => Response.mk)
    <$> row.optional "success" () (Coercion.exactly true)
    <*> row.required "branch_selected" Coercion.text
    <*> row.required "branch_id" Coercion.text
    <*> row.required "confidence_score" Coercion.share
    <*> row.required "execution_time_ms" Coercion.number
    <*> row.optional "actions_to_execute" [] (Coercion.list Coercion.object)
    <*> row.optional "warnings" [] (Coercion.list Coercion.text)

/-- The answer that a row describes, or why it describes none. -/
def read (v : Json) : Except Rejection Response :=
  (check v).orReject kind

/-- The members of the written answer. -/
def toFields (r : Response) : Fields :=
  [("success", .bool true),
    ("branch_selected", .text r.branchName),
    ("branch_id", .text r.branchId),
    ("confidence_score", .float r.confidence),
    ("execution_time_ms", .float r.elapsed),
    ("actions_to_execute", .list (r.actions.map .object))]

/-- The members that an answer is made from. -/
def parts (r : Response) : Fields :=
  [("branch_selected", .text r.branchName),
    ("branch_id", .text r.branchId),
    ("confidence_score", .float r.confidence),
    ("execution_time_ms", .float r.elapsed),
    ("actions_to_execute", .list (r.actions.map .object)),
    ("warnings", .list (r.warnings.map .text))]

/-- The answer, checked like a row. -/
def build (r : Response) : Except Rejection Response :=
  read (.object r.parts)

end Response

/-- The answer of a decision that was not made. -/
structure FailureResponse where
  error : String
  code : String

namespace FailureResponse

/-- The name of this kind of row. -/
def kind : String := "DecisionFailure"

/-- The answer that a row describes. -/
def check (v : Json) : Checked FailureResponse :=
  v.checkRow fun row => (fun _ => FailureResponse.mk)
    <$> row.optional "success" () (Coercion.exactly false)
    <*> row.required "error" Coercion.text
    <*> row.required "error_code" Coercion.text

/-- The answer that a row describes, or why it describes none. -/
def read (v : Json) : Except Rejection FailureResponse :=
  (check v).orReject kind

/-- The members of the written answer. -/
def toFields (f : FailureResponse) : Fields :=
  [("success", .bool false), ("error", .text f.error), ("error_code", .text f.code)]

end FailureResponse

end BranchChoice
