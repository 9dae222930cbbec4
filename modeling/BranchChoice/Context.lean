import BranchChoice.Calendar
import BranchChoice.Row.Record

/-!
# Requests and contexts

A request is taken from any value, and what is wrong with it is told in one line.  The context that
conditions look at has the sections of the request that were supplied, and the time.
-/

namespace BranchChoice

/-! ## Accepting requests -/

/-- What is wrong with a request. -/
inductive RequestFlaw where
  | notObject
  | missingIds
  | illTypedIds
  | illTypedSections (names : List String)
  deriving DecidableEq

/-- The wording of a flaw. -/
def RequestFlaw.message : RequestFlaw → String
  | notObject => "Request body must be an object"
  | missingIds => "workflow_id and contact_id are required"
  | illTypedIds => "workflow_id and contact_id must be strings"
  | illTypedSections names => "Invalid request fields: " ++ ", ".intercalate names

namespace Request

/-- The names of the identifiers. -/
def idNames : List String := ["workflow_id", "contact_id"]

/-- Whether an issue is with an identifier. -/
def isIdIssue (i : Issue) : Bool :=
  match i.path with
  | .field name :: _ => idNames.contains name
  | _ => false

/-- Whether an issue is that nothing was given: the field is missing, null or empty. -/
def isAbsence (i : Issue) : Bool :=
  i.fault == .missing || i.fault == .tooShort ||
    match i.found with
    | some .null => true
    | _ => false

/-- The names of the fields that issues are with, each once, in alphabetical order. -/
def fieldNames (issues : List Issue) : List String :=
  let names := issues.filterMap fun i =>
    match i.path with
    | .field name :: _ => some name
    | _ => none
  names.eraseDups.mergeSort fun a b => !(b < a)

/-- What the issues of a request amount to.  Identifiers come before sections, and absent ones
before ill-typed ones. -/
def flawOf (issues : List Issue) : RequestFlaw :=
  let idIssues := issues.filter isIdIssue
  if idIssues.any isAbsence then .missingIds
  else if !idIssues.isEmpty then .illTypedIds
  else .illTypedSections (fieldNames issues)

/-- The request that a value describes, or what is wrong with it. -/
def ofJson (v : Json) : Except RequestFlaw Request :=
  match v with
  | .object _ =>
    match check v with
    | .ok r => .ok r
    | .error issues => .error (flawOf issues)
  | _ => .error .notObject

/-! ## The context -/

/-- The sections that were supplied. -/
def sections (r : Request) : Fields :=
  [("form_data", r.formData), ("contact_history", r.contactHistory),
    ("custom_data", r.customData)].filterMap fun (name, given) =>
      given.map fun fields => (name, Json.object fields)

/-- The context of a request at an instant. -/
def contextAt (r : Request) (instant : Nat) : Fields :=
  r.sections ++ [("current_date", .text (Calendar.writeInstant instant))]

/-- The context of a request at the time of a reading. -/
def context (r : Request) (reading : ClockReading) : Except ClockError Fields :=
  reading.instant.map r.contextAt

/-- The context of a request at the time that a clock shows. -/
def contextNow (r : Request) (clock : Clock) : Except ClockError Fields :=
  clock.bind r.context

end Request

end BranchChoice
